import QueryFrames.Worker.Error

/-!
Why settings cannot be had.
-/

namespace QueryFrames

/-- Why settings cannot be read, or a text in them cannot be expanded. -/
inductive SettingsError where
  | fileNotFound (path : String)
  | unreadable (fault : IoFault)
  | malformed
  | missingVariable (name : String)
deriving DecidableEq, Repr

/-- The text shown for an error. -/
def SettingsError.message : SettingsError → String
  | fileNotFound path => "Config file not found: " ++ path
  | unreadable fault => "Failed to read config file: " ++ fault.message
  | malformed => "Failed to parse config file: not a valid configuration"
  | missingVariable name => "Missing environment variable: " ++ name

end QueryFrames
