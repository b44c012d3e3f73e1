import QueryFrames.Session.Basic
import QueryFrames.Text.Inspected

/-!
The inspected form of values for people who look for a mistake: a record with its fields by name, on one line or
laid out over several.
-/

namespace QueryFrames

/-- A value taken apart for inspection. -/
inductive Inspection where
  | leaf (text : String)
  | list (items : List Inspection)
  | record (name : String) (fields : List (String × Inspection))

namespace Inspection

/-- A text, shown in quotes. -/
def text (value : String) : Inspection := leaf (Text.inspect value)

/-- A truth value. -/
def bool (value : Bool) : Inspection := leaf (if value then "true" else "false")

mutual

/-- The value on one line. -/
def line : Inspection → String
  | leaf text => text
  | list items => "[" ++ String.intercalate ", " (itemLines items) ++ "]"
  | record name [] => name
  | record name (field :: fields) =>
    name ++ " \x7b " ++ String.intercalate ", " (fieldLines (field :: fields)) ++ " \x7d"

/-- The items of a list, each on one line. -/
def itemLines : List Inspection → List String
  | [] => []
  | item :: items => item.line :: itemLines items

/-- The fields of a record, each on one line. -/
def fieldLines : List (String × Inspection) → List String
  | [] => []
  | (name, value) :: fields => (name ++ ": " ++ value.line) :: fieldLines fields

end

mutual

/-- The value laid out, its own lines `margin` blanks from the left. -/
def layout (margin : Nat) : Inspection → String
  | leaf text => text
  | list [] => "[]"
  | list (item :: items) => "[\n" ++ itemLayout (margin + 4) (item :: items) ++ Text.blanks margin ++ "]"
  | record name [] => name
  | record name (field :: fields) =>
    name ++ " \x7b\n" ++ fieldLayout (margin + 4) (field :: fields) ++ Text.blanks margin ++ "\x7d"

/-- The items of a list, each ended by a comma. -/
def itemLayout (margin : Nat) : List Inspection → String
  | [] => ""
  | item :: items => Text.blanks margin ++ item.layout margin ++ ",\n" ++ itemLayout margin items

/-- The fields of a record, each ended by a comma. -/
def fieldLayout (margin : Nat) : List (String × Inspection) → String
  | [] => ""
  | (name, value) :: fields =>
    Text.blanks margin ++ name ++ ": " ++ value.layout margin ++ ",\n" ++ fieldLayout margin fields

end

/-- The value laid out over several lines. -/
def pretty (value : Inspection) : String := value.layout 0

end Inspection

/-- Aliases, as they show themselves on inspection. -/
def Inspection.aliases (aliases : List String) : Inspection :=
  .list (aliases.map .text)

/-- A frame, with the names of its dependencies and whether its shape is known. -/
def Session.inspectFrame (session : Session) (frame : Frame) : Inspection :=
  .record "QueryNode"
    [("alias", .text frame.name), ("fragment", .text frame.fragment),
      ("dependencies", .aliases (Keyed.keys frame.dependencies)),
      ("schema_cached", .bool (session.schema? frame.id).isSome)]

/-- A session. -/
def Session.inspect (session : Session) : Inspection :=
  .record "Session"
    [("dialect", .leaf session.dialect.inspect), ("views", .aliases session.views.aliases),
      ("default_aliases", .leaf (toString session.aliases.allocated)), ("connected", .bool session.connected)]

/-- A builder, which is a hold on a session. -/
def Session.inspectBuilder (session : Session) : Inspection :=
  .record "Builder" [("session", session.inspect)]

end QueryFrames
