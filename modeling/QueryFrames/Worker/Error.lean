/-!
What can go wrong between a client and the worker process it talks to, and how the codes that a worker reports
are sorted into causes.
-/

namespace QueryFrames

/-- Faults of the operating system that a user gets to see. -/
inductive IoFault where
  | notFound
  | permissionDenied
  | notADirectory
  | isADirectory
  | brokenPipe
  | nameTooLong
  | notUtf8
  | holdsNul
  | noWorkerBinary
  | noLauncher
deriving DecidableEq, Repr

/-- The text shown for a fault of the operating system. -/
def IoFault.message : IoFault → String
  | notFound => "No such file or directory (os error 2)"
  | permissionDenied => "Permission denied (os error 13)"
  | notADirectory => "Not a directory (os error 20)"
  | isADirectory => "Is a directory (os error 21)"
  | brokenPipe => "Broken pipe (os error 32)"
  | nameTooLong => "File name too long (os error 36)"
  | notUtf8 => "stream did not contain valid UTF-8"
  | holdsNul => "nul byte found in provided data"
  | noWorkerBinary => "worker binary not found; set worker.path in bqframe.toml"
  | noLauncher => "Operation not supported (os error 95)"

/-- Why a request to the worker has no result. -/
inductive WorkerError where
  | spawnFailed (fault : IoFault)
  | writeFailed (fault : IoFault)
  | decodeFailed (detail : String)
  | timeout (seconds : Nat)
  | workerExited
  | channelClosed
  | authenticationFailed (message : String)
  | invalidQuery (message : String)
  | quotaExceeded (message : String)
  | connectionFailed (message : String)
  | remote (code message : String)
deriving DecidableEq, Repr

namespace WorkerError

/-- The text shown for an error. -/
def message : WorkerError → String
  | spawnFailed fault => "failed to spawn worker process: " ++ fault.message
  | writeFailed fault => "failed to write to worker: " ++ fault.message
  | decodeFailed detail => "failed to decode worker result: " ++ detail
  | timeout seconds => "request timed out after " ++ toString seconds ++ " seconds"
  | workerExited => "worker process exited unexpectedly"
  | channelClosed => "response channel closed unexpectedly"
  | authenticationFailed message => "authentication failed: " ++ message
  | invalidQuery message => "invalid query: " ++ message
  | quotaExceeded message => "quota exceeded: " ++ message
  | connectionFailed message => "connection failed: " ++ message
  | remote code message => "worker error: " ++ message ++ " (code: " ++ code ++ ")"

/-- The error for a code and message that a worker reports; an unknown code is kept as it is. -/
def classify (code message : String) : WorkerError :=
  match code with
  | "AUTHENTICATION_FAILED" => authenticationFailed message
  | "INVALID_QUERY" => invalidQuery message
  | "QUOTA_EXCEEDED" => quotaExceeded message
  | "CONNECTION_FAILED" => connectionFailed message
  | "WORKER_EXITED" => workerExited
  | _ => remote code message

end WorkerError

end QueryFrames
