/-!
# Log records

What is logged is part of what an operation does, so operations hand their log records back in
order instead of writing them somewhere.
-/

namespace BuildSession

inductive LogLevel where
  | debug
  | info
  | warn
  | error
  deriving DecidableEq

def LogLevel.name : LogLevel → String
  | .debug => "DEBUG"
  | .info => "INFO"
  | .warn => "WARN"
  | .error => "ERROR"

structure LogRecord where
  level : LogLevel
  message : String
  fields : List (String × String) := []
  deriving DecidableEq

end BuildSession
