/-!
# Log records

What an operation notes while it runs.  A record has the channel it was written to, a level and the
message.
-/

namespace Strided.Log

/-- How grave a record is. -/
inductive Level where
  | notSet
  | debug
  | info
  | warning
  | error
  | critical
  deriving DecidableEq, Repr

def Level.number : Level → Nat
  | .notSet => 0
  | .debug => 10
  | .info => 20
  | .warning => 30
  | .error => 40
  | .critical => 50

def Level.name : Level → String
  | .notSet => "NOTSET"
  | .debug => "DEBUG"
  | .info => "INFO"
  | .warning => "WARNING"
  | .error => "ERROR"
  | .critical => "CRITICAL"

/-- The level of a given name; two of them have a second name. -/
def Level.ofName? : String → Option Level
  | "NOTSET" => some .notSet
  | "DEBUG" => some .debug
  | "INFO" => some .info
  | "WARN" => some .warning
  | "WARNING" => some .warning
  | "ERROR" => some .error
  | "FATAL" => some .critical
  | "CRITICAL" => some .critical
  | _ => none

/-- Who writes a record: broken contracts, the stacks of defaults, or the command line. -/
inductive Channel where
  | errors
  | defaulting
  | main
  deriving DecidableEq, Repr

def Channel.name : Channel → String
  | .errors => "errors"
  | .defaulting => "defaulting"
  | .main => "main"

/-- One record. -/
structure Record where
  channel : Channel
  level : Level
  message : String
  deriving DecidableEq, Repr

end Strided.Log
