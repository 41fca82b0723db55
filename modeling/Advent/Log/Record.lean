/-!
# Log records

A record has a level, the target that wrote it, a message and named values in the order in which
they were given. Its line shows everything but the target.
-/
namespace Advent.Log

inductive Level
  | error
  | warn
  | info
  | debug
  | trace
  deriving Repr, DecidableEq

/-- From one for errors to five for traces. -/
def Level.verbosity : Level → Nat
  | .error => 1
  | .warn => 2
  | .info => 3
  | .debug => 4
  | .trace => 5

def Level.label : Level → String
  | .error => "ERROR"
  | .warn => "WARN"
  | .info => "INFO"
  | .debug => "DEBUG"
  | .trace => "TRACE"

structure Record where
  level : Level
  target : String
  message : String
  /-- Names and the texts of their values. -/
  fields : List (String × String)
  deriving Repr, DecidableEq

def Record.line (record : Record) : String :=
  " ".intercalate
    ([record.level.label, record.message] ++ record.fields.map fun (name, value) => s!"{name}={value}")

end Advent.Log
