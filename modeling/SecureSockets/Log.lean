namespace SecureSockets

/-!
Log records, and the effects of the library's operations.  What an operation logs is
part of its result: it extends the log that it is given.  Operations that call an
application's own objects also pass on the state that those objects keep.
-/

inductive Severity where
  | trace
  | debug
  | warn
  deriving DecidableEq, Repr

def Severity.name : Severity → String
  | trace => "TRACE"
  | debug => "DEBUG"
  | warn => "WARN"

structure LogRecord where
  severity : Severity
  message : String
  deriving DecidableEq, Repr

def LogRecord.line (record : LogRecord) : String :=
  record.severity.name ++ " " ++ record.message

abbrev Log := List LogRecord

/-- A computation that extends a log.  The log is a state and not only an output, so that
what is logged before and after a call stays in order. -/
abbrev Logged := StateM Log

/-- A computation that extends a log and acts on a state of type `σ`.  Failures are
answers of such a computation, so that an action which fails has still acted and
logged. -/
abbrev Effect (σ : Type) := StateT σ Logged

def writeLog (severity : Severity) (message : String) : Logged Unit :=
  modify (· ++ [⟨severity, message⟩])

end SecureSockets
