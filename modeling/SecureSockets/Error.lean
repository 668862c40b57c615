import SecureSockets.Text.Quoted

namespace SecureSockets

/-!
The failures of the library.  There are five kinds that callers are expected to tell
apart; each has a text, a chain of sources, and a form as a failure of input or output.
-/

/-- Why an operation failed.  A failed construction either has a reason of its own or was
caused by another failure, and only in the second case is there a failure to report as its
source. -/
inductive Error where
  /-- A required argument is absent. -/
  | nullArgument (argument : String)
  | invalidArgument (reason : String)
  /-- No provider offers the algorithm of a service. -/
  | noSuchAlgorithm (serviceType algorithm : String)
  | noSuchProvider (provider : String)
  /-- A provider could not construct a service, for a reason of its own. -/
  | constructionFailure (reason : String)
  /-- A provider could not construct a service because of another failure. -/
  | constructionFailureOf (cause : Error)
  deriving DecidableEq, Repr, Inhabited

/-- The kind of a failure, which is all that callers should decide upon. -/
inductive ErrorKind where
  | nullArgument
  | invalidArgument
  | noSuchAlgorithm
  | noSuchProvider
  | constructionFailure
  deriving DecidableEq, Repr

def ErrorKind.name : ErrorKind → String
  | nullArgument => "NullArgument"
  | invalidArgument => "InvalidArgument"
  | noSuchAlgorithm => "NoSuchAlgorithm"
  | noSuchProvider => "NoSuchProvider"
  | constructionFailure => "ConstructionFailure"

/-- The kinds that are told apart where a failure has to pass as one of input or
output. -/
inductive IoErrorKind where
  | invalidInput
  | notFound
  | other
  deriving DecidableEq, Repr

def IoErrorKind.name : IoErrorKind → String
  | invalidInput => "InvalidInput"
  | notFound => "NotFound"
  | other => "Other"

namespace Error

def kind : Error → ErrorKind
  | nullArgument _ => .nullArgument
  | invalidArgument _ => .invalidArgument
  | noSuchAlgorithm _ _ => .noSuchAlgorithm
  | noSuchProvider _ => .noSuchProvider
  | constructionFailure _ | constructionFailureOf _ => .constructionFailure

def message : Error → String
  | nullArgument argument => "Required argument is absent: " ++ argument
  | invalidArgument reason => "Invalid argument: " ++ reason
  | noSuchAlgorithm serviceType algorithm =>
    "No such algorithm: " ++ algorithm ++ " (" ++ serviceType ++ ")"
  | noSuchProvider provider => "No such provider: " ++ provider
  | constructionFailure reason => "Construction failed: " ++ reason
  | constructionFailureOf cause => "Construction failed: " ++ cause.message

/-- The texts of what a failure was caused by, the nearest cause first.  A reason in words
is a cause as well, though it has none itself. -/
def sources : Error → List String
  | constructionFailure reason => [reason]
  | constructionFailureOf cause => cause.message :: cause.sources
  | _ => []

def ioKind : Error → IoErrorKind
  | nullArgument _ | invalidArgument _ => .invalidInput
  | noSuchAlgorithm _ _ | noSuchProvider _ => .notFound
  | constructionFailure _ | constructionFailureOf _ => .other

/-- The text of a failure as one of input or output.  It says less than the text of the
failure: the bare reason where there is one, and the text of the cause for failed
constructions. -/
def ioMessage : Error → String
  | invalidArgument reason => reason
  | constructionFailure reason => reason
  | constructionFailureOf cause => cause.message
  | error => error.message

def inspect : Error → String
  | nullArgument argument => Text.wrapped "NullArgument" (Text.quoted argument)
  | invalidArgument reason => Text.wrapped "InvalidArgument" (Text.quoted reason)
  | noSuchAlgorithm serviceType algorithm =>
    Text.record "NoSuchAlgorithm"
      [("service_type", Text.quoted serviceType), ("algorithm", Text.quoted algorithm)]
  | noSuchProvider provider => Text.wrapped "NoSuchProvider" (Text.quoted provider)
  | constructionFailure reason => Text.wrapped "ConstructionFailure" (Text.quoted reason)
  | constructionFailureOf cause => Text.wrapped "ConstructionFailure" cause.inspect

end Error

end SecureSockets
