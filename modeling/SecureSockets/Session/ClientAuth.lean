namespace SecureSockets.Session

/-!
Client authentication: whether a server asks its clients for a certificate.
-/

inductive ClientAuth where
  | none
  | requested
  | required
  deriving DecidableEq, Repr

namespace ClientAuth

/-- The treatment that two flags describe.  A need outweighs a wish, because a record of
parameters may hold both. -/
def ofFlags (need want : Bool) : ClientAuth :=
  if need then required else if want then requested else none

def render : ClientAuth → String
  | none => "none"
  | requested => "requested"
  | required => "required"

def inspect : ClientAuth → String
  | none => "None"
  | requested => "Requested"
  | required => "Required"

end ClientAuth

end SecureSockets.Session
