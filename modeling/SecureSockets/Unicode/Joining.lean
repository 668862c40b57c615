import SecureSockets.Unicode.Joining.Table

namespace SecureSockets.Unicode

/-!
Joining types: which sides of a letter take part in cursive joining.
-/

inductive JoiningType where
  | nonJoining
  | joinCausing
  | dualJoining
  | leftJoining
  | rightJoining
  | transparent
  deriving DecidableEq, Repr

namespace JoiningType

/-- All types, in the order in which the table numbers them. -/
def all : List JoiningType :=
  [nonJoining, joinCausing, dualJoining, leftJoining, rightJoining, transparent]

def of (c : Char) : JoiningType :=
  ((classOf Joining.rows c.toNat).bind fun place => all[place]?).getD nonJoining

end JoiningType

end SecureSockets.Unicode
