import SecureSockets.Unicode.Joining
import SecureSockets.Unicode.Normal

namespace SecureSockets.Idna

/-!
The contextual rules for the two joiners.  Both may follow a virama.  The zero width
non-joiner may also stand between letters that would otherwise join across it.
-/

open Unicode

def zeroWidthNonJoiner : Char := Char.ofNat 0x200C
def zeroWidthJoiner : Char := Char.ofNat 0x200D

/-- Whether the first letter that is not transparent joins in one of the given ways. -/
def joinsToward (ways : List JoiningType) (letters : List Char) : Bool :=
  match letters.dropWhile fun c => JoiningType.of c == .transparent with
  | [] => false
  | c :: _ => ways.contains (JoiningType.of c)

/-- Whether a character may stand where it does.  `before` is the text in front of it, the
nearest character first. -/
def joinerAllowed (before : List Char) (c : Char) (after : List Char) : Bool :=
  if c == zeroWidthNonJoiner || c == zeroWidthJoiner then
    match before with
    | [] => false
    | previous :: _ =>
      Normal.isVirama previous ||
        (c == zeroWidthNonJoiner &&
          joinsToward [.leftJoining, .dualJoining] before &&
          joinsToward [.rightJoining, .dualJoining] after)
  else
    true

def joinersAllowed (before : List Char) : List Char → Bool
  | [] => true
  | c :: rest => joinerAllowed before c rest && joinersAllowed (c :: before) rest

end SecureSockets.Idna
