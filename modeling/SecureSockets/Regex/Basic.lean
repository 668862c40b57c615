import SecureSockets.Regex.CharSet

namespace SecureSockets.Regex

/-!
Regular expressions, as far as the question whether a text matches depends on them.
Which of several matches is preferred, and what groups capture, is not kept.
-/

inductive Look where
  | textStart
  | textEnd
  | lineStart
  | lineEnd
  /-- Lines may end with a carriage return, a line feed or both. -/
  | anyLineStart
  | anyLineEnd
  | wordBoundary (asciiOnly : Bool)
  | notWordBoundary (asciiOnly : Bool)
  | wordStart (asciiOnly : Bool)
  | wordEnd (asciiOnly : Bool)
  | wordStartHalf (asciiOnly : Bool)
  | wordEndHalf (asciiOnly : Bool)
  deriving DecidableEq, Repr

namespace Look

def isWordChar (asciiOnly : Bool) (c : Option Char) : Bool :=
  c.any fun c => if asciiOnly then CharSet.asciiWord.contains c else CharSet.word.contains c

/-- Whether a condition holds between two characters, either of which may be missing. -/
def holds (look : Look) (before after : Option Char) : Bool :=
  match look with
  | textStart => before.isNone
  | textEnd => after.isNone
  | lineStart => before.isNone || before == some '\n'
  | lineEnd => after.isNone || after == some '\n'
  | anyLineStart =>
    before.isNone || before == some '\n' || (before == some '\r' && after != some '\n')
  | anyLineEnd =>
    after.isNone || after == some '\r' || (after == some '\n' && before != some '\r')
  | wordBoundary asciiOnly => isWordChar asciiOnly before != isWordChar asciiOnly after
  | notWordBoundary asciiOnly => isWordChar asciiOnly before == isWordChar asciiOnly after
  | wordStart asciiOnly => !isWordChar asciiOnly before && isWordChar asciiOnly after
  | wordEnd asciiOnly => isWordChar asciiOnly before && !isWordChar asciiOnly after
  | wordStartHalf asciiOnly => !isWordChar asciiOnly before
  | wordEndHalf asciiOnly => !isWordChar asciiOnly after

end Look

end SecureSockets.Regex

namespace SecureSockets

inductive Regex where
  | empty
  | chars (set : Regex.CharSet)
  | look (condition : Regex.Look)
  | seq (first second : Regex)
  | alt (left right : Regex)
  /-- At least `least` copies in a row, and no more than `most` if that is given. -/
  | rep (body : Regex) (least : Nat) (most : Option Nat)

end SecureSockets
