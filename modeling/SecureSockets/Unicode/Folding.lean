import SecureSockets.Unicode.Folding.Table

namespace SecureSockets.Unicode

/-!
Simple case folding: the other spellings of a character.  Folding identifies
characters one by one, so no text changes its length.
-/

namespace Folding

/-- The characters, other than itself, that a character is identified with.  There can be
several: the sign for kelvin goes with both cases of an ASCII letter. -/
def others (c : Char) : List Char :=
  ((valuesOf rows c.toNat).getD []).map Char.ofNat

def asciiOthers (c : Char) : List Char :=
  if c.isUpper then [c.toLower] else if c.isLower then [c.toUpper] else []

end Folding

end SecureSockets.Unicode
