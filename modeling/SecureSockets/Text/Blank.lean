import SecureSockets.Unicode.Property

namespace SecureSockets.Text

open Unicode

/-!
Blank texts.  A character is blank when it has the White_Space property.
-/

def trim (text : List Char) : List Char :=
  ((text.dropWhile Property.isBlank).reverse.dropWhile Property.isBlank).reverse

def isBlank (text : List Char) : Bool :=
  text.all Property.isBlank

/-- A text without the blank characters at its ends.  A text of which nothing is left
counts as missing, which is why blank settings need no check of their own. -/
def trimmed? (text : String) : Option String :=
  match trim text.toList with
  | [] => none
  | trimmed => some (String.ofList trimmed)

end SecureSockets.Text
