import SecureSockets.Text.Hex
import SecureSockets.Unicode.Property

namespace SecureSockets.Text

open Unicode

/-!
Texts for people who read logs: strings in quotes, optional values, and records with
their fields.  A record may hide fields, which shows as two dots at its end.
-/

def isExtendingMark (c : Char) : Bool :=
  (Category.of c).isMark && Property.isGraphemeExtend c

/-- Whether a character is written as it is inside quotes.  Characters that do not show
and marks that extend the character before them are not. -/
def isPrintable (c : Char) : Bool :=
  c == ' ' ||
    !((Category.of c).isOther || (Category.of c).isSeparator || isExtendingMark c)

def quotedChar (c : Char) : List Char :=
  match c with
  | '"' => ['\\', '"']
  | '\\' => ['\\', '\\']
  | '\x00' => ['\\', '0']
  | '\t' => ['\\', 't']
  | '\n' => ['\\', 'n']
  | '\r' => ['\\', 'r']
  | c =>
    if isPrintable c then [c]
    else ['\\', 'u', '\x7b'] ++ hexNumber c.toNat ++ ['\x7d']

/-- A text in double quotes.  Whatever it holds, the result is one line and its end can be
told, so that texts from outside cannot disguise themselves in a log. -/
def quoted (text : String) : String :=
  String.ofList ('"' :: text.toList.flatMap quotedChar ++ ['"'])

def optional : Option String → String
  | none => "None"
  | some text => "Some(" ++ text ++ ")"

def wrapped (name content : String) : String :=
  name ++ "(" ++ content ++ ")"

def record (name : String) (fields : List (String × String)) : String :=
  let body := ", ".intercalate (fields.map fun (field, text) => field ++ ": " ++ text)
  name ++ " \x7b " ++ body ++ " \x7d"

/-- A record that hides some of its fields. -/
def openRecord (name : String) (fields : List (String × String)) : String :=
  let body := ", ".intercalate (fields.map fun (field, text) => field ++ ": " ++ text)
  name ++ " \x7b " ++ body ++ ", .. \x7d"

end SecureSockets.Text
