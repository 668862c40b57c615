import SecureSockets.Text.Quoted

namespace SecureSockets

/-!
JSON values, as far as configurations are read from them and written to them.
-/

/-- A JSON value.  Numbers that are written without a point are integers; the others are a
whole number of units in some decimal place, so that no number is ever rounded. -/
inductive Json where
  | null
  | bool (value : Bool)
  | integer (value : Int)
  | decimal (units : Int) (places : Nat)
  | string (value : String)
  | array (items : List Json)
  | object (entries : List (String × Json))
  deriving Inhabited

namespace Json

def dropTrailingZeros (digits : List Char) : List Char :=
  match digits.reverse.dropWhile (· == '0') with
  | [] => ['0']
  | kept => kept.reverse

/-- A decimal number with a point and at least one digit on either side of it. -/
def decimalText (units : Int) (places : Nat) : String :=
  let digits := (toString units.natAbs).toList
  let padded := List.replicate (places + 1 - digits.length) '0' ++ digits
  let whole := padded.take (padded.length - places)
  let fraction := dropTrailingZeros (padded.drop (padded.length - places))
  String.ofList ((if units < 0 then ['-'] else []) ++ whole ++ ['.'] ++ fraction)

/-- A value in a few words, for messages.  Texts and numbers are shown, while what an
array or an object holds could be of any length and is not. -/
def describe : Json → String
  | null => "null"
  | bool value => "boolean `" ++ toString value ++ "`"
  | integer value => "integer `" ++ toString value ++ "`"
  | decimal units places => "floating point `" ++ decimalText units places ++ "`"
  | string value => "string " ++ Text.quoted value
  | array _ => "sequence"
  | object _ => "map"

def entry? (entries : List (String × Json)) (key : String) : Option Json :=
  (entries.find? fun entry => entry.1 == key).map (·.2)

end Json

end SecureSockets
