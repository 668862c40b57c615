import SecureSockets.Idna.Punycode
import SecureSockets.Idna.Mapping
import SecureSockets.Idna.Joiners
import SecureSockets.Idna.Direction
import SecureSockets.Unicode.Category

namespace SecureSockets.Idna

/-!
Conversion of one label of an internationalized name between its Unicode form and
its ASCII form.  A label is mapped and normalized, or decoded when it is in ASCII
form already, and then has to pass the checks for valid labels.
-/

/-- How much a conversion checks beyond the validity of the characters.  Joiners and the
direction of writing are no matter of strictness: they are always checked. -/
structure Strictness where
  /-- ASCII characters other than letters, digits and hyphens are refused. -/
  lettersDigitsHyphens : Bool
  /-- Hyphens at the ends, and at both the third and fourth place, are refused. -/
  hyphenPlaces : Bool
  /-- The ASCII form must have between 1 and 63 bytes. -/
  lengthLimits : Bool

namespace Strictness

/-- The rules for names typed by a user. -/
def full : Strictness := ⟨true, true, true⟩

def none : Strictness := ⟨false, false, false⟩

end Strictness

/-- Texts and runs of digits beyond these lengths are refused unseen, since converting
takes time that grows with the square of the length. -/
def encodingLimit : Nat := 1000

def decodingLimit : Nat := 2000

/-- The longest label that a resolver accepts, in bytes. -/
def labelLimit : Nat := 63

def isAscii (text : List Char) : Bool :=
  text.all fun c => decide (c.toNat < 128)

/-- The text after the four characters that mark a label in ASCII form, in either case. -/
def dropMarker : List Char → Option (List Char)
  | 'x' :: 'n' :: '-' :: '-' :: rest => some rest
  | 'X' :: 'n' :: '-' :: '-' :: rest => some rest
  | 'x' :: 'N' :: '-' :: '-' :: rest => some rest
  | 'X' :: 'N' :: '-' :: '-' :: rest => some rest
  | _ => .none

def asciiAllowed (rules : Strictness) (c : Char) : Bool :=
  !rules.lettersDigitsHyphens || decide (128 ≤ c.toNat) || c.isAlphanum || c == '-'

def hyphensAllowed (rules : Strictness) (text : List Char) : Bool :=
  !rules.hyphenPlaces ||
    !(text.head? == some '-' || text.getLast? == some '-' ||
      (text.drop 2).take 2 == ['-', '-'])

def startsWithMark (text : List Char) : Bool :=
  match text.head? with
  | some c => (Unicode.Category.of c).isMark
  | .none => false

/-- The checks on the Unicode form of a label.  A label that came in ASCII form has to
pass them as well, once it is decoded. -/
def isValidLabel (rules : Strictness) (text : List Char) : Bool :=
  text.all (asciiAllowed rules) && hyphensAllowed rules text && !startsWithMark text &&
    joinersAllowed [] text && (isAscii text || decide (text.length ≤ encodingLimit)) &&
    directionAllowed text

/-- Decodes what follows the marker of a label in ASCII form.  The result has to be what
the mapping would have left alone, or else two ASCII forms would share a Unicode form. -/
def decodeMarked (digits : List Char) : Option (List Char) :=
  if digits.getLast?.all (· != '-') && !digits.isEmpty &&
      decide (digits.length ≤ decodingLimit) then
    (Punycode.decode digits).filter Mapping.isStable
  else
    .none

def convert (rules : Strictness) (label : List Char) : Option (List Char × List Char) :=
  (Mapping.normalized label).bind fun mapped =>
    match dropMarker mapped with
    | some digits =>
      if isAscii mapped then
        ((decodeMarked digits).filter (isValidLabel rules)).map (·, mapped)
      else
        .none
    | .none =>
      if isValidLabel rules mapped then
        some (mapped,
          if isAscii mapped then mapped
          else 'x' :: 'n' :: '-' :: '-' :: Punycode.encode mapped)
      else
        .none

def toAscii (rules : Strictness) (label : List Char) : Option (List Char) :=
  ((convert rules label).map (·.2)).filter fun ascii =>
    !rules.lengthLimits || (!ascii.isEmpty && decide (ascii.length ≤ labelLimit))

/-- The Unicode form of a label, checked without strictness. -/
def toUnicode (label : List Char) : Option (List Char) :=
  (convert .none label).map (·.1)

end SecureSockets.Idna
