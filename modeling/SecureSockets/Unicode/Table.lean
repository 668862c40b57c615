namespace SecureSockets.Unicode

/-!
Compact tables of character properties.  A table is a list of rows in ascending
order; each row names the first code point it speaks of and carries a sequence of
numbers.  The numbers are read in one of three ways: as runs with a class, as
stretches inside and outside a set, or as values assigned to single code points.
A look-up decodes only the row that covers the code point in question.
-/

/-- A stretch of a table: the first code point it speaks of and its numbers, written
in base 26 with letters for digits, the last digit of each number in lower case. -/
structure Row where
  first : Nat
  text : String

namespace Row

def numbersFrom (value : Nat) : List Char → List Nat
  | [] => []
  | c :: rest =>
    if 97 ≤ c.toNat then
      (value * 26 + (c.toNat - 97)) :: numbersFrom 0 rest
    else
      numbersFrom (value * 26 + (c.toNat - 65)) rest

def numbers (row : Row) : List Nat :=
  numbersFrom 0 row.text.toList

end Row

/-- The row that covers a code point: the last one that starts at or before it. -/
def coveringRow (rows : List Row) (code : Nat) : Option Row :=
  (rows.takeWhile fun row => decide (row.first ≤ code)).getLast?

def classAt : List Nat → Nat → Option Nat
  | length :: label :: rest, offset =>
    if offset < length then some label else classAt rest (offset - length)
  | _, _ => none

/-- Reads numbers as lengths of stretches that lie inside and outside a set in turn. -/
def insideAt (inside : Bool) : List Nat → Nat → Bool
  | [], _ => false
  | length :: rest, offset =>
    if offset < length then inside else insideAt (!inside) rest (offset - length)

/-- Reads numbers as assignments, each the distance from the previous assigned code
point, a count and that many values.  `fuel` bounds the number of assignments read. -/
def valuesAt : Nat → List Nat → Nat → Option (List Nat)
  | fuel + 1, gap :: count :: rest, offset =>
    if offset < gap then none
    else if offset = gap then some (rest.take count)
    else valuesAt fuel (rest.drop count) (offset - gap - 1)
  | _, _, _ => none

def classOf (rows : List Row) (code : Nat) : Option Nat :=
  (coveringRow rows code).bind fun row => classAt row.numbers (code - row.first)

def contains (rows : List Row) (code : Nat) : Bool :=
  match coveringRow rows code with
  | some row => insideAt true row.numbers (code - row.first)
  | none => false

def valuesOf (rows : List Row) (code : Nat) : Option (List Nat) :=
  (coveringRow rows code).bind fun row =>
    let numbers := row.numbers
    valuesAt numbers.length numbers (code - row.first)

end SecureSockets.Unicode
