import SecureSockets.Unicode.Folding
import SecureSockets.Unicode.Property

namespace SecureSockets.Regex

open Unicode

/-!
Sets of characters as patterns describe them.  A set is kept as the expression that
describes it; membership reads the expression.
-/

inductive CharSet where
  | empty
  /-- The characters between two code points, both included. -/
  | range (first last : Nat)
  /-- The digits, blanks and word characters of all scripts. -/
  | digit
  | blank
  | word
  | property (property : Property)
  | union (left right : CharSet)
  | intersection (left right : CharSet)
  | difference (left right : CharSet)
  | symmetricDifference (left right : CharSet)
  | complement (set : CharSet)
  /-- The set with all other spellings of its members, of ASCII letters only or by
  simple case folding. -/
  | folded (asciiOnly : Bool) (set : CharSet)

namespace CharSet

def contains : CharSet → Char → Bool
  | empty, _ => false
  | range first last, c => decide (first ≤ c.toNat) && decide (c.toNat ≤ last)
  | digit, c => Property.isDigit c
  | blank, c => Property.isBlank c
  | word, c => Property.isWord c
  | property p, c => p.contains c
  | union left right, c => left.contains c || right.contains c
  | intersection left right, c => left.contains c && right.contains c
  | difference left right, c => left.contains c && !right.contains c
  | symmetricDifference left right, c => left.contains c != right.contains c
  | complement set, c => !set.contains c
  | folded asciiOnly set, c =>
    set.contains c ||
      (if asciiOnly then Folding.asciiOthers c else Folding.others c).any set.contains

def singleton (c : Char) : CharSet :=
  range c.toNat c.toNat

def ofRanges : List (Char × Char) → CharSet
  | [] => empty
  | (first, last) :: rest => union (range first.toNat last.toNat) (ofRanges rest)

def asciiDigit : CharSet := ofRanges [('0', '9')]

def asciiBlank : CharSet := ofRanges [('\t', '\r'), (' ', ' ')]

def asciiWord : CharSet := ofRanges [('0', '9'), ('A', 'Z'), ('_', '_'), ('a', 'z')]

def asciiClass? (name : List Char) : Option CharSet :=
  match String.ofList name with
  | "alnum" => some (ofRanges [('0', '9'), ('A', 'Z'), ('a', 'z')])
  | "alpha" => some (ofRanges [('A', 'Z'), ('a', 'z')])
  | "ascii" => some (ofRanges [('\x00', '\x7F')])
  | "blank" => some (ofRanges [('\t', '\t'), (' ', ' ')])
  | "cntrl" => some (ofRanges [('\x00', '\x1F'), ('\x7F', '\x7F')])
  | "digit" => some asciiDigit
  | "graph" => some (ofRanges [('!', '~')])
  | "lower" => some (ofRanges [('a', 'z')])
  | "print" => some (ofRanges [(' ', '~')])
  | "punct" => some (ofRanges [('!', '/'), (':', '@'), ('[', '\x60'), ('\x7b', '~')])
  | "space" => some asciiBlank
  | "upper" => some (ofRanges [('A', 'Z')])
  | "word" => some asciiWord
  | "xdigit" => some (ofRanges [('0', '9'), ('A', 'F'), ('a', 'f')])
  | _ => none

end CharSet

end SecureSockets.Regex
