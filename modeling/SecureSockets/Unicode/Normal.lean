import SecureSockets.Unicode.Normal.Table

namespace SecureSockets.Unicode

/-!
Canonical normalization to composed form.  A text is decomposed in full, the marks
after each starter are put in canonical order, and then starters are joined with
the marks that follow them wherever a primary composite exists.
-/

namespace Normal

def combiningClass (c : Char) : Nat :=
  (classOf classRows c.toNat).getD 0

/-- Whether a character is a virama, a mark that silences the vowel of its base. -/
def isVirama (c : Char) : Bool :=
  combiningClass c == 9

/-!
Hangul syllables are arranged so that their parts follow by arithmetic.
-/

def syllableBase : Nat := 0xAC00
def leadBase : Nat := 0x1100
def vowelBase : Nat := 0x1161
def tailBase : Nat := 0x11A7
def leadCount : Nat := 19
def vowelCount : Nat := 21
def tailCount : Nat := 28

/-- The letters of a precomposed Hangul syllable.  Syllables are computed from their place
in the block, and no table lists them. -/
def syllableLetters (code : Nat) : Option (List Char) :=
  let index := code - syllableBase
  if syllableBase ≤ code ∧ index < leadCount * vowelCount * tailCount then
    let lead := leadBase + index / (vowelCount * tailCount)
    let vowel := vowelBase + index % (vowelCount * tailCount) / tailCount
    let tail := index % tailCount
    let open' := [Char.ofNat lead, Char.ofNat vowel]
    some (if tail = 0 then open' else open' ++ [Char.ofNat (tailBase + tail)])
  else
    none

def joinSyllable (first second : Nat) : Option Char :=
  if leadBase ≤ first ∧ first < leadBase + leadCount ∧
      vowelBase ≤ second ∧ second < vowelBase + vowelCount then
    some (Char.ofNat (syllableBase +
      ((first - leadBase) * vowelCount + (second - vowelBase)) * tailCount))
  else if syllableBase ≤ first ∧ first < syllableBase + leadCount * vowelCount * tailCount ∧
      (first - syllableBase) % tailCount = 0 ∧
      tailBase < second ∧ second < tailBase + tailCount then
    some (Char.ofNat (first + (second - tailBase)))
  else
    none

def decomposeChar (c : Char) : List Char :=
  match syllableLetters c.toNat with
  | some letters => letters
  | none =>
    match valuesOf decompositionRows c.toNat with
    | some codes => codes.map Char.ofNat
    | none => [c]

def partnerIn (second : Nat) : List Nat → Option Char
  | partner :: composite :: rest =>
    if partner = second then some (Char.ofNat composite) else partnerIn second rest
  | _ => none

def composePair (first second : Char) : Option Char :=
  match joinSyllable first.toNat second.toNat with
  | some syllable => some syllable
  | none => (valuesOf compositionRows first.toNat).bind (partnerIn second.toNat)

/-- Puts a mark in its place in front of an ordered text: it moves behind the marks of a
lower class and never past a starter. -/
def insertMark (c : Char) : List Char → List Char
  | [] => [c]
  | d :: rest =>
    if 0 < combiningClass d ∧ combiningClass d < combiningClass c then
      d :: insertMark c rest
    else
      c :: d :: rest

def decompose (text : List Char) : List Char :=
  (text.flatMap decomposeChar).foldr insertMark []

/-- Joins starters with what follows them.  `marks` are the marks after the starter
that have found no composite, the last one first; a character is blocked from the
starter when the last of them has no lower class than its own. -/
def composeFrom (starter : Char) (marks : List Char) : List Char → List Char
  | [] => starter :: marks.reverse
  | c :: rest =>
    let blocked := match marks with
      | [] => false
      | last :: _ => decide (combiningClass c ≤ combiningClass last)
    match if blocked then none else composePair starter c with
    | some composite => composeFrom composite marks rest
    | none =>
      if combiningClass c = 0 then
        starter :: (marks.reverse ++ composeFrom c [] rest)
      else
        composeFrom starter (c :: marks) rest

def compose : List Char → List Char
  | [] => []
  | c :: rest =>
    if combiningClass c = 0 then composeFrom c [] rest else c :: compose rest

/-- Normalization form C of a text. -/
def composed (text : List Char) : List Char :=
  compose (decompose text)

end Normal

end SecureSockets.Unicode
