namespace SecureSockets.Idna

/-!
Punycode writes a text of arbitrary characters with ASCII letters, digits and
hyphens.  The ASCII characters come first, then a hyphen if there are any, then one
number for each insertion of another character.  Numbers are written with digits of
varying worth, so that each number shows where it ends.
-/

namespace Punycode

def base : Nat := 36
def leastThreshold : Nat := 1
def greatestThreshold : Nat := 26
def skew : Nat := 38
def damping : Nat := 700
def initialBias : Nat := 72
def initialCode : Nat := 128

/-- No value of the decoder reaches this bound; an encoding that would take it there is
refused. -/
def wordBound : Nat := Nat.pow 2 32

/-- The digit that ends a number at a position, and every smaller one, is below this. -/
def threshold (position bias : Nat) : Nat :=
  if position ≤ bias + leastThreshold then leastThreshold
  else if bias + greatestThreshold ≤ position then greatestThreshold
  else position - bias

/-- Halves of the range that a number may grow through before the bias moves on; `fuel`
bounds the number of divisions. -/
def scaleDown : Nat → Nat → Nat → Nat × Nat
  | 0, steps, delta => (steps, delta)
  | fuel + 1, steps, delta =>
    if (base - leastThreshold) * greatestThreshold / 2 < delta then
      scaleDown fuel (steps + base) (delta / (base - leastThreshold))
    else
      (steps, delta)

/-- The bias after an insertion at distance `delta` into a text of `size` characters, the
new one included. -/
def adapt (delta size : Nat) (isFirst : Bool) : Nat :=
  let damped := if isFirst then delta / damping else delta / 2
  let (steps, rest) := scaleDown damped 0 (damped + damped / size)
  steps + (base - leastThreshold + 1) * rest / (rest + skew)

/-- The value of a digit; letters count in either case. -/
def digitValue (c : Char) : Option Nat :=
  if c.isUpper then some (c.toNat - 65)
  else if c.isLower then some (c.toNat - 97)
  else if c.isDigit then some (c.toNat - 48 + 26)
  else none

def digit (value : Nat) : Char :=
  if value < 26 then Char.ofNat (97 + value) else Char.ofNat (48 + (value - 26))

def char? (code : Nat) : Option Char :=
  if code.isValidChar then some (Char.ofNat code) else none

/-- What the decoder knows between two digits.  Places and code points of insertions are
one number, the place changing faster, so that `total` alone says where and what comes
next. -/
structure Decoder where
  /-- The text so far. -/
  text : List Char
  /-- The code point of the next insertion is at least this. -/
  code : Nat
  /-- The number read so far, added to the place of the last insertion. -/
  total : Nat
  /-- The place after the last insertion. -/
  previous : Nat
  bias : Nat
  /-- What the next digit is worth. -/
  weight : Nat
  /-- The position of the next digit in its number. -/
  position : Nat
  deriving Repr

namespace Decoder

def start (basic : List Char) : Decoder where
  text := basic
  code := initialCode
  total := 0
  previous := 0
  bias := initialBias
  weight := 1
  position := base

/-- Inserts the character that a completed number stands for.  The number wraps around the
places of the text, and each turn is one code point further. -/
def insert (d : Decoder) (total : Nat) : Option Decoder :=
  let size := d.text.length + 1
  let code := d.code + total / size
  let place := total % size
  (char? code).map fun c =>
    { text := d.text.take place ++ c :: d.text.drop place
      code := code
      total := place + 1
      previous := place + 1
      bias := adapt (total - d.previous) size (d.previous == 0)
      weight := 1
      position := base }

/-- Reads one digit.  A digit below the threshold completes its number; any other makes
the digits behind it worth more. -/
def step (d : Decoder) (value : Nat) : Option Decoder :=
  let total := d.total + value * d.weight
  let limit := threshold d.position d.bias
  if wordBound ≤ total then none
  else if value < limit then d.insert total
  else if wordBound ≤ d.weight * (base - limit) then none
  else some { d with
    total := total
    weight := d.weight * (base - limit)
    position := d.position + base }

/-- Reads digits up to the end; the last number must be complete. -/
def run (d : Decoder) : List Char → Option (List Char)
  | [] => if d.position = base then some d.text else none
  | c :: rest =>
    match (digitValue c).bind d.step with
    | some next => run next rest
    | none => none

end Decoder

def splitLastHyphen (text : List Char) : Option (List Char × List Char) :=
  let reversed := text.reverse
  match reversed.dropWhile (· != '-') with
  | [] => none
  | _ :: before => some (before.reverse, (reversed.takeWhile (· != '-')).reverse)

/-- Decodes a text.  The ASCII characters in front come out in lower case. -/
def decode (text : List Char) : Option (List Char) :=
  match splitLastHyphen text with
  | none => (Decoder.start []).run text
  | some ([], _) => none
  | some (basic, digits) =>
    if basic.all (fun c => decide (c.toNat < 128)) then
      (Decoder.start (basic.map Char.toLower)).run digits
    else
      none

/-- The digits of a number; `fuel` bounds their count. -/
def numberDigits (bias : Nat) : Nat → Nat → Nat → List Char
  | 0, _, _ => []
  | fuel + 1, position, value =>
    let limit := threshold position bias
    if value < limit then
      [digit value]
    else
      digit (limit + (value - limit) % (base - limit)) ::
        numberDigits bias fuel (position + base) ((value - limit) / (base - limit))

structure Encoder where
  delta : Nat
  bias : Nat
  /-- How many characters are written already. -/
  done : Nat
  /-- The digits so far, the last one first. -/
  output : List Char

namespace Encoder

/-- Passes one character of the text while the insertions of `code` are written.  A
smaller character is there already and moves the place on; a greater one is not there
yet. -/
def step (basicCount code : Nat) (e : Encoder) (c : Char) : Encoder :=
  if c.toNat < code then
    { e with delta := e.delta + 1 }
  else if c.toNat = code then
    { delta := 0
      bias := adapt e.delta (e.done + 1) (e.done == basicCount)
      done := e.done + 1
      output := (numberDigits e.bias (e.delta + 1) base e.delta).reverse ++ e.output }
  else
    e

/-- Writes the insertions of one code point after another, in ascending order; `next` is
the least code point not yet considered. -/
def run (text : List Char) (basicCount : Nat) : Encoder → Nat → List Nat → Encoder
  | e, _, [] => e
  | e, next, code :: rest =>
    let moved := { e with delta := e.delta + (code - next) * (e.done + 1) }
    let written := text.foldl (step basicCount code) moved
    run text basicCount { written with delta := written.delta + 1 } (code + 1) rest

end Encoder

def extendedCodes (text : List Char) : List Nat :=
  (((text.map Char.toNat).filter fun code => decide (initialCode ≤ code)).mergeSort).eraseDups

def encode (text : List Char) : List Char :=
  let basic := text.filter fun c => decide (c.toNat < initialCode)
  let start : Encoder :=
    { delta := 0, bias := initialBias, done := basic.length, output := [] }
  let finished := start.run text basic.length initialCode (extendedCodes text)
  (if basic.isEmpty then [] else basic ++ ['-']) ++ finished.output.reverse

end Punycode

end SecureSockets.Idna
