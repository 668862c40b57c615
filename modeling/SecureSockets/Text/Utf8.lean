namespace SecureSockets.Text

/-!
Reading bytes as UTF-8.  The reader cuts any sequence of bytes into characters and
faults; a fault is the longest run of bytes that begins like a character but cannot
be continued to one.  Strict decoding reports the first fault, lenient decoding puts
a replacement character in the place of each.
-/

namespace Utf8

/-- A character that has begun but is not complete.  The next byte has bounds of its own
because not every continuation of a first byte is a character. -/
structure Pending where
  /-- The number of bytes read. -/
  size : Nat
  /-- The bits read so far. -/
  value : Nat
  /-- The number of bytes still to come after the next one. -/
  owed : Nat
  /-- The bounds of the next byte. -/
  low : Nat
  high : Nat

inductive Piece where
  | char (c : Char)
  /-- A run of bytes that the byte after it shows to be no character. -/
  | invalid (size : Nat)
  /-- The beginning of a character at the end of the bytes. -/
  | incomplete (size : Nat)
  deriving DecidableEq, Repr

inductive Start where
  | complete (c : Char)
  | pending (p : Pending)
  | invalid

/-- Reads a first byte.  The bounds of the second byte exclude overlong forms, surrogates
and code points that are too large. -/
def begin (byte : Nat) : Start :=
  if byte < 0x80 then .complete (Char.ofNat byte)
  else if byte < 0xC2 then .invalid
  else if byte < 0xE0 then .pending ⟨1, byte - 0xC0, 0, 0x80, 0xBF⟩
  else if byte = 0xE0 then .pending ⟨1, byte - 0xE0, 1, 0xA0, 0xBF⟩
  else if byte = 0xED then .pending ⟨1, byte - 0xE0, 1, 0x80, 0x9F⟩
  else if byte < 0xF0 then .pending ⟨1, byte - 0xE0, 1, 0x80, 0xBF⟩
  else if byte = 0xF0 then .pending ⟨1, byte - 0xF0, 2, 0x90, 0xBF⟩
  else if byte < 0xF4 then .pending ⟨1, byte - 0xF0, 2, 0x80, 0xBF⟩
  else if byte = 0xF4 then .pending ⟨1, byte - 0xF0, 2, 0x80, 0x8F⟩
  else .invalid

def startAt (byte : UInt8) : List Piece × Option Pending :=
  match begin byte.toNat with
  | .complete c => ([.char c], none)
  | .pending p => ([], some p)
  | .invalid => ([.invalid 1], none)

/-- What a byte completes, and the character it leaves incomplete.  A byte that does not
continue a character is read again as the beginning of one. -/
def feed (pending : Option Pending) (byte : UInt8) : List Piece × Option Pending :=
  match pending with
  | none => startAt byte
  | some p =>
    if p.low ≤ byte.toNat ∧ byte.toNat ≤ p.high then
      let value := p.value * 64 + (byte.toNat - 0x80)
      match p.owed with
      | 0 => ([.char (Char.ofNat value)], none)
      | owed + 1 => ([], some ⟨p.size + 1, value, owed, 0x80, 0xBF⟩)
    else
      let (found, next) := startAt byte
      (.invalid p.size :: found, next)

/-- The pieces of a sequence of bytes, with the character that has begun before it. -/
def piecesFrom (pending : Option Pending) : List UInt8 → List Piece
  | [] =>
    match pending with
    | some p => [.incomplete p.size]
    | none => []
  | byte :: rest =>
    let (found, next) := feed pending byte
    found ++ piecesFrom next rest

def pieces (bytes : List UInt8) : List Piece :=
  piecesFrom none bytes

/-- The first fault of a sequence of bytes that is not UTF-8. -/
inductive Fault where
  | invalid (size index : Nat)
  | incomplete (index : Nat)
  deriving DecidableEq, Repr

def Fault.message : Fault → String
  | invalid size index =>
    "invalid utf-8 sequence of " ++ toString size ++ " bytes from index " ++ toString index
  | incomplete index => "incomplete utf-8 byte sequence from index " ++ toString index

def charsOf (index : Nat) : List Piece → Except Fault (List Char)
  | [] => .ok []
  | .char c :: rest => (charsOf (index + c.utf8Size) rest).map (c :: ·)
  | .invalid size :: _ => .error (.invalid size index)
  | .incomplete _ :: _ => .error (.incomplete index)

def decode (bytes : List UInt8) : Except Fault (List Char) :=
  charsOf 0 (pieces bytes)

def replacement : Char := Char.ofNat 0xFFFD

/-- The text of a sequence of bytes, with a replacement for each fault.  It never fails,
so that what could not be read has to be noticed by whoever uses the text. -/
def decodeLossy (bytes : List UInt8) : List Char :=
  (pieces bytes).map fun
    | .char c => c
    | .invalid _ | .incomplete _ => replacement

def encode (text : List Char) : List UInt8 :=
  text.flatMap String.utf8EncodeChar

end Utf8

end SecureSockets.Text
