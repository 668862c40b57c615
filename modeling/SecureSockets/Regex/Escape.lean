import SecureSockets.Regex.Flags

namespace SecureSockets.Regex

open Unicode

/-!
What a backslash introduces: characters written by number or by name, classes of
characters, and conditions on a place.
-/

/-- The smallest part of a pattern.  A character that was written as two hexadecimal
digits is kept apart from the same character written otherwise: byte by byte, it is a
byte. -/
inductive Atom where
  /-- A character; `isByte` tells one that was written as two hexadecimal digits. -/
  | char (c : Char) (isByte : Bool)
  | set (set : CharSet)
  | look (condition : Look)

def hexValue? (c : Char) : Option Nat :=
  if c.isDigit then some (c.toNat - 48)
  else if decide ('a' ≤ c) && decide (c ≤ 'f') then some (c.toNat - 87)
  else if decide ('A' ≤ c) && decide (c ≤ 'F') then some (c.toNat - 55)
  else none

def scalar? (code : Nat) : Option Char :=
  if code.isValidChar then some (Char.ofNat code) else none

def readHexDigits (flags : Flags) : Nat → Nat → List Char → Option (Nat × List Char)
  | 0, value, text => some (value, text)
  | count + 1, value, c :: rest =>
    match hexValue? c with
    | some digit => readHexDigits flags count (value * 16 + digit) (flags.skip rest)
    | none => none
  | _ + 1, _, [] => none

/-- Reads hexadecimal digits up to a closing brace; there has to be one at least. -/
def readBracedHex (flags : Flags) (isFirst : Bool) :
    Nat → Nat → List Char → Option (Nat × List Char)
  | fuel + 1, value, c :: rest =>
    if c == '\x7d' then
      if isFirst then none else some (value, flags.skip rest)
    else
      match hexValue? c with
      | some digit => readBracedHex flags false fuel (value * 16 + digit) (flags.skip rest)
      | none => none
  | _, _, _ => none

def readHex (flags : Flags) (digits : Nat) (text : List Char) : Option (Atom × List Char) :=
  match flags.skip text with
  | '\x7b' :: rest =>
    (readBracedHex flags true (rest.length + 1) 0 (flags.skip rest)).bind fun (code, rest) =>
      (scalar? code).map fun c => (.char c false, rest)
  | text =>
    (readHexDigits flags digits 0 text).bind fun (code, rest) =>
      (scalar? code).map fun c => (.char c (digits == 2), rest)

def readBracedName (flags : Flags) :
    Nat → List Char → List Char → Option (List Char × List Char)
  | fuel + 1, name, c :: rest =>
    if c == '\x7d' then some (name.reverse, rest)
    else readBracedName flags fuel (c :: name) (flags.skip rest)
  | _, _, _ => none

def splitAt? (separator : List Char) : List Char → Option (List Char × List Char)
  | [] => none
  | c :: rest =>
    if separator.isPrefixOf (c :: rest) then some ([], (c :: rest).drop separator.length)
    else (splitAt? separator rest).map fun (before, after) => (c :: before, after)

/-- The property that a text between braces stands for.  The name and the value of a
property may be separated in three ways, and the first one that occurs in this order
counts. -/
def propertyOf (text : List Char) : Option Property :=
  let split := ((splitAt? ['!', '='] text).or (splitAt? [':'] text)).or (splitAt? ['='] text)
  match split with
  | some (name, value) => Property.ofNameAndValue name value
  | none => Property.ofName text

/-- Reads a property class, after the letter that announces it.  Properties are known
for whole characters only. -/
def readProperty (flags : Flags) (negated : Bool) (text : List Char) :
    Option (Atom × List Char) :=
  let named := match flags.skip text with
    | [] => none
    | '\x7b' :: rest =>
      (readBracedName flags (rest.length + 1) [] (flags.skip rest)).bind fun (name, rest) =>
        (propertyOf name).map (·, rest)
    | '\\' :: _ => none
    | c :: rest => (Property.ofName [c]).map (·, flags.skip rest)
  named.bind fun (property, rest) =>
    if flags.unicode then
      (flags.completeSet negated (.property property)).map fun set => (.set set, rest)
    else
      none

/-- A class of digits, blanks or word characters.  It holds every spelling of its
members already. -/
def namedSet (flags : Flags) (negated : Bool) (ofAll ofAscii : CharSet) : Option Atom :=
  if flags.unicode then some (.set (if negated then .complement ofAll else ofAll))
  else if negated then none
  else some (.set ofAscii)

def readBoundaryName (flags : Flags) :
    Nat → List Char → List Char → List Char × List Char
  | fuel + 1, name, c :: rest =>
    if c.isAlpha || c == '-' then readBoundaryName flags fuel (c :: name) (flags.skip rest)
    else (name.reverse, c :: rest)
  | _, name, text => (name.reverse, text)

/-- Reads what may follow a word boundary in braces.  What does not begin like a name is
left for a repetition to read. -/
def readBoundary (flags : Flags) (text : List Char) : Option (Atom × List Char) :=
  let ascii := !flags.unicode
  match text with
  | '\x7b' :: rest =>
    match flags.skip rest with
    | [] => none
    | c :: inner =>
      if c.isAlpha || c == '-' then
        match readBoundaryName flags (inner.length + 2) [] (c :: inner) with
        | (name, '\x7d' :: after) =>
          match String.ofList name with
          | "start" => some (.look (.wordStart ascii), after)
          | "end" => some (.look (.wordEnd ascii), after)
          | "start-half" => some (.look (.wordStartHalf ascii), after)
          | "end-half" => some (.look (.wordEndHalf ascii), after)
          | _ => none
        | _ => none
      else
        some (.look (.wordBoundary ascii), text)
  | _ => some (.look (.wordBoundary ascii), text)

/-- Reads what follows a backslash.  Punctuation stands for itself; a letter or digit
without a meaning is refused, and so are references to earlier groups. -/
def readEscape (flags : Flags) : List Char → Option (Atom × List Char)
  | [] => none
  | c :: rest =>
    let ascii := !flags.unicode
    let char (c : Char) : Option (Atom × List Char) := some (.char c false, rest)
    let look (condition : Look) : Option (Atom × List Char) := some (.look condition, rest)
    let set (atom : Option Atom) : Option (Atom × List Char) := atom.map (·, rest)
    match c with
    | 'x' => readHex flags 2 rest
    | 'u' => readHex flags 4 rest
    | 'U' => readHex flags 8 rest
    | 'p' => readProperty flags false rest
    | 'P' => readProperty flags true rest
    | 'd' => set (namedSet flags false .digit CharSet.asciiDigit)
    | 'D' => set (namedSet flags true .digit CharSet.asciiDigit)
    | 's' => set (namedSet flags false .blank CharSet.asciiBlank)
    | 'S' => set (namedSet flags true .blank CharSet.asciiBlank)
    | 'w' => set (namedSet flags false .word CharSet.asciiWord)
    | 'W' => set (namedSet flags true .word CharSet.asciiWord)
    | 'a' => char '\x07'
    | 'f' => char '\x0C'
    | 't' => char '\t'
    | 'n' => char '\n'
    | 'r' => char '\r'
    | 'v' => char '\x0B'
    | 'A' => look .textStart
    | 'z' => look .textEnd
    | 'b' => readBoundary flags rest
    | 'B' => look (.notWordBoundary ascii)
    | '<' => look (.wordStart ascii)
    | '>' => look (.wordEnd ascii)
    | c => if decide (c.toNat < 128) && !c.isAlphanum then char c else none

/-- The set of one character as the flags spell it.  A byte beyond ASCII is part of a
character only, so it is refused. -/
def charSet (flags : Flags) (c : Char) (isByte : Bool) : Option CharSet :=
  if flags.unicode then
    some (if flags.caseInsensitive then .folded false (.singleton c) else .singleton c)
  else if decide (c.toNat < 128) then
    some (if flags.caseInsensitive then .folded true (.singleton c) else .singleton c)
  else if isByte then none
  else some (.singleton c)

end SecureSockets.Regex
