import SecureSockets.Regex.Basic

namespace SecureSockets.Regex

open Unicode

/-!
The flags of a pattern, and the blanks and comments that one of them allows.
-/

inductive Flag where
  | caseInsensitive
  | multiLine
  | dotMatchesNewLine
  | swapGreed
  | unicode
  | anyLineEnd
  | verbose
  deriving DecidableEq, Repr

namespace Flag

def ofChar? : Char → Option Flag
  | 'i' => some caseInsensitive
  | 'm' => some multiLine
  | 's' => some dotMatchesNewLine
  | 'U' => some swapGreed
  | 'u' => some unicode
  | 'R' => some anyLineEnd
  | 'x' => some verbose
  | _ => none

end Flag

/-- The flags in force at a place of a pattern.  Greed decides only which match is
preferred, so it is read but not kept. -/
structure Flags where
  caseInsensitive : Bool := false
  multiLine : Bool := false
  dotMatchesNewLine : Bool := false
  unicode : Bool := true
  anyLineEnd : Bool := false
  verbose : Bool := false
  deriving DecidableEq, Repr

namespace Flags

def assign (flags : Flags) (value : Bool) : Flag → Flags
  | .caseInsensitive => { flags with caseInsensitive := value }
  | .multiLine => { flags with multiLine := value }
  | .dotMatchesNewLine => { flags with dotMatchesNewLine := value }
  | .swapGreed => flags
  | .unicode => { flags with unicode := value }
  | .anyLineEnd => { flags with anyLineEnd := value }
  | .verbose => { flags with verbose := value }

/-- Drops blanks and comments from the front of a text.  A comment runs from a number
sign to the end of its line. -/
def dropBlanks (inComment : Bool) : List Char → List Char
  | [] => []
  | c :: rest =>
    if inComment then dropBlanks (c != '\n') rest
    else if Property.isBlank c then dropBlanks false rest
    else if c == '#' then dropBlanks true rest
    else c :: rest

def skip (flags : Flags) (text : List Char) : List Char :=
  if flags.verbose then dropBlanks false text else text

/-- The character after a hyphen that decides whether the hyphen makes a range.  In
verbose patterns blanks and a number sign are passed over first. -/
def peekBound (flags : Flags) (text : List Char) : Option Char :=
  if flags.verbose then
    match text.dropWhile Property.isBlank with
    | '#' :: rest => (rest.dropWhile Property.isBlank).head?
    | other => other.head?
  else
    text.head?

/-- A set as the flags complete it: other spellings are added first, and the complement
is taken last.  Byte by byte, a complement would hold parts of characters, so it is
refused. -/
def completeSet (flags : Flags) (negated : Bool) (set : CharSet) : Option CharSet :=
  let spelled := if flags.caseInsensitive then .folded (!flags.unicode) set else set
  if !negated then some spelled
  else if flags.unicode then some (.complement spelled)
  else none

end Flags

/-- The flags of one group as they are read.  They are kept in a list until the group is
complete, since a flag that is named twice is an error and no change of mind. -/
structure FlagReader where
  assigned : List (Flag × Bool) := []
  negated : Bool := false
  /-- Whether the last character was the hyphen that negates what follows. -/
  dangling : Bool := false

namespace FlagReader

/-- Reads flags up to a colon or a closing parenthesis.  No flag may be named twice,
and a hyphen must be followed by a flag. -/
def run (reader : FlagReader) : List Char → Option (FlagReader × Char × List Char)
  | [] => none
  | c :: rest =>
    if c == ':' || c == ')' then
      if reader.dangling then none else some (reader, c, rest)
    else if c == '-' then
      if reader.negated then none
      else run { reader with negated := true, dangling := true } rest
    else
      match Flag.ofChar? c with
      | none => none
      | some flag =>
        if reader.assigned.any (·.1 == flag) then none
        else run { reader with
          assigned := reader.assigned ++ [(flag, !reader.negated)]
          dangling := false } rest

def apply (reader : FlagReader) (flags : Flags) : Flags :=
  reader.assigned.foldl (fun flags (flag, value) => flags.assign value flag) flags

def isEmpty (reader : FlagReader) : Bool :=
  reader.assigned.isEmpty && !reader.negated

end FlagReader

end SecureSockets.Regex
