import SecureSockets.Regex.Bracket
import SecureSockets.Regex.Compiler

namespace SecureSockets.Regex

open Unicode

/-!
Reading a pattern.  The reader is a machine that takes one part of the pattern at a
time; groups that are still open wait on a stack, together with the flags to return
to.  A pattern is valid when the machine gets to its end with no group open and the
expression stays within the limits on nesting and size.
-/

structure Nested where
  regex : Regex
  depth : Nat

/-- One part of a sequence.  A flag setting is a part, but there is nothing to repeat
about it. -/
inductive Part where
  | setting
  | expression (nested : Nested)

def Part.nested : Part → Nested
  | setting => ⟨.empty, 0⟩
  | expression nested => nested

/-- What an open group will continue with once it is closed. -/
structure GroupFrame where
  parts : List Part
  branches : List Nested
  flags : Flags

/-- The state of the reader.  Parts, branches and frames are kept last one first, as they
are added one by one and the last one is what a repetition or a parenthesis is about. -/
structure Reader where
  flags : Flags
  parts : List Part := []
  branches : List Nested := []
  frames : List GroupFrame := []
  names : List (List Char) := []

/-- The greatest depth of nesting.  Groups, repetitions and classes count, and so do
sequences and choices of more than one member. -/
def nestingLimit : Nat := 250

def greatestDepth (all : List Nested) : Nat :=
  all.foldl (fun depth nested => max depth nested.depth) 0

/-- The sequence of some parts, the last one first.  A single part is no sequence, and
adds no level of nesting. -/
def sequence (parts : List Part) : Nested :=
  match parts with
  | [] => ⟨.empty, 0⟩
  | [part] => part.nested
  | last :: before =>
    let all := parts.map Part.nested
    ⟨before.foldl (fun regex part => .seq part.nested.regex regex) last.nested.regex,
      greatestDepth all + 1⟩

def choice (branches : List Nested) : Nested :=
  match branches with
  | [] => ⟨.empty, 0⟩
  | [branch] => branch
  | last :: before =>
    ⟨before.foldl (fun regex branch => .alt branch.regex regex) last.regex,
      greatestDepth branches + 1⟩

namespace Reader

def push (reader : Reader) (nested : Nested) : Reader :=
  { reader with parts := .expression nested :: reader.parts }

/-- Opens a group.  The flags outside are put away with the parts, as flags that are set
in a group end with it. -/
def enter (reader : Reader) (flags : Flags) : Reader :=
  { reader with
    flags := flags
    parts := []
    branches := []
    frames := ⟨reader.parts, reader.branches, reader.flags⟩ :: reader.frames }

def branch (reader : Reader) : Reader :=
  { reader with parts := [], branches := sequence reader.parts :: reader.branches }

def body (reader : Reader) : Nested :=
  choice (sequence reader.parts :: reader.branches)

/-- Closes the innermost group.  There is none to be closed in front of the first opening
parenthesis, and this is how a closing parenthesis too many is noticed. -/
def leave (reader : Reader) : Option Reader :=
  match reader.frames with
  | [] => none
  | frame :: frames =>
    let body := reader.body
    some { reader with
      flags := frame.flags
      parts := .expression ⟨body.regex, body.depth + 1⟩ :: frame.parts
      branches := frame.branches
      frames := frames }

/-- Repeats the last part of the current sequence.  A flag setting is no expression, and
there may be no part at all; neither can be repeated. -/
def repeatLast (reader : Reader) (least : Nat) (most : Option Nat) : Option Reader :=
  match reader.parts with
  | .expression nested :: parts =>
    some { reader with
      parts := .expression ⟨.rep nested.regex least most, nested.depth + 1⟩ :: parts }
  | _ => none

end Reader

def isNameChar (isFirst : Bool) (c : Char) : Bool :=
  c == '_' || Property.isAlphabetic c ||
    (!isFirst && (c == '.' || c == '[' || c == ']' || (Category.of c).isNumber))

def readName : List Char → List Char → Option (List Char × List Char)
  | _, [] => none
  | name, c :: rest =>
    if c == '>' then if name.isEmpty then none else some (name.reverse, rest)
    else if isNameChar name.isEmpty c then readName (c :: name) rest
    else none

def Reader.enterNamed (reader : Reader) (text : List Char) : Option (Reader × List Char) :=
  (readName [] text).bind fun (name, rest) =>
    if reader.names.contains name then none
    else some ({ reader with names := name :: reader.names }.enter reader.flags, rest)

/-- Reads the flags of a group.  Behind a colon they hold for the group that they open;
otherwise there is no group, and they hold for what follows up to the end of this one. -/
def Reader.enterFlagged (reader : Reader) (text : List Char) : Option (Reader × List Char) :=
  (FlagReader.run {} text).bind fun (set, mark, rest) =>
    if mark == ':' then some (reader.enter (set.apply reader.flags), rest)
    else if set.isEmpty then none
    else some ({ reader with
      flags := set.apply reader.flags
      parts := .setting :: reader.parts }, rest)

/-- Reads what follows an opening parenthesis.  Conditions on the surrounding text are
refused. -/
def Reader.open (reader : Reader) (text : List Char) : Option (Reader × List Char) :=
  match reader.flags.skip text with
  | '?' :: '=' :: _ | '?' :: '!' :: _ | '?' :: '<' :: '=' :: _ | '?' :: '<' :: '!' :: _ => none
  | '?' :: 'P' :: '<' :: rest => reader.enterNamed rest
  | '?' :: '<' :: rest => reader.enterNamed rest
  | '?' :: rest => reader.enterFlagged rest
  | rest => some (reader.enter reader.flags, rest)

/-- Passes the question mark that makes a repetition prefer fewer copies.  Which copies
are preferred does not change whether there is a match. -/
def dropLazyMark : List Char → List Char
  | '?' :: rest => rest
  | text => text

def readDigits (flags : Flags) : Nat → Option Nat → List Char → Option Nat × List Char
  | fuel + 1, value, c :: rest =>
    if c.isDigit then
      readDigits flags fuel (some (value.getD 0 * 10 + (c.toNat - 48))) (flags.skip rest)
    else
      (value, c :: rest)
  | _, value, text => (value, text)

def countBound : Nat := Nat.pow 2 32

/-- Reads a number with blanks on either side; without digits there is none. -/
def readCount (flags : Flags) (text : List Char) : Option Nat × List Char :=
  let (value, rest) := readDigits flags (text.length + 1) none (text.dropWhile Property.isBlank)
  (value.filter fun value => decide (value < countBound), rest.dropWhile Property.isBlank)

/-- Reads the numbers of a repetition after the opening brace.  The first one may not be
left out. -/
def readCounts (flags : Flags) (text : List Char) :
    Option (Nat × Option Nat × List Char) :=
  match readCount flags (flags.skip text) with
  | (none, _) => none
  | (some least, '\x7d' :: rest) => some (least, some least, rest)
  | (some least, ',' :: rest) =>
    match flags.skip rest with
    | '\x7d' :: rest => some (least, none, rest)
    | rest =>
      match readCount flags rest with
      | (some most, '\x7d' :: rest) => if least ≤ most then some (least, some most, rest) else none
      | _ => none
  | _ => none

def atomRegex (flags : Flags) : Atom → Option Regex
  | .char c isByte => (charSet flags c isByte).map .chars
  | .set set => some (.chars set)
  | .look condition => some (.look condition)

/-- The set of the characters that a dot matches.  Byte by byte it would match parts of
characters, and is refused. -/
def dotSet (flags : Flags) : Option CharSet :=
  if !flags.unicode then none
  else if flags.dotMatchesNewLine then some (.complement .empty)
  else if flags.anyLineEnd then
    some (.complement (.union (.singleton '\r') (.singleton '\n')))
  else some (.complement (.singleton '\n'))

def startLook (flags : Flags) : Look :=
  if !flags.multiLine then .textStart
  else if flags.anyLineEnd then .anyLineStart else .lineStart

def endLook (flags : Flags) : Look :=
  if !flags.multiLine then .textEnd
  else if flags.anyLineEnd then .anyLineEnd else .lineEnd

/-- Takes one part of the pattern, which begins with `c`. -/
def Reader.step (reader : Reader) (c : Char) (rest : List Char) :
    Option (Reader × List Char) :=
  let flags := reader.flags
  let leaf (regex : Regex) (rest : List Char) : Option (Reader × List Char) :=
    some (reader.push ⟨regex, 0⟩, rest)
  match c with
  | '(' => reader.open rest
  | ')' => reader.leave.map (·, rest)
  | '|' => some (reader.branch, rest)
  | '[' =>
    (readBracket flags rest).map fun (members, rest) =>
      (reader.push ⟨.chars members.set, members.depth⟩, rest)
  | '?' => (reader.repeatLast 0 (some 1)).map (·, dropLazyMark rest)
  | '*' => (reader.repeatLast 0 none).map (·, dropLazyMark rest)
  | '+' => (reader.repeatLast 1 none).map (·, dropLazyMark rest)
  | '\x7b' =>
    (readCounts flags rest).bind fun (least, most, rest) =>
      (reader.repeatLast least most).map (·, dropLazyMark (flags.skip rest))
  | '.' => (dotSet flags).bind fun set => leaf (.chars set) rest
  | '^' => leaf (.look (startLook flags)) rest
  | '$' => leaf (.look (endLook flags)) rest
  | '\\' =>
    (readEscape flags rest).bind fun (atom, rest) =>
      (atomRegex flags atom).bind fun regex => leaf regex rest
  | c => (charSet flags c false).bind fun set => leaf (.chars set) rest

def Reader.run : Nat → Reader → List Char → Option Nested
  | 0, _, _ => none
  | fuel + 1, reader, text =>
    match reader.flags.skip text with
    | [] => if reader.frames.isEmpty then some reader.body else none
    | c :: rest => (reader.step c rest).bind fun (reader, rest) => reader.run fuel rest

def read? (flags : Flags) (pattern : List Char) : Option Nested :=
  Reader.run (pattern.length + 1) { flags := flags } pattern

/-- Whether an expression that has been read is compiled.  The limit on nesting is a rule
of the syntax, and the limit on size is the compiler's own. -/
def Compiler.accepts (compiler : Compiler) (nested : Nested) : Bool :=
  decide (nested.depth ≤ nestingLimit) && compiler.admits nested.regex

/-- The expression of a pattern; fails when the pattern is no regular expression or
exceeds a limit. -/
def ofPattern? (compiler : Compiler) (flags : Flags) (pattern : List Char) : Option Regex :=
  ((read? flags pattern).filter compiler.accepts).map (·.regex)

end SecureSockets.Regex
