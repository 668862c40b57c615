import SecureSockets.Regex.Escape

namespace SecureSockets.Regex

open Unicode

/-!
Classes in brackets.  A class is a union of characters, ranges, other classes and
named classes; intersections, differences and symmetric differences of such unions
are taken from left to right.
-/

/-- A class with the depth of its nesting, which counts towards the limit on the nesting
of the whole pattern.  Characters, ranges and named classes nest nothing. -/
structure NestedSet where
  set : CharSet
  depth : Nat

inductive SetOperation where
  | intersection
  | difference
  | symmetricDifference
  deriving DecidableEq, Repr

def SetOperation.combine : SetOperation → CharSet → CharSet → CharSet
  | intersection => .intersection
  | difference => .difference
  | symmetricDifference => .symmetricDifference

/-- The union that is being read.  Members are counted because a single member nests no
deeper in a class than it does alone, while a union of several is a level of its own. -/
structure Members where
  set : CharSet := .empty
  count : Nat := 0
  depth : Nat := 0

namespace Members

def add (members : Members) (member : NestedSet) : Members :=
  ⟨.union members.set member.set, members.count + 1, max members.depth member.depth⟩

def addFlat (members : Members) (set : CharSet) : Members :=
  members.add ⟨set, 0⟩

def whole (members : Members) : NestedSet :=
  ⟨members.set, if members.count ≤ 1 then members.depth else members.depth + 1⟩

end Members

/-- What waits for the end of the union that is being read: an enclosing union, with
whether the class inside it is negated, or the left side of an operation. -/
inductive ClassFrame where
  | opened (outer : Members) (negated : Bool)
  | operated (operation : SetOperation) (left : NestedSet)

def readLeadingHyphens (flags : Flags) : Nat → Members → List Char → Members × List Char
  | fuel + 1, members, '-' :: rest =>
    readLeadingHyphens flags fuel (members.addFlat (.singleton '-')) (flags.skip rest)
  | _, members, text => (members, text)

/-- Reads the beginning of a class after its bracket: whether it is negated, and the
hyphens or the closing bracket that stand for themselves there. -/
def openClass (flags : Flags) (text : List Char) : Option (Bool × Members × List Char) :=
  let (negated, text) := match flags.skip text with
    | '^' :: rest => (true, flags.skip rest)
    | text => (false, text)
  let startsWithHyphen := text.head? == some '-'
  let (members, text) := readLeadingHyphens flags (text.length + 1) {} text
  match text with
  | [] => none
  | ']' :: rest =>
    if startsWithHyphen then some (negated, members, text)
    else
      match flags.skip rest with
      | [] => none
      | text => some (negated, members.addFlat (.singleton ']'), text)
  | text => some (negated, members, text)

/-- Reads a named class of ASCII characters after its first bracket, and tells whether
it is negated.  What is no such class is read as a class inside the class. -/
def readAsciiClass (text : List Char) : Option (CharSet × Bool × List Char) :=
  match text with
  | ':' :: rest =>
    let (negated, rest) := match rest with
      | '^' :: rest => (true, rest)
      | rest => (false, rest)
    match rest.dropWhile (· != ':') with
    | ':' :: ']' :: after =>
      (CharSet.asciiClass? (rest.takeWhile (· != ':'))).map (·, negated, after)
    | _ => none
  | _ => none

def readMember (flags : Flags) : List Char → Option (Atom × List Char)
  | [] => none
  | '\\' :: rest => readEscape flags rest
  | c :: rest => some (.char c false, rest)

/-- A character as a member of a class.  Byte by byte, only ASCII has members. -/
def memberChar? (flags : Flags) : Atom → Option Char
  | .char c _ => if flags.unicode || decide (c.toNat < 128) then some c else none
  | _ => none

def memberSet? (flags : Flags) : Atom → Option CharSet
  | .set set => some set
  | atom => (memberChar? flags atom).map .singleton

/-- Reads a member or a range of a class.  A hyphen makes a range unless the class ends
behind it or another hyphen follows; the bounds of a range have to be characters in
order. -/
def readRange (flags : Flags) (text : List Char) : Option (CharSet × List Char) :=
  (readMember flags text).bind fun (first, text) =>
    match flags.skip text with
    | [] => none
    | '-' :: rest =>
      let bound := flags.peekBound rest
      if bound == some ']' || bound == some '-' then
        (memberSet? flags first).map (·, '-' :: rest)
      else
        (readMember flags (flags.skip rest)).bind fun (last, text) =>
          match memberChar? flags first, memberChar? flags last with
          | some first, some last =>
            if first ≤ last then some (.range first.toNat last.toNat, text) else none
          | _, _ => none
    | text => (memberSet? flags first).map (·, text)

/-- Completes the operation that waits for its right side, if there is one.  Both sides
are given every spelling of their members first: what a difference takes away must not
depend on how the class spells it. -/
def settle (flags : Flags) (right : NestedSet) : List ClassFrame → NestedSet × List ClassFrame
  | .operated operation left :: frames =>
    let spelled (set : CharSet) : CharSet :=
      if flags.caseInsensitive then .folded (!flags.unicode) set else set
    (⟨operation.combine (spelled left.set) (spelled right.set), max left.depth right.depth + 1⟩,
      frames)
  | frames => (right, frames)

def operate (flags : Flags) (operation : SetOperation) (members : Members)
    (frames : List ClassFrame) : List ClassFrame :=
  let (left, frames) := settle flags members.whole frames
  .operated operation left :: frames

/-- Reads a class up to its closing bracket.  `members` is the union read so far, and the
frames hold what surrounds it; `fuel` bounds the number of members. -/
def readClass (flags : Flags) :
    Nat → List ClassFrame → Members → List Char → Option (NestedSet × List Char)
  | 0, _, _, _ => none
  | fuel + 1, frames, members, text =>
    match flags.skip text with
    | [] => none
    | '[' :: rest =>
      match readAsciiClass rest with
      | some (named, negated, after) =>
        (flags.completeSet negated named).bind fun named =>
          readClass flags fuel frames (members.addFlat named) after
      | none =>
        (openClass flags rest).bind fun (negated, inner, after) =>
          readClass flags fuel (.opened members negated :: frames) inner after
    | ']' :: rest =>
      match settle flags members.whole frames with
      | (whole, .opened outer negated :: frames) =>
        (flags.completeSet negated whole.set).bind fun completed =>
          let bracketed : NestedSet := ⟨completed, whole.depth + 1⟩
          if frames.isEmpty then some (bracketed, rest)
          else readClass flags fuel frames (outer.add bracketed) rest
      | _ => none
    | '&' :: '&' :: rest =>
      readClass flags fuel (operate flags .intersection members frames) {} rest
    | '-' :: '-' :: rest =>
      readClass flags fuel (operate flags .difference members frames) {} rest
    | '~' :: '~' :: rest =>
      readClass flags fuel (operate flags .symmetricDifference members frames) {} rest
    | text =>
      (readRange flags text).bind fun (member, after) =>
        readClass flags fuel frames (members.addFlat member) after

def readBracket (flags : Flags) (text : List Char) : Option (NestedSet × List Char) :=
  (openClass flags text).bind fun (negated, members, after) =>
    readClass flags (text.length + 1) [.opened {} negated] members after

end SecureSockets.Regex
