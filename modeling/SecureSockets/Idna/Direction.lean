import SecureSockets.Unicode.Bidi

namespace SecureSockets.Idna

/-!
The rule for labels of bidirectional names.  A label must begin with a letter of a
definite direction, all its characters must fit that direction, and it must end in
one that settles where the label stops.
-/

open Unicode

/-- Classes allowed inside a label that runs from left to right. -/
def fitsLeftToRight : BidiClass → Bool
  | .leftToRight | .europeanNumber | .europeanSeparator | .commonSeparator
  | .europeanTerminator | .otherNeutral | .boundaryNeutral | .nonspacingMark => true
  | _ => false

def fitsRightToLeft : BidiClass → Bool
  | .rightToLeft | .arabicLetter | .arabicNumber | .europeanNumber | .europeanSeparator
  | .commonSeparator | .europeanTerminator | .otherNeutral | .boundaryNeutral
  | .nonspacingMark => true
  | _ => false

def endsLeftToRight : BidiClass → Bool
  | .leftToRight | .europeanNumber => true
  | _ => false

/-- Classes that may end a label that runs from right to left.  Numbers may, although they
run from left to right themselves. -/
def endsRightToLeft : BidiClass → Bool
  | .rightToLeft | .arabicLetter | .arabicNumber | .europeanNumber => true
  | _ => false

/-- The classes after the first one, without the nonspacing marks at the end, the last one
first. -/
def reversedBody (classes : List BidiClass) : List BidiClass :=
  classes.reverse.dropWhile (· == .nonspacingMark)

/-- The rule for a label, given the classes of its characters.  European and Arabic
numbers may not meet in a label that runs from right to left. -/
def followsDirection : List BidiClass → Bool
  | [] => true
  | first :: rest =>
    let body := reversedBody rest
    match first with
    | .leftToRight =>
      match body with
      | [] => true
      | last :: inner => endsLeftToRight last && inner.all fitsLeftToRight
    | .rightToLeft | .arabicLetter =>
      match body with
      | [] => true
      | last :: inner =>
        endsRightToLeft last && inner.all fitsRightToLeft &&
          !(body.contains .europeanNumber && body.contains .arabicNumber)
    | _ => false

def isBidirectional (text : List Char) : Bool :=
  text.any fun c => (BidiClass.of c).runsRightToLeft

/-- Left-to-right names are free of the rule. -/
def directionAllowed (text : List Char) : Bool :=
  !isBidirectional text || followsDirection (text.map BidiClass.of)

end SecureSockets.Idna
