import SecureSockets.Unicode.Bidi.Table

namespace SecureSockets.Unicode

/-!
Bidirectional classes: how a character takes part in text that runs from right to
left.
-/

inductive BidiClass where
  | leftToRight
  | rightToLeft
  | arabicLetter
  | arabicNumber
  | europeanNumber
  | europeanSeparator
  | commonSeparator
  | europeanTerminator
  | otherNeutral
  | boundaryNeutral
  | nonspacingMark
  | paragraphSeparator
  | segmentSeparator
  | whiteSpace
  | explicitFormatting
  deriving DecidableEq, Repr

namespace BidiClass

/-- All classes, in the order in which the table numbers them; the nine explicit
formatting controls that follow are one class here. -/
def all : List BidiClass :=
  [leftToRight, rightToLeft, arabicLetter, arabicNumber, europeanNumber, europeanSeparator,
    commonSeparator, europeanTerminator, otherNeutral, boundaryNeutral, nonspacingMark,
    paragraphSeparator, segmentSeparator, whiteSpace]

def of (c : Char) : BidiClass :=
  match classOf Bidi.rows c.toNat with
  | none => leftToRight
  | some place => all[place]?.getD explicitFormatting

/-- Classes whose characters make a text bidirectional.  Arabic numbers are among them,
European numbers are not. -/
def runsRightToLeft : BidiClass → Bool
  | rightToLeft | arabicLetter | arabicNumber => true
  | _ => false

end BidiClass

end SecureSockets.Unicode
