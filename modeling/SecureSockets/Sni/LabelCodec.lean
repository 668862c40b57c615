import SecureSockets.Idna.Label

namespace SecureSockets.Sni

/-!
The conversion of labels that are not ASCII.  Host names leave it to a codec, so that
what holds of host names can be said of any conversion.
-/

/-- A conversion between the Unicode form and the ASCII form of a label.  No law is part
of it; what a result needs of the conversion stands among its assumptions. -/
structure LabelCodec where
  /-- The ASCII form under the rules for names typed by a user. -/
  strict : List Char → Option (List Char)
  /-- The ASCII form under the rules for names received from a peer. -/
  lenient : List Char → Option (List Char)
  /-- The Unicode form of a label in ASCII form. -/
  unicode : List Char → Option (List Char)

namespace LabelCodec

def international : LabelCodec where
  strict := Idna.toAscii .full
  lenient := Idna.toAscii .none
  unicode := Idna.toUnicode

end LabelCodec

end SecureSockets.Sni
