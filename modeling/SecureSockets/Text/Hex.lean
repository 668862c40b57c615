namespace SecureSockets.Text

/-!
Hexadecimal texts of numbers and bytes.
-/

/-- The hexadecimal digit of a value below sixteen, in lower case. -/
def hexDigit (value : Nat) : Char :=
  if value < 10 then Char.ofNat (48 + value) else Char.ofNat (87 + value)

def upperHexDigit (value : Nat) : Char :=
  if value < 10 then Char.ofNat (48 + value) else Char.ofNat (55 + value)

def hexNumber (value : Nat) : List Char :=
  (Nat.toDigits 16 value).map Char.toLower

def upperHexByte (byte : UInt8) : List Char :=
  [upperHexDigit (byte.toNat / 16), upperHexDigit (byte.toNat % 16)]

end SecureSockets.Text
