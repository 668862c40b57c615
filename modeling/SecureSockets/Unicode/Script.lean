import SecureSockets.Unicode.Script.Table

namespace SecureSockets.Unicode

/-!
Scripts and script extensions.  A script is referred to by its number in the table
of names.
-/

namespace Script

def number? (name : String) : Option Nat :=
  (names.findIdx? fun spellings => spellings.contains name).map (· + 1)

def contains (number : Nat) (c : Char) : Bool :=
  classOf rows c.toNat == some number

/-- Whether a character is used with a script.  Characters without extensions of their
own are used with their script alone. -/
def extensionContains (number : Nat) (c : Char) : Bool :=
  match classOf extensionRows c.toNat with
  | some (place + 1) => (extensionSets[place]?.getD []).contains number
  | _ => contains number c

end Script

end SecureSockets.Unicode
