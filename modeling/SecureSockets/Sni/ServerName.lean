import SecureSockets.Sni.HostName

namespace SecureSockets.Sni

open Text

/-!
Server names.  A server name has a type code and a payload.  Type zero is for host
names, which have a form of their own; names of any type can be kept raw.
-/

def hostNameType : UInt8 := 0

structure RawName where
  nameType : UInt8
  payload : List UInt8
  deriving DecidableEq, Repr, Hashable

namespace RawName

/-- A raw name.  Type codes come as numbers of any size from callers, and this is where
those that do not fit into a byte are turned away. -/
def create (nameType : Nat) (payload : List UInt8) : Except Error RawName :=
  if nameType < 256 then
    .ok ⟨UInt8.ofNat nameType, payload⟩
  else
    .error (.invalidArgument
      ("server name type " ++ toString nameType ++ " out of range 0..=255"))

def renderType (nameType : UInt8) : List Char :=
  if nameType = hostNameType then "type=host_name (0), value=".toList
  else "type=(".toList ++ (toString nameType.toNat).toList ++ "), value=".toList

/-- Bytes as pairs of digits with colons between them. -/
def renderPayload (payload : List UInt8) : List Char :=
  List.intercalate [':'] (payload.map upperHexByte)

def render (name : RawName) : List Char :=
  renderType name.nameType ++ renderPayload name.payload

end RawName

/-- A server name.  A raw name of the type of host names is still raw: it never equals a
host name, even with the same payload. -/
inductive ServerName where
  /-- A host name, compared without regard to letter case. -/
  | host (name : HostName)
  /-- Any other name, compared by type and payload. -/
  | raw (name : RawName)
  deriving Repr

namespace ServerName

instance : BEq ServerName where
  beq
    | host left, host right => left == right
    | raw left, raw right => left == right
    | _, _ => false

instance : Hashable ServerName where
  hash
    | host name => mixHash 0 (hash name)
    | raw name => mixHash 1 (hash name)

def nameType : ServerName → UInt8
  | host _ => hostNameType
  | raw name => name.nameType

def encoded : ServerName → List UInt8
  | host name => name.encoded
  | raw name => name.payload

def asHost? : ServerName → Option HostName
  | host name => some name
  | raw _ => none

def render : ServerName → List Char
  | host name => name.render
  | raw name => name.render

end ServerName

end SecureSockets.Sni
