import SecureSockets.Error
import SecureSockets.Sni.LabelCodec
import SecureSockets.Text.Utf8

namespace SecureSockets.Sni

open Text

/-!
Host names in a server name indication.  A name is converted to ASCII label by label:
labels that are ASCII already keep the caller's spelling, the others go through a
codec.  Two names are the same host when their ASCII forms differ only in letter case.
-/

/-- Why a text or a sequence of bytes is no host name.  Faults of a label quote the whole
name as well, as it was given and not as far as it was converted. -/
inductive HostNameFault where
  | emptyLabel (name : List Char)
  | forbiddenCharacter (label name : List Char)
  | hyphenAtEnd (label name : List Char)
  | notConvertible (label name : List Char)
  | labelTooLong (label name : List Char)
  | emptyName
  | trailingDot (ascii : List Char)
  | notUtf8 (fault : Utf8.Fault)
  deriving DecidableEq, Repr

namespace HostNameFault

def message (fault : HostNameFault) : String :=
  let quote (text : List Char) : String := quoted (String.ofList text)
  let labelOf (label name : List Char) : String :=
    "label " ++ quote label ++ " of host name " ++ quote name
  match fault with
  | emptyLabel name => "host name " ++ quote name ++ " contains an empty label"
  | forbiddenCharacter label name =>
    labelOf label name ++ " may only contain letters, digits and hyphens"
  | hyphenAtEnd label name => labelOf label name ++ " starts or ends with a hyphen"
  | notConvertible label name => labelOf label name ++ " is not a valid internationalized label"
  | labelTooLong label name => labelOf label name ++ " is longer than 63 bytes"
  | emptyName => "host name must not be empty"
  | trailingDot ascii => "host name " ++ quote ascii ++ " must not end with a dot"
  | notUtf8 fault => "host name is not UTF-8: " ++ fault.message

def toError (fault : HostNameFault) : Error :=
  .invalidArgument fault.message

end HostNameFault

/-- The full stop, its ideographic form and their full-width and half-width variants. -/
def isSeparator (c : Char) : Bool :=
  c == '.' || c == '\u3002' || c == '\uFF0E' || c == '\uFF61'

/-- The texts between the characters that satisfy a test.  There is one more of them than
there are such characters, so that an empty text has one part, which is empty. -/
def splitAtEach (test : Char → Bool) : List Char → List (List Char)
  | [] => [[]]
  | c :: rest =>
    if test c then [] :: splitAtEach test rest
    else
      match splitAtEach test rest with
      | [] => [[c]]
      | part :: parts => (c :: part) :: parts

def labelsOf (name : List Char) : List (List Char) :=
  splitAtEach isSeparator name

def joinLabels (labels : List (List Char)) : List Char :=
  List.intercalate ['.'] labels

/-- Names that a user types are held to the letters, digits and hyphens that a host name
may have.  Names from a peer are not: what a peer calls itself is for matchers to
judge. -/
inductive HostNameRules where
  /-- For names typed by a user. -/
  | strict
  /-- For names received from a peer. -/
  | lenient
  deriving DecidableEq, Repr

/-- The greatest length of a label in ASCII form. -/
def labelLimit : Nat := 63

def isLetterDigitHyphen (c : Char) : Bool :=
  c.isAlphanum || c == '-'

def checkAsciiLabel (rules : HostNameRules) (name label : List Char) :
    Except HostNameFault Unit :=
  match rules with
  | .lenient => .ok ()
  | .strict =>
    if !label.all isLetterDigitHyphen then .error (.forbiddenCharacter label name)
    else if label.head? == some '-' || label.getLast? == some '-' then
      .error (.hyphenAtEnd label name)
    else .ok ()

def HostNameRules.convert (rules : HostNameRules) (codec : LabelCodec) :
    List Char → Option (List Char) :=
  match rules with
  | strict => codec.strict
  | lenient => codec.lenient

/-- The ASCII form of one label that is not empty.  ASCII labels are kept as they are
spelled and never seen by the codec; the length is checked last, on the form that is
sent. -/
def convertLabel (codec : LabelCodec) (rules : HostNameRules) (name label : List Char) :
    Except HostNameFault (List Char) :=
  let converted : Except HostNameFault (List Char) :=
    if Idna.isAscii label then
      (checkAsciiLabel rules name label).map fun _ => label
    else
      match rules.convert codec label with
      | some ascii => .ok ascii
      | none => .error (.notConvertible label name)
  converted.bind fun ascii =>
    if labelLimit < ascii.length then .error (.labelTooLong label name) else .ok ascii

/-- Converts labels from left to right, up to the first fault.  Only the last label may be
empty. -/
def convertLabels (codec : LabelCodec) (rules : HostNameRules) (name : List Char) :
    List (List Char) → Except HostNameFault (List (List Char))
  | [] => .ok []
  | label :: rest =>
    if label.isEmpty then
      if rest.isEmpty then .ok [[]] else .error (.emptyLabel name)
    else
      match convertLabel codec rules name label with
      | .error fault => .error fault
      | .ok ascii => (convertLabels codec rules name rest).map (ascii :: ·)

/-- The ASCII form of a name.  A trailing separator is kept, and the length of the whole
name is not limited. -/
def toAscii (codec : LabelCodec) (rules : HostNameRules) (name : List Char) :
    Except HostNameFault (List Char) :=
  (convertLabels codec rules name (labelsOf name)).map joinLabels

def isMarked (label : List Char) : Bool :=
  (Idna.dropMarker label).isSome

/-- The Unicode form of a label; one that cannot be decoded is kept as it is. -/
def unicodeLabel (codec : LabelCodec) (label : List Char) : List Char :=
  if isMarked label then (codec.unicode label).getD label else label

/-- The Unicode form of a name in ASCII form.  Only the full stop separates labels there,
and the form is for matching and for readers, never for the wire. -/
def toUnicode (codec : LabelCodec) (ascii : List Char) : List Char :=
  joinLabels ((splitAtEach (· == '.') ascii).map (unicodeLabel codec))

/-- A host name: its ASCII form, and the bytes that stand for it on the wire.  The bytes
are those of the ASCII form if the name was typed, and whatever was received otherwise. -/
structure HostName where
  ascii : List Char
  encoded : List UInt8
  deriving Repr

namespace HostName

/-- What identifies a host.  Comparing in capitals rather than storing capitals keeps the
spelling that a caller has chosen. -/
def key (host : HostName) : List Char :=
  host.ascii.map Char.toUpper

instance : BEq HostName where
  beq left right := left.key == right.key

instance : Hashable HostName where
  hash host := @hash _ (@instHashableList _ instHashableChar) host.key

def ofAscii (ascii : List Char) (encoded : List UInt8) : Except HostNameFault HostName :=
  if ascii.isEmpty then .error .emptyName
  else if ascii.getLast? == some '.' then .error (.trailingDot ascii)
  else .ok ⟨ascii, encoded⟩

/-- The host name of a text.  It is encoded as its ASCII form. -/
def ofText (codec : LabelCodec) (name : List Char) : Except HostNameFault HostName :=
  (toAscii codec .strict name).bind fun ascii => ofAscii ascii (Utf8.encode ascii)

/-- The host name of a sequence of bytes, which are kept as its encoding. -/
def ofBytes (codec : LabelCodec) (bytes : List UInt8) : Except HostNameFault HostName :=
  match Utf8.decode bytes with
  | .error fault => .error (.notUtf8 fault)
  | .ok name => (toAscii codec .lenient name).bind fun ascii => ofAscii ascii bytes

def unicode (codec : LabelCodec) (host : HostName) : List Char :=
  toUnicode codec host.ascii

def render (host : HostName) : List Char :=
  "type=host_name (0), value=".toList ++ host.ascii

end HostName

end SecureSockets.Sni
