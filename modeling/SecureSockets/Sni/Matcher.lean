import SecureSockets.Log
import SecureSockets.Regex.Match
import SecureSockets.Regex.Parse
import SecureSockets.Sni.ServerName

namespace SecureSockets.Sni

open Text

/-!
Matchers of server names.  A matcher has a name type and a test.  Matchers are told
apart by identity: copies of one matcher are equal, and matchers made separately never
are, even from the same pattern.
-/

/-- A test of server names of one type.  Tests cannot be compared, so that a matcher
carries an identity of its own; copies of the matcher share it. -/
structure Matcher where
  identity : Nat
  nameType : UInt8
  test : ServerName → Logged Bool

namespace Matcher

instance : BEq Matcher where
  beq left right := left.identity == right.identity

instance : Hashable Matcher where
  hash matcher := hash matcher.identity

end Matcher

structure HostPattern where
  regex : Regex

namespace HostPattern

/-- The frame that a pattern is put into, so that a match has to begin at the beginning
of a name and end at its end. -/
def framed (pattern : List Char) : List Char :=
  "^(?:".toList ++ pattern ++ ")$".toList

/-- The host pattern of a text, unless it is no regular expression in its frame. -/
def ofText? (compiler : Regex.Compiler) (pattern : List Char) : Option HostPattern :=
  (Regex.ofPattern? compiler { caseInsensitive := true } (framed pattern)).map HostPattern.mk

/-- The ASCII form of a server name, if it has one.  The payload of a raw name is read
leniently. -/
def asciiForm? (codec : LabelCodec) : ServerName → Option (List Char)
  | .host name => some name.ascii
  | .raw name => (toAscii codec .lenient (Utf8.decodeLossy name.payload)).toOption

/-- Whether a pattern matches a name in ASCII form, or its Unicode form.  The Unicode form
is made from the ASCII form and not from the text that the name was written as. -/
def matchesAscii (pattern : HostPattern) (codec : LabelCodec) (ascii : List Char) : Bool :=
  pattern.regex.isMatch ascii || pattern.regex.isMatch (toUnicode codec ascii)

/-- Tests a server name.  A name without an ASCII form never matches. -/
def test (pattern : HostPattern) (codec : LabelCodec) (name : ServerName) : Logged Bool :=
  match asciiForm? codec name with
  | some ascii => pure (pattern.matchesAscii codec ascii)
  | none => do
    writeLog .trace ("No ASCII form for " ++ String.ofList name.render ++ ", not matching")
    pure false

end HostPattern

namespace Matcher

/-- The matcher of host names against a pattern.  A refusal is explained by the compiler,
which is shown the pattern in its frame. -/
def ofPattern (compiler : Regex.Compiler) (codec : LabelCodec) (identity : Nat)
    (pattern : List Char) : Except Error Matcher :=
  match HostPattern.ofText? compiler pattern with
  | some hostPattern => .ok ⟨identity, hostNameType, hostPattern.test codec⟩
  | none =>
    let explanation := compiler.explain (HostPattern.framed pattern)
    .error (.invalidArgument ("invalid SNI pattern: " ++ explanation))

end Matcher

end SecureSockets.Sni
