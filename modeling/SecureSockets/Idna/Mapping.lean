import SecureSockets.Idna.Mapping.Table
import SecureSockets.Unicode.Normal

namespace SecureSockets.Idna

/-!
The mapping step of internationalized names: characters are kept, dropped, replaced
or refused, and the result is normalized.
-/

namespace Mapping

inductive Status where
  | disallowed
  | valid
  | ignored
  | mapped (replacement : List Char)
  deriving DecidableEq, Repr

def status (c : Char) : Status :=
  match Unicode.classOf statusRows c.toNat with
  | some 1 => .valid
  | some 2 => .ignored
  | some 3 => .mapped (((Unicode.valuesOf replacementRows c.toNat).getD []).map Char.ofNat)
  | _ => .disallowed

/-- Maps the characters of a text one by one.  A single disallowed character makes the
whole text unusable, wherever it stands. -/
def mapChars : List Char → Option (List Char)
  | [] => some []
  | c :: rest =>
    match status c with
    | .disallowed => none
    | .valid => (mapChars rest).map (c :: ·)
    | .ignored => mapChars rest
    | .mapped replacement => (mapChars rest).map (replacement ++ ·)

def normalized (text : List Char) : Option (List Char) :=
  (mapChars text).map Unicode.Normal.composed

/-- Whether mapping leaves a text as it is: all characters are valid and the text is
normalized already. -/
def isStable (text : List Char) : Bool :=
  text.all (fun c => status c == .valid) && Unicode.Normal.composed text == text

end Mapping

end SecureSockets.Idna
