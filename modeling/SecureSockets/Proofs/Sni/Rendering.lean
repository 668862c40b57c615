import Mathlib.Data.List.Basic
import SecureSockets.Sni.ServerName

namespace SecureSockets.Sni

open Text

/-!
# Renderings of raw names

Logs show a raw name as its type and the bytes of its payload.  Nothing of it is lost there.
A rendering can be read back, and the reader below accepts renderings only, so that names which
are shown alike are one name.

The type of host names is shown in words and every other type by its number.  A number ends at
the parenthesis behind it, hence no type is shown as the beginning of another.  What is behind
the type is split at the colons.  No digit is a colon, so the pieces are the bytes again, except
that an empty payload is shown as no piece instead of an empty one.
-/

def upperHexDigits : List Char :=
  ['0', '1', '2', '3', '4', '5', '6', '7', '8', '9', 'A', 'B', 'C', 'D', 'E', 'F']

def byteOfDigits? : List Char -> Option UInt8
  | [high, low] => do
    let high ← upperHexDigits.idxOf? high
    let low ← upperHexDigits.idxOf? low
    pure (UInt8.ofNat (16 * high + low))
  | _ => none

/-- Reads bytes with colons between them.  An empty payload leaves no text, while
splitting no text at its colons would give one piece. -/
def bytesOfDigits? : List Char -> Option (List UInt8)
  | [] => some []
  | digits => (digits.splitOn ':').mapM byteOfDigits?

/-- Reads a type from its number.  The type of host names is not shown by its number, and
numbers are not shown with further zeros. -/
def typeOfDigits? (digits : List Char) : Option UInt8 :=
  let nameType := UInt8.ofNat (Nat.ofDigitChars 10 digits 0)
  if nameType ≠ hostNameType ∧ (toString nameType.toNat).toList = digits then some nameType
  else none

def splitType? (text : List Char) : Option (UInt8 × List Char) :=
  match text.dropPrefix? "type=host_name (0), value=".toList with
  | some rest => some (hostNameType, rest)
  | none => do
    let rest ← text.dropPrefix? "type=(".toList
    let nameType ← typeOfDigits? (rest.takeWhile Char.isDigit)
    let rest ← (rest.dropWhile Char.isDigit).dropPrefix? "), value=".toList
    pure (nameType, rest)

/-- Reads a rendering back.  It is defined without looking at how names are rendered, and
fails for texts that no name is rendered as. -/
def RawName.ofRendering? (text : List Char) : Option RawName := do
  let (nameType, rest) ← splitType? text
  let payload ← bytesOfDigits? rest
  pure ⟨nameType, payload⟩

/-- What is shown of a type. -/
inductive Headed : UInt8 -> List Char -> Prop where
  | words : Headed 0 "type=host_name (0), ".toList
  | number {nameType : UInt8} (other : nameType ≠ 0) :
      Headed nameType ("type=(".toList ++ (toString nameType.toNat).toList ++ "), ".toList)

/-- How the bytes of a payload are shown: each as two digits, and a colon between any two
of them. -/
structure Shown (payload : List UInt8) (text : List Char) : Prop where
  digits : ∀ i byte, payload[i]? = some byte ->
    text[3 * i]? = upperHexDigits[byte.toNat / 16]? ∧
      text[3 * i + 1]? = upperHexDigits[byte.toNat % 16]?
  colons : ∀ i, i + 1 < payload.length -> text[3 * i + 2]? = some ':'
  length : text.length = 3 * payload.length - 1

/-! ## Digits -/

theorem getElem?_upperHexDigits {value : Nat} (small : value < 16) :
    upperHexDigits[value]? = some (upperHexDigit value) := by
  have all : ∀ value < 16, upperHexDigits[value]? = some (upperHexDigit value) := by decide
  exact all value small

theorem idxOf?_upperHexDigits_iff {digit : Char} {value : Nat} :
    upperHexDigits.idxOf? digit = some value ↔ value < 16 ∧ upperHexDigit value = digit := by
  constructor
  · intro found
    rcases List.idxOf?_eq_some_iff.mp found with ⟨small, listed, -⟩
    have shown := getElem?_upperHexDigits small
    rw [List.getElem?_eq_getElem small, listed, Option.some.injEq] at shown
    exact ⟨small, shown.symm⟩
  · rintro ⟨small, rfl⟩
    have all : ∀ value < 16, upperHexDigits.idxOf? (upperHexDigit value) = some value := by decide
    exact all value small

/-- A byte is its first digit times sixteen and its second one. -/
theorem byteOfDigits?_eq_some_iff {digits : List Char} {byte : UInt8} :
    byteOfDigits? digits = some byte ↔ upperHexByte byte = digits := by
  constructor
  · intro read
    unfold byteOfDigits? at read
    split at read
    · rename_i first second
      rcases Option.bind_eq_some_iff.mp read with ⟨high, readHigh, read⟩
      rcases Option.bind_eq_some_iff.mp read with ⟨low, readLow, made⟩
      rcases idxOf?_upperHexDigits_iff.mp readHigh with ⟨highSmall, rfl⟩
      rcases idxOf?_upperHexDigits_iff.mp readLow with ⟨lowSmall, rfl⟩
      cases made
      have whole : (UInt8.ofNat (16 * high + low)).toNat = 16 * high + low :=
        UInt8.toNat_ofNat_of_lt' (show _ < 256 by omega)
      have quotient : (16 * high + low) / 16 = high := by omega
      have remainder : (16 * high + low) % 16 = low := by omega
      rw [upperHexByte, whole, quotient, remainder]
    · cases read
  · rintro rfl
    have bounded : byte.toNat < 256 := byte.toNat_lt
    have high := idxOf?_upperHexDigits_iff.mpr
      ⟨show byte.toNat / 16 < 16 by omega, rfl⟩
    have low := idxOf?_upperHexDigits_iff.mpr
      ⟨show byte.toNat % 16 < 16 by omega, rfl⟩
    have halves : 16 * (byte.toNat / 16) + byte.toNat % 16 = byte.toNat := Nat.div_add_mod _ _
    simp only [upperHexByte, byteOfDigits?, high, low, Option.bind_eq_bind, Option.bind_some,
      Option.pure_def, halves, UInt8.ofNat_toNat]

theorem mem_upperHexDigits {byte : UInt8} {digit : Char} (within : digit ∈ upperHexByte byte) :
    digit ∈ upperHexDigits := by
  have bounded : byte.toNat < 256 := byte.toNat_lt
  rcases List.mem_cons.mp within with rfl | within
  · exact List.mem_of_getElem? (getElem?_upperHexDigits (by omega))
  · cases List.mem_singleton.mp within
    exact List.mem_of_getElem? (getElem?_upperHexDigits (by omega))

theorem colon_notMem_upperHexByte (byte : UInt8) : ':' ∉ upperHexByte byte := by
  intro within
  exact absurd (mem_upperHexDigits within) (by decide)

/-! ## Payloads -/

namespace RawName

theorem renderPayload_cons_cons (byte next : UInt8) (rest : List UInt8) :
    renderPayload (byte :: next :: rest) =
      upperHexByte byte ++ ':' :: renderPayload (next :: rest) := by
  simp only [renderPayload, List.map_cons, List.intercalate_cons_cons, List.append_assoc,
    List.singleton_append]

end RawName

section Shown

variable {byte next : UInt8} {rest payload : List UInt8} {text : List Char}

theorem digits_upperHexByte (byte : UInt8) :
    (upperHexByte byte)[0]? = upperHexDigits[byte.toNat / 16]? ∧
      (upperHexByte byte)[1]? = upperHexDigits[byte.toNat % 16]? := by
  have bounded : byte.toNat < 256 := byte.toNat_lt
  rw [getElem?_upperHexDigits (by omega), getElem?_upperHexDigits (by omega)]
  exact ⟨rfl, rfl⟩

theorem Shown.nil : Shown [] [] := ⟨nofun, nofun, rfl⟩

theorem Shown.single (byte : UInt8) : Shown [byte] (upperHexByte byte) where
  digits i byte' listed := by
    cases i with
    | zero =>
        cases listed
        exact digits_upperHexByte byte
    | succ i => cases listed
  colons i behind := absurd behind (by simp)
  length := rfl

theorem Shown.cons (shown : Shown (next :: rest) text) :
    Shown (byte :: next :: rest) (upperHexByte byte ++ ':' :: text) where
  digits i byte' listed := by
    cases i with
    | zero =>
        cases listed
        exact digits_upperHexByte byte
    | succ i => exact shown.digits i byte' listed
  colons i behind := by
    cases i with
    | zero => rfl
    | succ i => exact shown.colons i (Nat.lt_of_succ_lt_succ behind)
  length := by
    have length := shown.length
    rw [List.length_append, List.length_cons, length, upperHexByte]
    simp only [List.length_cons, List.length_nil]
    omega

theorem getElem?_upperHexDigits_ne (value : Nat) : upperHexDigits[value]? ≠ some ':' := by
  intro listed
  exact absurd (List.mem_of_getElem? listed) (by decide)

theorem Shown.eq_nil (shown : Shown [] text) : text = [] :=
  List.length_eq_zero_iff.mp shown.length

theorem Shown.head?_ne (shown : Shown payload text) : text.head? ≠ some ':' := by
  cases payload with
  | nil => exact shown.eq_nil ▸ nofun
  | cons byte rest =>
      rw [List.head?_eq_getElem?, (shown.digits 0 byte rfl).1]
      exact getElem?_upperHexDigits_ne _

theorem Shown.getLast?_ne (shown : Shown payload text) : text.getLast? ≠ some ':' := by
  rcases List.eq_nil_or_concat payload with rfl | ⟨front, last, rfl⟩
  · exact shown.eq_nil ▸ nofun
  · rw [List.concat_eq_append] at shown
    have listed : (front ++ [last])[front.length]? = some last := List.getElem?_concat_length
    have final : text.length - 1 = 3 * front.length + 1 := by
      have length := shown.length
      rw [List.length_append, List.length_singleton] at length
      omega
    rw [List.getLast?_eq_getElem?, final, (shown.digits front.length last listed).2]
    exact getElem?_upperHexDigits_ne _

end Shown

theorem shown_renderPayload (payload : List UInt8) :
    Shown payload (RawName.renderPayload payload) := by
  match payload with
  | [] => exact .nil
  | [byte] => exact .single byte
  | byte :: next :: rest =>
      rw [RawName.renderPayload_cons_cons]
      exact (shown_renderPayload (next :: rest)).cons

theorem mapM_byteOfDigits?_eq_some_iff {pieces : List (List Char)} {bytes : List UInt8} :
    pieces.mapM byteOfDigits? = some bytes ↔ bytes.map upperHexByte = pieces := by
  induction pieces generalizing bytes with
  | nil => cases bytes <;> simp
  | cons piece rest ih =>
      simp only [List.mapM_cons, Option.bind_eq_bind, Option.bind_eq_some_iff,
        byteOfDigits?_eq_some_iff, ih, Option.pure_def, Option.some.injEq]
      cases bytes <;> simp

/-- The pieces between the colons are the bytes, unless there are none. -/
theorem bytesOfDigits?_eq_some_iff {text : List Char} {payload : List UInt8} :
    bytesOfDigits? text = some payload ↔ RawName.renderPayload payload = text := by
  cases text with
  | nil =>
      have length := (shown_renderPayload payload).length
      show some [] = some payload ↔ _
      rw [Option.some.injEq, @eq_comm _ [], ← List.length_eq_zero_iff, ← List.length_eq_zero_iff,
        length]
      omega
  | cons first rest =>
      show ((first :: rest).splitOn ':').mapM byteOfDigits? = some payload ↔ _
      rw [mapM_byteOfDigits?_eq_some_iff]
      constructor
      · intro pieces
        rw [RawName.renderPayload, pieces, List.intercalate_splitOn]
      · intro shown
        have filled : payload.map upperHexByte ≠ [] := by
          intro empty
          rw [RawName.renderPayload, empty] at shown
          cases shown
        have free : ∀ piece ∈ payload.map upperHexByte, ':' ∉ piece := by
          intro piece listed
          rcases List.mem_map.mp listed with ⟨byte, -, rfl⟩
          exact colon_notMem_upperHexByte byte
        rw [← shown, RawName.renderPayload, List.splitOn_intercalate ':' free filled]

/-! ## Types -/

section Types

variable {text digits rest : List Char} {nameType : UInt8}

theorem typeOfDigits?_eq_some_iff :
    typeOfDigits? digits = some nameType ↔
      nameType ≠ hostNameType ∧ (toString nameType.toNat).toList = digits := by
  constructor
  · intro read
    simp only [typeOfDigits?, Option.ite_none_right_eq_some, Option.some.injEq] at read
    rcases read with ⟨canonical, rfl⟩
    exact canonical
  · rintro ⟨other, rfl⟩
    have same : UInt8.ofNat (Nat.ofDigitChars 10 (toString nameType.toNat).toList 0) =
        nameType := by
      rw [Nat.toString_eq_repr, Nat.toList_repr, Nat.ofDigitChars_ten_toDigits, UInt8.ofNat_toNat]
    rw [typeOfDigits?, same]
    exact if_pos ⟨other, rfl⟩

theorem renderType_of_ne (other : nameType ≠ hostNameType) :
    RawName.renderType nameType =
      "type=(".toList ++ (toString nameType.toNat).toList ++ "), value=".toList :=
  if_neg other

theorem exists_headed (nameType : UInt8) :
    ∃ heading, Headed nameType heading ∧
      RawName.renderType nameType = heading ++ "value=".toList := by
  by_cases host : nameType = 0
  · subst host
    exact ⟨_, .words, rfl⟩
  · refine ⟨_, .number host, ?_⟩
    rw [renderType_of_ne host, List.append_assoc _ "), ".toList]
    rfl

theorem dropPrefix?_iff {front : List Char} :
    text.dropPrefix? front = some rest ↔ front ++ rest = text := by
  rw [List.dropPrefix?_eq_some_iff]
  constructor
  · rintro ⟨_, rfl, same⟩
    rw [eq_of_beq same]
  · rintro rfl
    exact ⟨front, rfl, beq_self_eq_true front⟩

/-- A number does not begin like the words for host names. -/
theorem dropPrefix?_words_of_number :
    ("type=(".toList ++ rest).dropPrefix? "type=host_name (0), value=".toList = none := by
  rw [Option.eq_none_iff_forall_ne_some]
  intro rest' dropped
  rw [dropPrefix?_iff] at dropped
  simp at dropped

/-- A number ends where its digits end. -/
theorem span_number (number : Nat) (rest : List Char) :
    ((toString number).toList ++ "), value=".toList ++ rest).takeWhile Char.isDigit =
        (toString number).toList ∧
      ((toString number).toList ++ "), value=".toList ++ rest).dropWhile Char.isDigit =
        "), value=".toList ++ rest := by
  have digits : ∀ digit ∈ (toString number).toList, digit.isDigit = true := by
    intro digit within
    rw [Nat.toString_eq_repr, Nat.toList_repr] at within
    exact Nat.isDigit_of_mem_toDigits (by decide) (by decide) within
  rw [List.append_assoc, List.takeWhile_append_of_pos digits, List.dropWhile_append_of_pos digits]
  exact ⟨List.append_nil _, rfl⟩

theorem splitType?_eq_some_iff :
    splitType? text = some (nameType, rest) ↔ RawName.renderType nameType ++ rest = text := by
  constructor
  · intro read
    unfold splitType? at read
    split at read
    · rename_i rest' dropped
      cases read
      exact dropPrefix?_iff.mp dropped
    · rcases Option.bind_eq_some_iff.mp read with ⟨behind, opened, read⟩
      rcases Option.bind_eq_some_iff.mp read with ⟨_, number, read⟩
      rcases Option.bind_eq_some_iff.mp read with ⟨_, closed, made⟩
      cases made
      rcases typeOfDigits?_eq_some_iff.mp number with ⟨other, digits⟩
      rw [renderType_of_ne other, digits, List.append_assoc, List.append_assoc,
        dropPrefix?_iff.mp closed, List.takeWhile_append_dropWhile, dropPrefix?_iff.mp opened]
  · rintro rfl
    by_cases host : nameType = hostNameType
    · subst host
      have words : RawName.renderType hostNameType = "type=host_name (0), value=".toList := rfl
      rw [words, splitType?, dropPrefix?_iff.mpr rfl]
    · have number := typeOfDigits?_eq_some_iff.mpr ⟨host, rfl⟩
      rcases span_number nameType.toNat rest with ⟨digits, behind⟩
      rw [renderType_of_ne host, List.append_assoc, List.append_assoc, ← List.append_assoc _ _ rest,
        splitType?, dropPrefix?_words_of_number]
      simp only [Option.bind_eq_bind, dropPrefix?_iff.mpr rfl, Option.bind_some, digits, behind,
        number]
      rfl

end Types

namespace RawName

/-- Exactly the renderings are read, each as the name that it shows. -/
theorem ofRendering?_eq_some_iff {text : List Char} {name : RawName} :
    ofRendering? text = some name ↔ name.render = text := by
  simp only [ofRendering?, Option.bind_eq_bind, Option.bind_eq_some_iff, Prod.exists,
    splitType?_eq_some_iff, bytesOfDigits?_eq_some_iff, Option.pure_def, Option.some.injEq]
  constructor
  · rintro ⟨nameType, rest, rfl, payload, rfl, rfl⟩
    rfl
  · rintro rfl
    exact ⟨_, _, rfl, _, rfl, rfl⟩

example : ofRendering? "type=(7), value=0A:FF:00".toList = some ⟨7, [10, 255, 0]⟩ := by
  decide +kernel

example : ofRendering? "type=(07), value=0A:FF:00".toList = none := by
  decide +kernel

/-- Names of any type and any payload are read back from what is shown of them, and nothing
else is read.  What is behind the heading are the bytes of the payload, with a colon between any
two of them and nowhere else. -/
theorem rendering_loses_nothing :
    (∀ (text : List Char) (name : RawName),
      ofRendering? text = some name ↔ name.render = text) ∧
      (∀ (code : Nat) (payload : List UInt8), code < 256 ->
        ∃ name, create code payload = .ok name ∧
          (name.nameType.toNat = code ∧ name.payload = payload) ∧
          ofRendering? name.render = some name) ∧
      (∀ one other : RawName, one.render = other.render -> one = other) ∧
      ∀ name : RawName, ∃ heading shown,
        name.render = heading ++ "value=".toList ++ shown ∧
          Headed name.nameType heading ∧ Shown name.payload shown ∧
          shown.head? ≠ some ':' ∧ shown.getLast? ≠ some ':' := by
  refine ⟨fun text name => ofRendering?_eq_some_iff, ?_, ?_, ?_⟩
  · intro code payload fits
    exact ⟨⟨UInt8.ofNat code, payload⟩, if_pos fits, ⟨UInt8.toNat_ofNat_of_lt' fits, rfl⟩,
      ofRendering?_eq_some_iff.mpr rfl⟩
  · intro one other alike
    have read := ofRendering?_eq_some_iff.mpr alike
    rw [ofRendering?_eq_some_iff.mpr rfl] at read
    exact (Option.some.inj read).symm
  · intro name
    rcases exists_headed name.nameType with ⟨heading, headed, split⟩
    have shown := shown_renderPayload name.payload
    refine ⟨heading, renderPayload name.payload, ?_, headed, shown, shown.head?_ne,
      shown.getLast?_ne⟩
    rw [render, split]

end RawName

end SecureSockets.Sni
