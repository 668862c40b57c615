import Mathlib.Data.List.Forall2
import SecureSockets.Sni.HostName

namespace SecureSockets.Sni

/-!
# Labels of host names

A host name is taken apart at its separators, each label is converted on its own, and the
results are joined by full stops.  A name can be turned into a host name exactly if none of
its labels is empty, each of them can be converted, and the joined text neither is empty
nor ends in a full stop.
-/

/-! ## Taking apart and joining -/

/-- Taking apart at characters that satisfy a test is what the library calls so. -/
theorem splitAtEach_eq (test : Char -> Bool) (text : List Char) :
    splitAtEach test text = text.splitOnP test := by
  induction text with
  | nil => rfl
  | cons c rest ih =>
      rw [List.splitOnP_cons_eq_if_modifyHead, splitAtEach, ih]
      split
      · rfl
      · cases parts : List.splitOnP test rest with
        | nil => exact absurd parts (List.splitOnP_ne_nil test rest)
        | cons => rfl

theorem labelsOf_ne_nil (name : List Char) : labelsOf name ≠ [] := by
  rw [labelsOf, splitAtEach_eq]
  exact List.splitOnP_ne_nil isSeparator name

theorem mem_of_mem_splitAtEach {test : Char -> Bool} {text part : List Char}
    (member : part ∈ splitAtEach test text) :
    ∀ c ∈ part, c ∈ text ∧ test c = false := by
  induction text generalizing part with
  | nil =>
      cases List.mem_singleton.mp member
      exact nofun
  | cons first rest ih =>
      have kept {part : List Char} (member : part ∈ splitAtEach test rest) :
          ∀ c ∈ part, c ∈ first :: rest ∧ test c = false := fun c within =>
        (ih member c within).imp_left (List.mem_cons_of_mem _)
      unfold splitAtEach at member
      split at member
      · rcases List.mem_cons.mp member with rfl | later
        · exact nofun
        · exact kept later
      · next notCut =>
          have ahead : first ∈ first :: rest ∧ test first = false :=
            ⟨List.mem_cons_self, Bool.eq_false_iff.mpr notCut⟩
          split at member
          · cases List.mem_singleton.mp member
            intro c within
            exact List.mem_singleton.mp within ▸ ahead
          · next part' parts parted =>
              rcases List.mem_cons.mp member with rfl | later
              · intro c within
                rcases List.mem_cons.mp within with rfl | inside
                · exact ahead
                · exact kept (parted ▸ List.mem_cons_self) c inside
              · exact kept (parted ▸ List.mem_cons_of_mem _ later)

/-- No character disappears when a text is taken apart, but those it is taken apart at. -/
theorem exists_mem_splitAtEach {test : Char -> Bool} {text : List Char} {c : Char}
    (member : c ∈ text) (kept : test c = false) : ∃ part ∈ splitAtEach test text, c ∈ part := by
  induction text with
  | nil => cases member
  | cons first rest ih =>
      unfold splitAtEach
      rcases List.mem_cons.mp member with rfl | later
      · rw [kept, if_neg Bool.false_ne_true]
        cases splitAtEach test rest <;> exact ⟨_, List.mem_cons_self, List.mem_cons_self⟩
      · rcases ih later with ⟨part, among, within⟩
        split
        · exact ⟨part, List.mem_cons_of_mem _ among, within⟩
        · cases parted : splitAtEach test rest with
          | nil =>
              rw [parted] at among
              cases among
          | cons part' parts =>
              rw [parted] at among
              rcases List.mem_cons.mp among with rfl | elsewhere
              · exact ⟨_, List.mem_cons_self, List.mem_cons_of_mem _ within⟩
              · exact ⟨part, List.mem_cons_of_mem _ elsewhere, within⟩

theorem joinLabels_cons {labels : List (List Char)} (more : labels ≠ []) (label : List Char) :
    joinLabels (label :: labels) = label ++ '.' :: joinLabels labels := by
  rw [joinLabels, List.intercalate_cons_of_ne_nil more, List.append_assoc]
  rfl

@[simp] theorem joinLabels_singleton (label : List Char) : joinLabels [label] = label := by
  simp [joinLabels]

theorem joinLabels_splitAtEach (text : List Char) :
    joinLabels (splitAtEach (· == '.') text) = text := by
  rw [splitAtEach_eq]
  exact List.intercalate_splitOn '.'

/-- Joining some texts and taking the result apart again takes each of them apart. -/
theorem splitAtEach_joinLabels {test : Char -> Bool} (dot : test '.' = true)
    {labels : List (List Char)} (some : labels ≠ []) :
    splitAtEach test (joinLabels labels) = labels.flatMap (splitAtEach test) := by
  induction labels with
  | nil => exact absurd rfl some
  | cons label rest ih =>
      cases rest with
      | nil => rw [joinLabels_singleton, List.flatMap_singleton]
      | cons next rest =>
          have cut : splitAtEach test (label ++ '.' :: joinLabels (next :: rest)) =
              splitAtEach test label ++ splitAtEach test (joinLabels (next :: rest)) := by
            simp only [splitAtEach_eq]
            exact List.splitOnP_append_cons _ _ dot
          rw [joinLabels_cons (List.cons_ne_nil _ _), cut, ih (List.cons_ne_nil _ _)]
          rfl

/-- Nothing is taken apart where no character satisfies the test. -/
theorem splitAtEach_of_free {test : Char -> Bool} {text : List Char}
    (free : ∀ c ∈ text, test c = false) : splitAtEach test text = [text] := by
  rw [splitAtEach_eq]
  exact List.splitOnP_eq_singleton free

/-- Texts that have no character to be taken apart at can be joined and taken apart again. -/
theorem splitAtEach_joinLabels_of_free {test : Char -> Bool} (dot : test '.' = true)
    {labels : List (List Char)} (some : labels ≠ [])
    (free : ∀ label ∈ labels, ∀ c ∈ label, test c = false) :
    splitAtEach test (joinLabels labels) = labels := by
  have single : labels.flatMap (splitAtEach test) = labels.flatMap fun label => [label] :=
    List.flatMap_congr fun label member => splitAtEach_of_free (free label member)
  rw [splitAtEach_joinLabels dot some, single, List.flatMap_singleton']

/-- A change of characters that the test does not notice can be made before or after. -/
theorem splitAtEach_map {test : Char -> Bool} {change : Char -> Char}
    (unnoticed : ∀ c, test (change c) = test c) (text : List Char) :
    splitAtEach test (text.map change) = (splitAtEach test text).map (List.map change) := by
  induction text with
  | nil => rfl
  | cons c rest ih =>
      rw [List.map_cons, splitAtEach, splitAtEach, unnoticed, ih]
      split
      · rfl
      · cases splitAtEach test rest <;> rfl

theorem joinLabels_map (change : Char -> Char) (dot : change '.' = '.')
    (labels : List (List Char)) :
    (joinLabels labels).map change = joinLabels (labels.map (List.map change)) := by
  induction labels with
  | nil => rfl
  | cons label rest ih =>
      cases rest with
      | nil => simp
      | cons next rest =>
          have more : (next :: rest).map (List.map change) ≠ [] := List.cons_ne_nil _ _
          rw [joinLabels_cons (List.cons_ne_nil _ _), List.map_append, List.map_cons, dot, ih]
          exact (joinLabels_cons more _).symm

theorem joinLabels_closed {labels : List (List Char)} (some : labels ≠ []) :
    joinLabels (labels ++ [[]]) = joinLabels labels ++ ['.'] := by
  induction labels with
  | nil => exact absurd rfl some
  | cons label rest ih =>
      cases rest with
      | nil => simp [joinLabels_cons]
      | cons next rest =>
          have more : next :: rest ≠ [] := List.cons_ne_nil _ _
          rw [List.cons_append, joinLabels_cons (List.append_ne_nil_of_left_ne_nil more _),
            joinLabels_cons more, ih more, List.append_assoc, List.cons_append]

/-! ## Conversion -/

section Conversion

variable {codec : LabelCodec} {rules : HostNameRules} {name : List Char}

/-- A label, which is not empty, and what it becomes. -/
def Converts (codec : LabelCodec) (rules : HostNameRules) (name label ascii : List Char) : Prop :=
  label ≠ [] ∧ convertLabel codec rules name label = .ok ascii

theorem convertLabel_eq_ok_iff {label ascii : List Char} :
    convertLabel codec rules name label = .ok ascii ↔
      ascii.length ≤ labelLimit ∧
        ((Idna.isAscii label = true ∧ checkAsciiLabel rules name label = .ok () ∧
            ascii = label) ∨
          (Idna.isAscii label = false ∧ rules.convert codec label = some ascii)) := by
  have limited (text : List Char) :
      (if labelLimit < text.length then Except.error (.labelTooLong label name)
        else .ok text : Except HostNameFault (List Char)) = .ok ascii ↔
        ascii.length ≤ labelLimit ∧ ascii = text := by
    split
    · next long =>
        refine ⟨nofun, ?_⟩
        rintro ⟨short, rfl⟩
        exact absurd long (Nat.not_lt.mpr short)
    · next short =>
        constructor
        · rintro ⟨⟩
          exact ⟨Nat.not_lt.mp short, rfl⟩
        · rintro ⟨-, rfl⟩
          rfl
  unfold convertLabel
  cases isAscii : Idna.isAscii label with
  | true =>
      cases checked : checkAsciiLabel rules name label with
      | error fault => simp [Except.map, Except.bind]
      | ok _ => simp [Except.map, Except.bind, limited]
  | false =>
      cases converted : rules.convert codec label with
      | none => simp [Except.bind]
      | some text => simp [Except.bind, limited, eq_comm]

/-- Labels in front that can be converted do not change what becomes of the others. -/
theorem convertLabels_append {before forms rest : List (List Char)}
    (converts : List.Forall₂ (Converts codec rules name) before forms) :
    convertLabels codec rules name (before ++ rest) =
      (convertLabels codec rules name rest).map (forms ++ ·) := by
  induction converts with
  | nil =>
      rw [List.nil_append]
      cases convertLabels codec rules name rest <;> rfl
  | @cons label form before forms converts _ ih =>
      rw [List.cons_append, convertLabels, if_neg (mt List.isEmpty_iff.mp converts.1), converts.2,
        ih]
      cases convertLabels codec rules name rest <;> rfl

theorem convertLabels_of_converts {labels converted : List (List Char)}
    (converts : List.Forall₂ (Converts codec rules name) labels converted) :
    convertLabels codec rules name labels = .ok converted := by
  have all : convertLabels codec rules name (labels ++ []) = _ := convertLabels_append converts
  simpa [convertLabels, Except.map] using all

/-- Labels are converted one by one, but an empty one may stand at the end. -/
theorem converts_of_convertLabels {labels converted : List (List Char)}
    (result : convertLabels codec rules name labels = .ok converted) :
    List.Forall₂ (Converts codec rules name) labels converted ∨
      ∃ front forms, labels = front ++ [[]] ∧ converted = forms ++ [[]] ∧
        List.Forall₂ (Converts codec rules name) front forms := by
  induction labels generalizing converted with
  | nil =>
      cases result
      exact Or.inl .nil
  | cons label rest ih =>
      unfold convertLabels at result
      split at result
      · next missing =>
          split at result
          · next last =>
              cases result
              rw [List.isEmpty_iff.mp missing, List.isEmpty_iff.mp last]
              exact Or.inr ⟨[], [], rfl, rfl, .nil⟩
          · cases result
      · next filled =>
          split at result
          · cases result
          · next ascii converts =>
              have first : Converts codec rules name label ascii :=
                ⟨mt List.isEmpty_iff.mpr filled, converts⟩
              cases others : convertLabels codec rules name rest with
              | error fault =>
                  rw [others] at result
                  cases result
              | ok converted' =>
                  rw [others] at result
                  cases result
                  rcases ih others with all | ⟨front, forms, rfl, rfl, all⟩
                  · exact Or.inl (.cons first all)
                  · exact Or.inr ⟨label :: front, ascii :: forms, rfl, rfl, .cons first all⟩

theorem ofAscii_eq_ok_iff {ascii : List Char} {encoded : List UInt8} {host : HostName} :
    HostName.ofAscii ascii encoded = .ok host ↔
      ascii ≠ [] ∧ ascii.getLast? ≠ some '.' ∧ host = ⟨ascii, encoded⟩ := by
  unfold HostName.ofAscii
  split
  · next empty => simp [List.isEmpty_iff.mp empty]
  · next filled =>
      split
      · next closed => simp [beq_iff_eq.mp closed]
      · next notClosed =>
          have parts : ascii ≠ [] ∧ ascii.getLast? ≠ some '.' :=
            ⟨mt List.isEmpty_iff.mpr filled, mt beq_iff_eq.mpr notClosed⟩
          simp [parts, eq_comm]

/-- When the labels of a name make a host name, and which one. -/
theorem toAscii_bind_ofAscii_iff {encode : List Char -> List UInt8} {host : HostName} :
    ((toAscii codec rules name).bind fun ascii => HostName.ofAscii ascii (encode ascii)) =
        .ok host ↔
      ∃ converted, List.Forall₂ (Converts codec rules name) (labelsOf name) converted ∧
        joinLabels converted ≠ [] ∧ (joinLabels converted).getLast? ≠ some '.' ∧
        host = ⟨joinLabels converted, encode (joinLabels converted)⟩ := by
  unfold toAscii
  constructor
  · intro made
    cases result : convertLabels codec rules name (labelsOf name) with
    | error fault =>
        rw [result] at made
        cases made
    | ok converted =>
        rw [result] at made
        have accepted := ofAscii_eq_ok_iff.mp made
        refine ⟨converted, ?_, accepted⟩
        rcases converts_of_convertLabels result with all | ⟨-, forms, -, rfl, -⟩
        · exact all
        · -- An empty label at the end leaves a dot there, or nothing at all.
          cases forms with
          | nil => exact absurd rfl accepted.1
          | cons first forms =>
              rw [joinLabels_closed (List.cons_ne_nil _ _)] at accepted
              exact absurd List.getLast?_concat accepted.2.1
  · rintro ⟨converted, converts, accepted⟩
    rw [convertLabels_of_converts converts]
    exact ofAscii_eq_ok_iff.mpr accepted

end Conversion

end SecureSockets.Sni
