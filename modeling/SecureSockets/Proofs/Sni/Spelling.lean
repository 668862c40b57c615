import SecureSockets.Proofs.Sni.Grammar
import SecureSockets.Proofs.Sni.Identity
import SecureSockets.Proofs.Unicode.Letters

namespace SecureSockets.Sni

open Unicode (toLower_rel toLower_eq_iff_toUpper_eq)

/-!
# Spellings of a name

A name can be written in small letters or in capitals, and with several kinds of full stops
between its labels.  Neither is part of the name: all spellings of a name are host names or
none is, and those that are make one host.  Only the conversion of labels that are not ASCII
has to be relied on for this, and only for not telling the case of letters apart.

The hosts of two spellings are not equal as records, since each keeps its capitals in the
labels that are ASCII.  What is carried from one spelling to the other is therefore a relation
between texts, which the labels, their converted forms and the joined forms stand in.
-/

/-- A text in small letters, with plain full stops between its labels. -/
def spelling (name : List Char) : List Char :=
  name.map fun c => if separators.contains c then '.' else c.toLower

/-- A conversion for names typed by a user does not tell the case of letters apart. -/
def LabelCodec.StrictIgnoresCase (codec : LabelCodec) : Prop :=
  ∀ left right, left.map Char.toLower = right.map Char.toLower ->
    codec.strict left = codec.strict right

/-! ## Letters -/

def SameLetters (left right : List Char) : Prop :=
  left.map Char.toLower = right.map Char.toLower

theorem map_eq_map_iff_forall₂ {α β : Type} {change : α -> β} {left right : List α} :
    left.map change = right.map change ↔
      List.Forall₂ (fun a b => change a = change b) left right := by
  rw [← List.forall₂_eq_eq_eq, List.forall₂_map_left_iff, List.forall₂_map_right_iff]

theorem sameLetters_iff {left right : List Char} :
    SameLetters left right ↔ left.map Char.toUpper = right.map Char.toUpper := by
  rw [SameLetters, map_eq_map_iff_forall₂, map_eq_map_iff_forall₂]
  simp only [toLower_eq_iff_toUpper_eq]

theorem LabelCodec.international_strictIgnoresCase :
    LabelCodec.international.StrictIgnoresCase := by
  intro left right same
  have mapped : Idna.Mapping.mapChars left = Idna.Mapping.mapChars right := by
    rw [← Idna.Mapping.mapChars_map_toUpper left, sameLetters_iff.mp same,
      Idna.Mapping.mapChars_map_toUpper]
  show Idna.toAscii .full left = Idna.toAscii .full right
  unfold Idna.toAscii Idna.convert Idna.Mapping.normalized
  rw [mapped]

section Letters

variable {left right : List Char}

theorem isAscii_map_toLower (text : List Char) :
    Idna.isAscii (text.map Char.toLower) = Idna.isAscii text := by
  rw [Idna.isAscii, List.all_map]
  refine congrArg text.all (funext fun c => ?_)
  apply toLower_rel (R := fun c d => decide (c.toNat < 128) = decide (d.toNat < 128))
  · exact fun _ => rfl
  · decide

/-- A mark that is no letter is found where it was before. -/
theorem map_toLower_eq_some_iff {mark : Char} (noLetter : mark = '-' ∨ mark = '.')
    (found : Option Char) : found.map Char.toLower = some mark ↔ found = some mark := by
  have kept (c : Char) : c.toLower = mark ↔ c = mark := by
    apply toLower_rel (R := fun c d => c = mark ↔ d = mark) (fun _ => Iff.rfl)
    rcases noLetter with rfl | rfl <;> decide
  cases found <;> simp [kept]

theorem isPlainLabel_map_toLower (label : List Char) :
    Idna.IsPlainLabel (label.map Char.toLower) ↔ Idna.IsPlainLabel label := by
  have letters (c : Char) : Idna.IsPlain c.toLower ↔ Idna.IsPlain c :=
    toLower_rel (R := fun c d => Idna.IsPlain c ↔ Idna.IsPlain d) (fun _ => Iff.rfl) (by decide) c
  have ends (found : Option Char) : found.map Char.toLower = some '-' ↔ found = some '-' :=
    map_toLower_eq_some_iff (Or.inl rfl) found
  simp only [Idna.isPlainLabel_iff, ne_eq, List.map_eq_nil_iff, List.forall_mem_map, letters,
    List.head?_map, List.getLast?_map, ends]

namespace SameLetters

theorem length_eq (same : SameLetters left right) : left.length = right.length := by
  simpa using congrArg List.length same

theorem ne_nil (same : SameLetters left right) (filled : left ≠ []) : right ≠ [] := by
  rintro rfl
  exact filled (List.map_eq_nil_iff.mp same)

theorem isAscii_eq (same : SameLetters left right) : Idna.isAscii left = Idna.isAscii right := by
  rw [← isAscii_map_toLower left, same, isAscii_map_toLower]

theorem isPlainLabel (same : SameLetters left right) (plain : Idna.IsPlainLabel left) :
    Idna.IsPlainLabel right := by
  rwa [← isPlainLabel_map_toLower, ← same, isPlainLabel_map_toLower]

theorem getLast?_eq_dot_iff (same : SameLetters left right) :
    left.getLast? = some '.' ↔ right.getLast? = some '.' := by
  rw [← map_toLower_eq_some_iff (Or.inr rfl), ← List.getLast?_map, same, List.getLast?_map,
    map_toLower_eq_some_iff (Or.inr rfl)]

theorem joinLabels {labels others : List (List Char)}
    (same : List.Forall₂ SameLetters labels others) :
    SameLetters (joinLabels labels) (joinLabels others) := by
  rw [SameLetters, joinLabels_map _ rfl, joinLabels_map _ rfl, map_eq_map_iff_forall₂.mpr same]

end SameLetters

end Letters

/-! ## Labels -/

theorem isSeparator_spelled (c : Char) :
    isSeparator (if separators.contains c then '.' else c.toLower) = isSeparator c := by
  rw [isSeparator_eq]
  split
  · next cut => rw [cut]; rfl
  · exact toLower_rel (R := fun c d => separators.contains c = separators.contains d)
      (fun _ => rfl) (by decide) c

theorem labelsOf_spelling (name : List Char) :
    labelsOf (spelling name) = (labelsOf name).map (List.map Char.toLower) := by
  rw [labelsOf, spelling, splitAtEach_map isSeparator_spelled]
  refine List.map_congr_left fun label member => List.map_congr_left fun c within => ?_
  have kept : isSeparator c = false := (mem_of_mem_splitAtEach member c within).2
  rw [isSeparator_eq] at kept
  exact if_neg (Bool.eq_false_iff.mp kept)

/-- Spellings of a name have the same labels up to the case of letters. -/
theorem sameLetters_labelsOf {left right : List Char} (spelled : spelling left = spelling right) :
    List.Forall₂ SameLetters (labelsOf left) (labelsOf right) := by
  have labels := congrArg labelsOf spelled
  rw [labelsOf_spelling, labelsOf_spelling] at labels
  exact map_eq_map_iff_forall₂.mp labels

section Hosts

variable {codec : LabelCodec} {left right form : List Char} {labels others forms : List (List Char)}
  {one other : HostName}

theorem Accepts.of_sameLetters (ignores : codec.StrictIgnoresCase)
    (accepts : Accepts codec left form) (same : SameLetters left right) :
    ∃ form', Accepts codec right form' ∧ SameLetters form form' := by
  cases accepts with
  | asWritten ascii plain short =>
      rw [same.isAscii_eq] at ascii
      rw [same.length_eq] at short
      exact ⟨right, .asWritten ascii (same.isPlainLabel plain) short, same⟩
  | converted notAscii converts short =>
      rw [same.isAscii_eq] at notAscii
      rw [ignores left right same] at converts
      exact ⟨form, .converted notAscii converts short, rfl⟩

theorem forms_of_sameLetters (ignores : codec.StrictIgnoresCase)
    (accepts : List.Forall₂ (Accepts codec) labels forms)
    (same : List.Forall₂ SameLetters labels others) :
    ∃ forms', List.Forall₂ (Accepts codec) others forms' ∧
      List.Forall₂ SameLetters forms forms' := by
  induction accepts generalizing others with
  | nil =>
      cases same
      exact ⟨[], .nil, .nil⟩
  | cons first _ ih =>
      cases same with
      | cons same others =>
          rcases first.of_sameLetters ignores same with ⟨form', first', alike⟩
          rcases ih others with ⟨forms', rest', others_alike⟩
          exact ⟨form' :: forms', .cons first' rest', .cons alike others_alike⟩

/-- If a text is a host name, so is any other spelling of it. -/
theorem ofText_of_spelling (ignores : codec.StrictIgnoresCase)
    (spelled : spelling left = spelling right) (made : HostName.ofText codec left = .ok one) :
    ∃ other, HostName.ofText codec right = .ok other ∧ SameLetters one.ascii other.ascii := by
  rcases toAscii_bind_ofAscii_iff.mp made with ⟨forms, converts, filled, open', rfl⟩
  have accepts : List.Forall₂ (Accepts codec) (labelsOf left) forms :=
    converts.imp fun _ _ => converts_iff_accepts.mp
  rcases forms_of_sameLetters ignores accepts (sameLetters_labelsOf spelled) with
    ⟨forms', accepts', alike⟩
  have joined : SameLetters (joinLabels forms) (joinLabels forms') := .joinLabels alike
  refine ⟨_, toAscii_bind_ofAscii_iff.mpr ⟨forms', ?_, joined.ne_nil filled, ?_, rfl⟩, joined⟩
  · exact accepts'.imp fun _ _ => converts_iff_accepts.mpr
  · exact mt joined.getLast?_eq_dot_iff.mpr open'

theorem ofText_iff_of_spelling (ignores : codec.StrictIgnoresCase)
    (spelled : spelling left = spelling right) :
    (∃ host, HostName.ofText codec left = .ok host) ↔
      ∃ host, HostName.ofText codec right = .ok host := by
  constructor
  · rintro ⟨one, made⟩
    rcases ofText_of_spelling ignores spelled made with ⟨other, made', -⟩
    exact ⟨other, made'⟩
  · rintro ⟨other, made⟩
    rcases ofText_of_spelling ignores spelled.symm made with ⟨one, made', -⟩
    exact ⟨one, made'⟩

/-- Host names are compared by their ASCII forms, without regard to the case of letters. -/
theorem HostName.beq_iff_sameLetters : (one == other) = true ↔ SameLetters one.ascii other.ascii :=
  (beq_iff_key one other).trans sameLetters_iff.symm

theorem beq_of_spelling (ignores : codec.StrictIgnoresCase)
    (spelled : spelling left = spelling right) (made : HostName.ofText codec left = .ok one)
    (made' : HostName.ofText codec right = .ok other) : (one == other) = true := by
  rcases ofText_of_spelling ignores spelled made with ⟨found, foundMade, alike⟩
  cases made'.symm.trans foundMade
  exact HostName.beq_iff_sameLetters.mpr alike

end Hosts

end SecureSockets.Sni
