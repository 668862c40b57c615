import SecureSockets.Proofs.Idna.Ascii
import SecureSockets.Proofs.Sni.Labels

namespace SecureSockets.Sni

open Text

/-!
# Well-formed host names

The ASCII form of a host name is promised to consist of labels that have between 1 and 63
characters.  Names typed by a user keep the promise.  Names received from a peer are
checked for empty labels before the conversion, and a conversion that checks little may
leave nothing of a label, or may put a full stop into it.  Nothing else can go wrong with
them, so the promise is kept exactly if every converted label keeps it by itself.
-/

/-- A proper label of an ASCII form. -/
structure IsLabel (label : List Char) : Prop where
  filled : label ≠ []
  short : label.length ≤ labelLimit
  ascii : Idna.isAscii label = true
  dotFree : '.' ∉ label

/-- The text consists of proper labels.  No label follows a full stop at the end, so that
a text with one is not well formed. -/
def WellFormed (ascii : List Char) : Prop :=
  ∃ labels, labels ≠ [] ∧ (∀ label ∈ labels, IsLabel label) ∧ ascii = joinLabels labels

/-! ## Texts and their parts -/

theorem splitAtEach_of_dotFree {text : List Char} (dotFree : '.' ∉ text) :
    splitAtEach (· == '.') text = [text] :=
  splitAtEach_of_free fun _ member =>
    beq_eq_false_iff_ne.mpr fun dot => dotFree (dot ▸ member)

/-- Whether a text is well formed can be told from its parts. -/
theorem wellFormed_iff {ascii : List Char} :
    WellFormed ascii ↔ ∀ part ∈ splitAtEach (· == '.') ascii, IsLabel part := by
  constructor
  · rintro ⟨labels, some, proper, rfl⟩ part member
    rw [splitAtEach_joinLabels rfl some] at member
    rcases List.mem_flatMap.mp member with ⟨label, within, inside⟩
    rw [splitAtEach_of_dotFree (proper label within).dotFree] at inside
    exact List.mem_singleton.mp inside ▸ proper label within
  · intro proper
    refine ⟨splitAtEach (· == '.') ascii, ?_, proper, (joinLabels_splitAtEach ascii).symm⟩
    rw [splitAtEach_eq]
    exact List.splitOnP_ne_nil _ ascii

theorem IsLabel.wellFormed {label : List Char} (proper : IsLabel label) : WellFormed label :=
  ⟨[label], List.cons_ne_nil _ _, by simpa using proper, (joinLabels_singleton label).symm⟩

/-- A joined text is well formed exactly if everything that was joined is. -/
theorem wellFormed_joinLabels_iff {labels : List (List Char)} (some : labels ≠ []) :
    WellFormed (joinLabels labels) ↔ ∀ label ∈ labels, WellFormed label := by
  have parts : splitAtEach (· == '.') (joinLabels labels) = _ := splitAtEach_joinLabels rfl some
  simp only [wellFormed_iff, parts, List.mem_flatMap]
  constructor
  · exact fun proper label within part inside => proper part ⟨label, within, inside⟩
  · rintro proper part ⟨label, within, inside⟩
    exact proper label within part inside

theorem length_le_joinLabels {label : List Char} {labels : List (List Char)}
    (member : label ∈ labels) : label.length ≤ (joinLabels labels).length := by
  induction labels with
  | nil => cases member
  | cons first rest ih =>
      cases rest with
      | nil => exact Nat.le_of_eq (by rw [List.mem_singleton.mp member, joinLabels_singleton])
      | cons next rest =>
          rw [joinLabels_cons (List.cons_ne_nil _ _), List.length_append, List.length_cons]
          rcases List.mem_cons.mp member with rfl | later
          · exact Nat.le_add_right ..
          · have rest := ih later
            omega

theorem length_part_le {text part : List Char} (member : part ∈ splitAtEach (· == '.') text) :
    part.length ≤ text.length := by
  have length := length_le_joinLabels member
  rwa [joinLabels_splitAtEach] at length

theorem isAscii_joinLabels {labels : List (List Char)}
    (ascii : ∀ label ∈ labels, Idna.isAscii label = true) :
    Idna.isAscii (joinLabels labels) = true := by
  induction labels with
  | nil => rfl
  | cons first rest ih =>
      cases rest with
      | nil => simpa using ascii
      | cons next rest =>
          have parts := List.forall_mem_cons.mp ascii
          rw [joinLabels_cons (List.cons_ne_nil _ _), Idna.isAscii, List.all_append,
            List.all_cons, Bool.and_eq_true, Bool.and_eq_true]
          exact ⟨parts.1, rfl, ih parts.2⟩

theorem WellFormed.isAscii {ascii : List Char} (wellFormed : WellFormed ascii) :
    Idna.isAscii ascii = true := by
  rcases wellFormed with ⟨labels, -, proper, rfl⟩
  exact isAscii_joinLabels fun label member => (proper label member).ascii

/-- A well-formed text is accepted as the ASCII form of a host name. -/
theorem WellFormed.ofAscii {ascii : List Char} (wellFormed : WellFormed ascii)
    (encoded : List UInt8) : HostName.ofAscii ascii encoded = .ok ⟨ascii, encoded⟩ := by
  have parts := wellFormed_iff.mp wellFormed
  refine ofAscii_eq_ok_iff.mpr ⟨?_, ?_, rfl⟩
  · rintro rfl
    exact (parts [] List.mem_cons_self).filled rfl
  · intro closed
    rcases List.getLast?_eq_some_iff.mp closed with ⟨front, rfl⟩
    have cut : splitAtEach (· == '.') (front ++ ['.']) = splitAtEach (· == '.') front ++ [[]] := by
      simp only [splitAtEach_eq]
      exact List.splitOnP_append_cons _ _ rfl
    rw [cut] at parts
    exact (parts [] (List.mem_append_right _ List.mem_cons_self)).filled rfl

/-! ## Conversions -/

/-- What host names rely on.  Of labels received from a peer only the alphabet is asked
for, as the conversion for them may leave nothing of a label. -/
structure LabelCodec.Lawful (codec : LabelCodec) : Prop where
  strict_isLabel : ∀ label ascii, codec.strict label = some ascii -> IsLabel ascii
  lenient_isAscii : ∀ label ascii, codec.lenient label = some ascii -> Idna.isAscii ascii = true

theorem LabelCodec.international_lawful : LabelCodec.international.Lawful where
  strict_isLabel := by
    intro label ascii converted
    have length := Idna.length_of_toAscii_full converted
    exact ⟨length.1, length.2, Idna.toAscii_isAscii converted,
      Idna.dot_notMem_of_toAscii_full converted⟩
  lenient_isAscii := fun _ _ converted => Idna.toAscii_isAscii converted

section Conversion

variable {codec : LabelCodec} {rules : HostNameRules} {name label ascii : List Char}

theorem dot_notMem_of_mem_labelsOf (member : label ∈ labelsOf name) : '.' ∉ label := by
  intro dot
  have kept := (mem_of_mem_splitAtEach member '.' dot).2
  exact absurd kept (by decide)

/-- A label that is ASCII already becomes a proper label. -/
theorem Converts.isLabel (converts : Converts codec rules name label ascii)
    (member : label ∈ labelsOf name) (isAscii : Idna.isAscii label = true) : IsLabel ascii := by
  rcases convertLabel_eq_ok_iff.mp converts.2 with ⟨short, ⟨-, -, rfl⟩ | ⟨notAscii, -⟩⟩
  · exact ⟨converts.1, short, isAscii, dot_notMem_of_mem_labelsOf member⟩
  · rw [isAscii] at notAscii
    cases notAscii

theorem Converts.isLabel_of_strict (lawful : codec.Lawful)
    (converts : Converts codec .strict name label ascii) (member : label ∈ labelsOf name) :
    IsLabel ascii := by
  rcases convertLabel_eq_ok_iff.mp converts.2 with ⟨-, ⟨isAscii, -⟩ | ⟨-, converted⟩⟩
  · exact converts.isLabel member isAscii
  · exact lawful.strict_isLabel label ascii converted

theorem Converts.isAscii (lawful : codec.Lawful)
    (converts : Converts codec rules name label ascii) : Idna.isAscii ascii = true := by
  rcases convertLabel_eq_ok_iff.mp converts.2 with ⟨-, ⟨isAscii, -, rfl⟩ | ⟨-, converted⟩⟩
  · exact isAscii
  · cases rules with
    | strict => exact (lawful.strict_isLabel label ascii converted).ascii
    | lenient => exact lawful.lenient_isAscii label ascii converted

end Conversion

/-! ## Host names -/

structure Plain (ascii : List Char) : Prop where
  filled : ascii ≠ []
  isAscii : Idna.isAscii ascii = true
  short : ∀ part ∈ splitAtEach (· == '.') ascii, part.length ≤ labelLimit

/-- What holds of the ASCII form of a name received from a peer. -/
structure Received (codec : LabelCodec) (name ascii : List Char) : Prop where
  plain : Plain ascii
  /-- The form is well formed exactly if each label that had to be converted has become a
  well-formed text. -/
  wellFormed_iff : WellFormed ascii ↔
    ∀ label ∈ labelsOf name, Idna.isAscii label = false ->
      ∀ text, codec.lenient label = some text -> WellFormed text
  /-- If a conversion never gives a full stop, the only thing that can go wrong is that it
  leaves nothing of a label. -/
  wellFormed_iff_of_dotFree :
    (∀ label text, codec.lenient label = some text -> '.' ∉ text) ->
      (WellFormed ascii ↔
        ∀ label ∈ labelsOf name, Idna.isAscii label = false -> codec.lenient label ≠ some [])

theorem exists_mem_of_forall₂ {α β : Type} {R : α -> β -> Prop} {left : List α} {right : List β}
    (all : List.Forall₂ R left right) {b : β} (member : b ∈ right) : ∃ a ∈ left, R a b := by
  rcases List.mem_iff_get.mp member with ⟨place, rfl⟩
  have inLeft : place.val < left.length := Nat.lt_of_lt_of_eq place.isLt all.length_eq.symm
  exact ⟨left.get ⟨place, inLeft⟩, List.get_mem .., all.get inLeft place.isLt⟩

section HostNames

variable {codec : LabelCodec} {rules : HostNameRules} {name : List Char}
  {converted : List (List Char)}

theorem converted_ne_nil {R : List Char -> List Char -> Prop}
    (all : List.Forall₂ R (labelsOf name) converted) : converted ≠ [] := by
  intro none
  rw [none] at all
  exact labelsOf_ne_nil name (List.forall₂_nil_right_iff.mp all)

/-- A text that is joined of proper labels, one for each label of a name. -/
theorem wellFormed_of_forall₂ {R : List Char -> List Char -> Prop}
    (all : List.Forall₂ R (labelsOf name) converted)
    (proper : ∀ label ∈ labelsOf name, ∀ ascii, R label ascii -> IsLabel ascii) :
    WellFormed (joinLabels converted) := by
  refine ⟨converted, converted_ne_nil all, ?_, rfl⟩
  intro ascii member
  rcases exists_mem_of_forall₂ all member with ⟨label, within, becomes⟩
  exact proper label within ascii becomes

theorem plain_of_converts (lawful : codec.Lawful)
    (converts : List.Forall₂ (Converts codec rules name) (labelsOf name) converted)
    (filled : joinLabels converted ≠ []) : Plain (joinLabels converted) where
  filled := filled
  isAscii := by
    apply isAscii_joinLabels
    intro ascii member
    rcases exists_mem_of_forall₂ converts member with ⟨label, -, becomes⟩
    exact becomes.isAscii lawful
  short := by
    intro part member
    rw [splitAtEach_joinLabels rfl (converted_ne_nil converts)] at member
    rcases List.mem_flatMap.mp member with ⟨ascii, within, inside⟩
    rcases exists_mem_of_forall₂ converts within with ⟨label, -, becomes⟩
    exact Nat.le_trans (length_part_le inside) (convertLabel_eq_ok_iff.mp becomes.2).1

theorem wellFormed_of_strict (lawful : codec.Lawful)
    (converts : List.Forall₂ (Converts codec .strict name) (labelsOf name) converted) :
    WellFormed (joinLabels converted) :=
  wellFormed_of_forall₂ converts fun _ within _ becomes => becomes.isLabel_of_strict lawful within

theorem wellFormed_iff_of_lenient
    (converts : List.Forall₂ (Converts codec .lenient name) (labelsOf name) converted) :
    WellFormed (joinLabels converted) ↔
      ∀ label ∈ labelsOf name, Idna.isAscii label = false ->
        ∀ ascii, codec.lenient label = some ascii -> WellFormed ascii := by
  rw [wellFormed_joinLabels_iff (converted_ne_nil converts)]
  constructor
  · intro proper label member notAscii ascii becomes
    rcases exists_mem_of_forall₂ converts.flip member with ⟨ascii', within, becomes'⟩
    rcases convertLabel_eq_ok_iff.mp becomes'.2 with ⟨-, ⟨isAscii, -⟩ | ⟨-, same⟩⟩
    · rw [notAscii] at isAscii
      cases isAscii
    · cases becomes.symm.trans same
      exact proper ascii within
  · intro proper ascii within
    rcases exists_mem_of_forall₂ converts within with ⟨label, member, becomes⟩
    rcases convertLabel_eq_ok_iff.mp becomes.2 with ⟨-, ⟨isAscii, -⟩ | ⟨notAscii, same⟩⟩
    · exact (becomes.isLabel member isAscii).wellFormed
    · exact proper label member notAscii ascii same

theorem wellFormed_iff_of_dotFree (lawful : codec.Lawful)
    (dotFree : ∀ label ascii, codec.lenient label = some ascii -> '.' ∉ ascii)
    (converts : List.Forall₂ (Converts codec .lenient name) (labelsOf name) converted) :
    WellFormed (joinLabels converted) ↔
      ∀ label ∈ labelsOf name, Idna.isAscii label = false -> codec.lenient label ≠ some [] := by
  rw [wellFormed_iff_of_lenient converts]
  constructor
  · intro proper label member notAscii vanishes
    have parts := wellFormed_iff.mp (proper label member notAscii [] vanishes)
    exact (parts [] List.mem_cons_self).filled rfl
  · intro left label member notAscii ascii becomes
    have filled : ascii ≠ [] := fun none => left label member notAscii (none ▸ becomes)
    have short : ascii.length ≤ labelLimit := by
      rcases exists_mem_of_forall₂ converts.flip member with ⟨ascii', -, becomes'⟩
      rcases convertLabel_eq_ok_iff.mp becomes'.2 with ⟨short, ⟨isAscii, -⟩ | ⟨-, same⟩⟩
      · rw [notAscii] at isAscii
        cases isAscii
      · cases becomes.symm.trans same
        exact short
    have proper : IsLabel ascii :=
      ⟨filled, short, lawful.lenient_isAscii label ascii becomes, dotFree label ascii becomes⟩
    exact proper.wellFormed

end HostNames

/-- Host names of texts are well formed.  A host name of bytes may fail to be, but only
because of what a conversion has made of one of its labels. -/
theorem HostName.wellFormed_of_lawful {codec : LabelCodec} (lawful : codec.Lawful) :
    (∀ name host, ofText codec name = .ok host -> WellFormed host.ascii) ∧
      ∀ bytes host, ofBytes codec bytes = .ok host ->
        ∃ name, Utf8.decode bytes = .ok name ∧ Received codec name host.ascii := by
  constructor
  · intro name host made
    rcases toAscii_bind_ofAscii_iff.mp made with ⟨converted, converts, -, -, rfl⟩
    exact wellFormed_of_strict lawful converts
  · intro bytes host made
    unfold ofBytes at made
    cases decoded : Utf8.decode bytes with
    | error fault =>
        rw [decoded] at made
        cases made
    | ok name =>
        rw [decoded] at made
        have made : ((toAscii codec .lenient name).bind fun ascii => ofAscii ascii bytes) =
            .ok host := made
        rcases toAscii_bind_ofAscii_iff.mp made with ⟨converted, converts, filled, -, rfl⟩
        exact ⟨name, rfl, plain_of_converts lawful converts filled,
          wellFormed_iff_of_lenient converts,
          fun dotFree => wellFormed_iff_of_dotFree lawful dotFree converts⟩

/-- A full-width letter becomes a plain one, and a soft hyphen disappears. -/
theorem wellFormed_full_width_soft_hyphen :
    (HostName.ofText .international ['\uFF41', '.', 'b'] = .ok ⟨['a', '.', 'b'], [97, 46, 98]⟩ ∧
      WellFormed ['a', '.', 'b']) ∧
    HostName.ofBytes .international [97, 194, 173, 46, 98] =
        .ok ⟨['a', '.', 'b'], [97, 194, 173, 46, 98]⟩ ∧
      ∃ name, Utf8.decode [97, 194, 173, 46, 98] = .ok name ∧
        Received .international name ['a', '.', 'b'] := by
  have holds := HostName.wellFormed_of_lawful LabelCodec.international_lawful
  have typed : HostName.ofText .international ['\uFF41', '.', 'b'] =
      .ok ⟨['a', '.', 'b'], [97, 46, 98]⟩ := rfl
  have received : HostName.ofBytes .international [97, 194, 173, 46, 98] =
      .ok ⟨['a', '.', 'b'], [97, 194, 173, 46, 98]⟩ := rfl
  exact ⟨⟨typed, holds.1 _ _ typed⟩, received, holds.2 _ _ received⟩

/-- A label of a single soft hyphen disappears altogether, and leaves an empty label. -/
theorem ofBytes_emptied_label :
    HostName.ofBytes .international [97, 46, 194, 173, 46, 98] =
        .ok ⟨['a', '.', '.', 'b'], [97, 46, 194, 173, 46, 98]⟩ ∧
      ¬WellFormed ['a', '.', '.', 'b'] := by
  refine ⟨rfl, fun wellFormed => ?_⟩
  have parts := wellFormed_iff.mp wellFormed
  exact (parts [] (by decide)).filled rfl

end SecureSockets.Sni
