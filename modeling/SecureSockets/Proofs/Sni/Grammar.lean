import SecureSockets.Proofs.Sni.WellFormed
import SecureSockets.Proofs.Text.Utf8

namespace SecureSockets.Sni

open Text

/-!
# Names typed by a user

Which texts are host names, which host name a text is, and what is said of a text that is
none.  The labels of a text stand between full stops, ideographic or not.  A label that is
ASCII stays as it is written and must consist of letters, digits and hyphens; any other label
is converted.  A text is a host name exactly if all its labels are accepted, however many
there are, and otherwise the first label that is not accepted decides what is reported.

A missing label at the end is reported last of all, since it is looked for in the joined text
and not among the labels.
-/

/-! ## The grammar -/

/-- The characters that part labels: the full stop, and the ideographic ones. -/
def separators : List Char := ['.', '\u3002', '\uFF0E', '\uFF61']

def writtenLabels (name : List Char) : List (List Char) :=
  name.splitOnP separators.contains

/-- A label is accepted, and what it becomes. -/
inductive Accepts (codec : LabelCodec) : List Char -> List Char -> Prop where
  | asWritten {label : List Char} (ascii : Idna.isAscii label = true)
      (plain : Idna.IsPlainLabel label) (short : label.length ≤ 63) : Accepts codec label label
  | converted {label form : List Char} (notAscii : Idna.isAscii label = false)
      (converts : codec.strict label = some form) (short : form.length ≤ 63) :
      Accepts codec label form

/-- What is reported of a label that is not accepted.  `forms` is what the labels before
it have become, and `after` are the labels behind it. -/
inductive Blames (codec : LabelCodec) (name : List Char) (forms : List (List Char)) :
    List Char -> List (List Char) -> HostNameFault -> Prop where
  | missingInside {after : List (List Char)} (more : after ≠ []) :
      Blames codec name forms [] after (.emptyLabel name)
  | missingAlone (alone : forms = []) : Blames codec name forms [] [] .emptyName
  | missingLast (some : forms ≠ []) :
      Blames codec name forms [] [] (.trailingDot (joinLabels forms ++ ['.']))
  | forbiddenCharacter {label : List Char} {after : List (List Char)}
      (ascii : Idna.isAscii label = true) (forbidden : ∃ c ∈ label, ¬Idna.IsPlain c) :
      Blames codec name forms label after (.forbiddenCharacter label name)
  | hyphenAtEnd {label : List Char} {after : List (List Char)}
      (ascii : Idna.isAscii label = true) (letters : ∀ c ∈ label, Idna.IsPlain c)
      (hyphen : label.head? = some '-' ∨ label.getLast? = some '-') :
      Blames codec name forms label after (.hyphenAtEnd label name)
  | writtenTooLong {label : List Char} {after : List (List Char)}
      (ascii : Idna.isAscii label = true) (plain : Idna.IsPlainLabel label)
      (long : 63 < label.length) : Blames codec name forms label after (.labelTooLong label name)
  | notConvertible {label : List Char} {after : List (List Char)}
      (notAscii : Idna.isAscii label = false) (fails : codec.strict label = none) :
      Blames codec name forms label after (.notConvertible label name)
  | convertedTooLong {label form : List Char} {after : List (List Char)}
      (notAscii : Idna.isAscii label = false) (converts : codec.strict label = some form)
      (long : 63 < form.length) : Blames codec name forms label after (.labelTooLong label name)

/-- What a conversion for names typed by a user is relied on to give.  The labels of a
name could not be told from each other otherwise, once they have been joined. -/
structure LabelCodec.Regular (codec : LabelCodec) : Prop where
  filled : ∀ label form, codec.strict label = some form -> form ≠ []
  isAscii : ∀ label form, codec.strict label = some form -> Idna.isAscii form = true
  dotFree : ∀ label form, codec.strict label = some form -> '.' ∉ form

theorem LabelCodec.Lawful.regular {codec : LabelCodec} (lawful : codec.Lawful) :
    codec.Regular where
  filled := fun label form converts => (lawful.strict_isLabel label form converts).filled
  isAscii := fun label form converts => (lawful.strict_isLabel label form converts).ascii
  dotFree := fun label form converts => (lawful.strict_isLabel label form converts).dotFree

/-! ## Labels -/

theorem isSeparator_eq : isSeparator = separators.contains := by
  funext c
  simp only [isSeparator, separators, List.contains_cons, List.contains_nil, Bool.or_false,
    Bool.or_assoc]

theorem labelsOf_eq (name : List Char) : labelsOf name = writtenLabels name := by
  rw [labelsOf, splitAtEach_eq, isSeparator_eq, writtenLabels]

theorem isLetterDigitHyphen_iff {c : Char} :
    isLetterDigitHyphen c = true ↔ Idna.IsPlain c := by
  rw [isLetterDigitHyphen, Bool.or_eq_true, beq_iff_eq, Idna.IsPlain]

section Labels

variable {codec : LabelCodec} {name label form : List Char}

theorem all_isLetterDigitHyphen_iff :
    label.all isLetterDigitHyphen = true ↔ ∀ c ∈ label, Idna.IsPlain c := by
  simp only [List.all_eq_true, isLetterDigitHyphen_iff]

theorem checkAsciiLabel_ok_iff (filled : label ≠ []) :
    checkAsciiLabel .strict name label = .ok () ↔ Idna.IsPlainLabel label := by
  unfold checkAsciiLabel
  constructor
  · intro passed
    simp only at passed
    split at passed
    · cases passed
    · next letters =>
        split at passed
        · cases passed
        · next ends =>
            simp only [Bool.or_eq_true, beq_iff_eq, not_or] at ends
            exact ⟨filled, all_isLetterDigitHyphen_iff.mp (by simpa using letters), ends.1, ends.2⟩
  · intro plain
    simp [all_isLetterDigitHyphen_iff.mpr plain.letters, plain.noHyphenFirst, plain.noHyphenLast]

theorem converts_iff_accepts :
    Converts codec .strict name label form ↔ Accepts codec label form := by
  rw [Converts, convertLabel_eq_ok_iff]
  constructor
  · rintro ⟨filled, short, ⟨ascii, checked, rfl⟩ | ⟨notAscii, converts⟩⟩
    · exact .asWritten ascii ((checkAsciiLabel_ok_iff filled).mp checked) short
    · exact .converted notAscii converts short
  · intro accepts
    cases accepts with
    | asWritten ascii plain short =>
        have checked : checkAsciiLabel .strict name label = .ok () :=
          (checkAsciiLabel_ok_iff plain.filled).mpr plain
        exact ⟨plain.filled, short, Or.inl ⟨ascii, checked, rfl⟩⟩
    | converted notAscii converts short =>
        refine ⟨?_, short, Or.inr ⟨notAscii, converts⟩⟩
        rintro rfl
        cases notAscii

theorem Accepts.isLabel (regular : codec.Regular) (accepts : Accepts codec label form) :
    IsLabel form := by
  cases accepts with
  | asWritten ascii plain short =>
      exact ⟨plain.filled, short, ascii, fun dot => absurd (plain.letters '.' dot) (by decide)⟩
  | converted notAscii converts short =>
      exact ⟨regular.filled label form converts, short, regular.isAscii label form converts,
        regular.dotFree label form converts⟩

theorem convertLabel_of_ascii {rules : HostNameRules} (ascii : Idna.isAscii label = true) :
    convertLabel codec rules name label =
      (checkAsciiLabel rules name label).bind fun _ =>
        if labelLimit < label.length then .error (.labelTooLong label name) else .ok label := by
  unfold convertLabel
  rw [if_pos ascii]
  cases checkAsciiLabel rules name label <;> rfl

/-- What is reported of a label that is there but is not accepted. -/
theorem exists_blame (filled : label ≠ []) (refused : ∀ form, ¬Accepts codec label form)
    (forms after : List (List Char)) :
    ∃ fault, convertLabel codec .strict name label = .error fault ∧
      Blames codec name forms label after fault := by
  cases ascii : Idna.isAscii label with
  | true =>
      rw [convertLabel_of_ascii ascii]
      by_cases plain : Idna.IsPlainLabel label
      · have long : 63 < label.length :=
          Nat.lt_of_not_le fun short => refused label (.asWritten ascii plain short)
        rw [(checkAsciiLabel_ok_iff filled).mpr plain]
        exact ⟨_, if_pos long, .writtenTooLong ascii plain long⟩
      · by_cases letters : ∀ c ∈ label, Idna.IsPlain c
        · have hyphen : label.head? = some '-' ∨ label.getLast? = some '-' := by
            by_contra ends
            rw [not_or] at ends
            exact plain ⟨filled, letters, ends.1, ends.2⟩
          refine ⟨_, ?_, .hyphenAtEnd ascii letters hyphen⟩
          have ends : (label.head? == some '-' || label.getLast? == some '-') = true := by
            simpa using hyphen
          simp [checkAsciiLabel, all_isLetterDigitHyphen_iff.mpr letters, ends, Except.bind]
        · refine ⟨_, ?_, .forbiddenCharacter ascii (by simpa using letters)⟩
          have notAll : ¬label.all isLetterDigitHyphen = true :=
            mt all_isLetterDigitHyphen_iff.mp letters
          simp [checkAsciiLabel, notAll, Except.bind]
  | false =>
      cases converts : codec.strict label with
      | none =>
          refine ⟨_, ?_, .notConvertible ascii converts⟩
          simp [convertLabel, ascii, HostNameRules.convert, converts, Except.bind]
      | some form =>
          have long : 63 < form.length :=
            Nat.lt_of_not_le fun short => refused form (.converted ascii converts short)
          refine ⟨_, ?_, .convertedTooLong ascii converts long⟩
          simp [convertLabel, ascii, HostNameRules.convert, converts, Except.bind, labelLimit, long]

end Labels

/-! ## Names -/

/-- Either all elements are related to something, or there is a first one that is not. -/
theorem forall₂_or_first {α β : Type} (R : α -> β -> Prop) (elements : List α) :
    (∃ images, List.Forall₂ R elements images) ∨
      ∃ before images element after, elements = before ++ element :: after ∧
        List.Forall₂ R before images ∧ ∀ image, ¬R element image := by
  induction elements with
  | nil => exact Or.inl ⟨[], .nil⟩
  | cons first rest ih =>
      by_cases related : ∃ image, R first image
      · rcases related with ⟨image, related⟩
        rcases ih with ⟨images, all⟩ | ⟨before, images, element, after, rfl, all, none⟩
        · exact Or.inl ⟨image :: images, .cons related all⟩
        · exact Or.inr ⟨first :: before, image :: images, element, after, rfl,
            .cons related all, none⟩
      · exact Or.inr ⟨[], [], first, rest, rfl, .nil, not_exists.mp related⟩

section Names

variable {codec : LabelCodec} {name : List Char} {forms : List (List Char)}

theorem wellFormed_of_accepts (regular : codec.Regular)
    (accepts : List.Forall₂ (Accepts codec) (labelsOf name) forms) :
    WellFormed (joinLabels forms) :=
  wellFormed_of_forall₂ accepts fun _ _ _ becomes => becomes.isLabel regular

/-- A text of which all labels are accepted is a host name, encoded as its ASCII form. -/
theorem ofText_eq_ok_iff (regular : codec.Regular) {host : HostName} :
    HostName.ofText codec name = .ok host ↔
      ∃ forms, List.Forall₂ (Accepts codec) (labelsOf name) forms ∧
        host = ⟨joinLabels forms, Utf8.encode (joinLabels forms)⟩ := by
  constructor
  · intro made
    rcases toAscii_bind_ofAscii_iff.mp made with ⟨forms, converts, -, -, rfl⟩
    exact ⟨forms, converts.imp fun _ _ => converts_iff_accepts.mp, rfl⟩
  · rintro ⟨forms, accepts, rfl⟩
    have converts : List.Forall₂ (Converts codec .strict name) (labelsOf name) forms :=
      accepts.imp fun _ _ => converts_iff_accepts.mpr
    rw [HostName.ofText, toAscii, convertLabels_of_converts converts]
    exact (wellFormed_of_accepts regular accepts).ofAscii _

theorem ofAscii_closed (front : List Char) (encoded : List UInt8) :
    HostName.ofAscii (front ++ ['.']) encoded = .error (.trailingDot (front ++ ['.'])) := by
  simp [HostName.ofAscii]

/-- The first label that is not accepted decides what is reported. -/
theorem ofText_of_first_refused {before after : List (List Char)} {label : List Char}
    (split : labelsOf name = before ++ label :: after)
    (accepts : List.Forall₂ (Accepts codec) before forms)
    (refused : ∀ form, ¬Accepts codec label form) :
    ∃ fault, HostName.ofText codec name = .error fault ∧
      Blames codec name forms label after fault := by
  have converts : List.Forall₂ (Converts codec .strict name) before forms :=
    accepts.imp fun _ _ => converts_iff_accepts.mpr
  rw [HostName.ofText, toAscii, split, convertLabels_append converts, convertLabels]
  by_cases missing : label = []
  · subst label
    cases after with
    | nil =>
        cases forms with
        | nil => exact ⟨_, rfl, .missingAlone rfl⟩
        | cons first rest =>
            have some : first :: rest ≠ [] := List.cons_ne_nil first rest
            refine ⟨_, ?_, .missingLast some⟩
            show HostName.ofAscii (joinLabels (first :: rest ++ [[]])) _ = _
            rw [joinLabels_closed some, ofAscii_closed]
    | cons next rest => exact ⟨_, rfl, .missingInside (List.cons_ne_nil next rest)⟩
  · rcases exists_blame missing refused forms after with ⟨fault, converts, blames⟩
    refine ⟨fault, ?_, blames⟩
    rw [if_neg (mt List.isEmpty_iff.mp missing), converts]
    rfl

end Names

/-- A text is a host name exactly if all its labels are accepted.  The host name is made of
what the labels become, and is encoded by one byte a character; otherwise an invalid argument
is reported, for the first label that is not accepted. -/
theorem HostName.ofText_follows_grammar {codec : LabelCodec} (regular : codec.Regular)
    (name : List Char) :
    ((∃ host, ofText codec name = .ok host) ↔
        ∀ label ∈ writtenLabels name, ∃ form, Accepts codec label form) ∧
      (∀ host, ofText codec name = .ok host ->
        ∃ forms, List.Forall₂ (Accepts codec) (writtenLabels name) forms ∧
          host.ascii = joinLabels forms ∧
          host.encoded = host.ascii.map fun c => UInt8.ofNat c.toNat) ∧
      ∀ fault, ofText codec name = .error fault ->
        fault.toError.kind = .invalidArgument ∧
        ∃ before forms label after, writtenLabels name = before ++ label :: after ∧
          List.Forall₂ (Accepts codec) before forms ∧ (∀ form, ¬Accepts codec label form) ∧
          Blames codec name forms label after fault := by
  rw [← labelsOf_eq]
  rcases forall₂_or_first (Accepts codec) (labelsOf name) with
    ⟨forms, accepts⟩ | ⟨before, forms, label, after, split, accepts, refused⟩
  · have made := (ofText_eq_ok_iff regular).mpr ⟨forms, accepts, rfl⟩
    have ascii : ∀ c ∈ joinLabels forms, c.toNat < 128 := by
      simpa [Idna.isAscii] using (wellFormed_of_accepts regular accepts).isAscii
    simp only [made]
    refine ⟨⟨fun _ label member => ?_, fun _ => ⟨_, rfl⟩⟩, ?_, ?_⟩
    · rcases exists_mem_of_forall₂ accepts.flip member with ⟨form, -, becomes⟩
      exact ⟨form, becomes⟩
    · rintro host ⟨⟩
      exact ⟨forms, accepts, rfl, Utf8.encode_of_ascii ascii⟩
    · rintro fault ⟨⟩
  · rcases ofText_of_first_refused split accepts refused with ⟨fault, failed, blames⟩
    simp only [failed]
    refine ⟨⟨?_, fun accepted => ?_⟩, ?_, ?_⟩
    · rintro ⟨host, ⟨⟩⟩
    · have member : label ∈ labelsOf name := split ▸ List.mem_append_right _ List.mem_cons_self
      rcases accepted label member with ⟨form, becomes⟩
      exact absurd becomes (refused form)
    · rintro host ⟨⟩
    · rintro _ ⟨⟩
      exact ⟨rfl, before, forms, label, after, split, accepts, refused, blames⟩

theorem accepts_full_width :
    List.Forall₂ (Accepts .international) [['\uFF41'], ['B']] [['a'], ['B']] := by
  have letters : ∀ c ∈ ['B'], Idna.IsPlain c := List.all_iff_forall_prop.mp (by decide)
  have plain : Idna.IsPlainLabel ['B'] := ⟨by decide, letters, by decide, by decide⟩
  exact .cons (.converted rfl (by decide +kernel) (by decide))
    (.cons (.asWritten rfl plain (by decide)) .nil)

theorem ofText_full_width :
    HostName.ofText .international ['\uFF41', '\u3002', 'B'] =
      .ok ⟨['a', '.', 'B'], [97, 46, 66]⟩ :=
  (ofText_eq_ok_iff LabelCodec.international_lawful.regular).mpr ⟨_, accepts_full_width, rfl⟩

/-- A full-width letter is converted and an ideographic full stop parts labels; a lone hyphen
is reported although the label behind it is no better. -/
theorem follows_grammar_full_width :
    LabelCodec.international.Regular ∧
      (∃ forms,
        List.Forall₂ (Accepts .international) (writtenLabels ['\uFF41', '\u3002', 'B']) forms ∧
          ['a', '.', 'B'] = joinLabels forms ∧
          [97, 46, 66] = ['a', '.', 'B'].map fun c => UInt8.ofNat c.toNat) ∧
      ∃ before forms label after,
        writtenLabels ['c', '.', '-', '.', ' '] = before ++ label :: after ∧
          List.Forall₂ (Accepts .international) before forms ∧
          (∀ form, ¬Accepts .international label form) ∧
          Blames .international ['c', '.', '-', '.', ' '] forms label after
            (.hyphenAtEnd ['-'] ['c', '.', '-', '.', ' ']) := by
  have regular := LabelCodec.international_lawful.regular
  have follows := HostName.ofText_follows_grammar regular
  exact ⟨regular, (follows _).2.1 _ ofText_full_width,
    ((follows ['c', '.', '-', '.', ' ']).2.2 _ rfl).2⟩

end SecureSockets.Sni
