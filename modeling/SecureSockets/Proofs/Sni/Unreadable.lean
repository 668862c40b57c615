import SecureSockets.Proofs.Sni.FullMatch
import SecureSockets.Proofs.Sni.Payload

namespace SecureSockets.Sni

open Text

/-!
# Payloads that are no names

The payload of a raw name is read leniently: bytes that are no UTF-8 are replaced, any ASCII
text is accepted as a label, and an empty label may stand at the end.  What remains is refused,
and then no pattern matches, not even one that matches every text.

Bytes that are no UTF-8 are not noticed where they are replaced.  The replacement is a
character of some label, however the bytes lie between separators, and that label is refused
because it cannot be converted.  So the conversion has to be relied on for refusing replacement
characters, and for nothing else.

Conversely each payload that is accepted has an ASCII form, and there is a pattern that matches
it.  The payloads that are never matched are therefore exactly those that are no names.
-/

/-- A conversion of labels received from a peer refuses all labels with a replacement
character. -/
def LabelCodec.RefusesReplacement (codec : LabelCodec) : Prop :=
  ∀ label, Utf8.replacement ∈ label -> codec.lenient label = none

inductive ReceivedAs (codec : LabelCodec) : List Char -> List Char -> Prop where
  | asWritten {label : List Char} (ascii : Idna.isAscii label = true) :
      ReceivedAs codec label label
  | converted {label form : List Char} (notAscii : Idna.isAscii label = false)
      (converts : codec.lenient label = some form) : ReceivedAs codec label form

/-- What is wrong with the labels of a received name.  One flawed label is enough, and
unlike the labels typed by a user the last one may be empty. -/
inductive Flawed (codec : LabelCodec) (labels : List (List Char)) : Prop where
  | missing {before after : List (List Char)} (split : labels = before ++ [] :: after)
      (more : after ≠ [])
  | tooLong {label form : List Char} (member : label ∈ labels)
      (becomes : ReceivedAs codec label form) (long : 63 < form.length)
  | notConvertible {label : List Char} (member : label ∈ labels)
      (notAscii : Idna.isAscii label = false) (fails : codec.lenient label = none)

/-- A payload is no name: it is no text at all, or the labels of the text are flawed. -/
inductive Unreadable (codec : LabelCodec) (payload : List UInt8) : Prop where
  | notUtf8 (foreign : ∀ text, Utf8.encode text ≠ payload)
  | flawed {text : List Char} (reads : Utf8.encode text = payload)
      (flawed : Flawed codec (writtenLabels text))

/-! ## Replacement characters -/

theorem mapChars_of_disallowed {c : Char} {text : List Char} (member : c ∈ text)
    (disallowed : Idna.Mapping.status c = .disallowed) : Idna.Mapping.mapChars text = none := by
  induction text with
  | nil => cases member
  | cons first rest ih =>
      rcases List.mem_cons.mp member with rfl | later
      · rw [Idna.Mapping.mapChars, disallowed]
      · rw [Idna.Mapping.mapChars, ih later]
        cases Idna.Mapping.status first <;> rfl

theorem LabelCodec.international_refusesReplacement :
    LabelCodec.international.RefusesReplacement := by
  intro label member
  have disallowed : Idna.Mapping.status Utf8.replacement = .disallowed := by decide +kernel
  show Idna.toAscii .none label = none
  rw [Idna.toAscii, Idna.convert, Idna.Mapping.normalized,
    mapChars_of_disallowed member disallowed]
  rfl

/-! ## Labels -/

section Labels

variable {codec : LabelCodec} {name label form : List Char} {labels : List (List Char)}

theorem converts_lenient_iff :
    Converts codec .lenient name label form ↔
      label ≠ [] ∧ form.length ≤ 63 ∧ ReceivedAs codec label form := by
  have received : ReceivedAs codec label form ↔
      (Idna.isAscii label = true ∧ form = label) ∨
        (Idna.isAscii label = false ∧ codec.lenient label = some form) := by
    constructor
    · intro becomes
      cases becomes with
      | asWritten ascii => exact Or.inl ⟨ascii, rfl⟩
      | converted notAscii converts => exact Or.inr ⟨notAscii, converts⟩
    · rintro (⟨ascii, rfl⟩ | ⟨notAscii, converts⟩)
      · exact .asWritten ascii
      · exact .converted notAscii converts
  rw [Converts, convertLabel_eq_ok_iff, received]
  simp only [checkAsciiLabel, true_and]
  rfl

theorem ReceivedAs.unique {form' : List Char} (becomes : ReceivedAs codec label form)
    (becomes' : ReceivedAs codec label form') : form = form' := by
  cases becomes with
  | asWritten ascii =>
      cases becomes' with
      | asWritten => rfl
      | converted notAscii => exact absurd (ascii.symm.trans notAscii) nofun
  | converted notAscii converts =>
      cases becomes' with
      | asWritten ascii => exact absurd (ascii.symm.trans notAscii) nofun
      | converted _ converts' => exact Option.some.inj (converts.symm.trans converts')

/-- A label that is there but is not converted is too long, or cannot be converted. -/
theorem Flawed.of_refused (member : label ∈ labels) (filled : label ≠ [])
    (refused : ∀ form, ¬Converts codec .lenient name label form) : Flawed codec labels := by
  have long {form : List Char} (becomes : ReceivedAs codec label form) : 63 < form.length :=
    Nat.lt_of_not_le fun short => refused form (converts_lenient_iff.mpr ⟨filled, short, becomes⟩)
  cases ascii : Idna.isAscii label with
  | true =>
      have becomes : ReceivedAs codec label label := .asWritten ascii
      exact .tooLong member becomes (long becomes)
  | false =>
      cases converts : codec.lenient label with
      | none => exact .notConvertible member ascii converts
      | some form =>
          have becomes : ReceivedAs codec label form := .converted ascii converts
          exact .tooLong member becomes (long becomes)

theorem Converts.short {form' : List Char} (converts : Converts codec .lenient name label form)
    (becomes : ReceivedAs codec label form') : form'.length ≤ 63 := by
  rcases converts_lenient_iff.mp converts with ⟨-, short, becomes'⟩
  exact becomes'.unique becomes ▸ short

theorem Converts.convertible (converts : Converts codec .lenient name label form)
    (notAscii : Idna.isAscii label = false) : codec.lenient label ≠ none := by
  rcases converts_lenient_iff.mp converts with ⟨-, -, becomes⟩
  cases becomes with
  | asWritten ascii => exact absurd (ascii.symm.trans notAscii) nofun
  | converted _ converts => exact converts ▸ nofun

/-- An empty label that something stands behind is not the one at the end. -/
theorem mem_of_missing {front before after : List (List Char)}
    (whole : labels = front ∨ labels = front ++ [[]]) (split : labels = before ++ [] :: after)
    (more : after ≠ []) : [] ∈ front := by
  rcases whole with same | same
  · exact same ▸ split ▸ List.mem_append_right before List.mem_cons_self
  · have cut := congrArg List.dropLast (same.symm.trans split)
    rw [List.dropLast_concat, List.dropLast_append_cons, List.dropLast_cons_of_ne_nil more] at cut
    exact cut ▸ List.mem_append_right before List.mem_cons_self

/-- Labels that are all converted have no flaw, nor is an empty one at their end a flaw. -/
theorem Flawed.not_of_converts {front forms : List (List Char)}
    (converts : List.Forall₂ (Converts codec .lenient name) front forms)
    (whole : labels = front ∨ labels = front ++ [[]]) : ¬Flawed codec labels := by
  have each : ∀ label ∈ front, ∃ form, Converts codec .lenient name label form := by
    intro label member
    rcases exists_mem_of_forall₂ converts.flip member with ⟨form, -, becomes⟩
    exact ⟨form, becomes⟩
  have among : ∀ label ∈ labels, label ∈ front ∨ label = [] := by
    intro label member
    rcases whole with rfl | rfl
    · exact Or.inl member
    · simpa using member
  intro flawed
  cases flawed with
  | missing split more =>
      rcases each [] (mem_of_missing whole split more) with ⟨form, filled, -⟩
      exact filled rfl
  | tooLong member becomes long =>
      rcases among _ member with within | rfl
      · rcases each _ within with ⟨form, converts⟩
        exact Nat.not_lt.mpr (converts.short becomes) long
      · rw [becomes.unique (.asWritten rfl)] at long
        cases long
  | notConvertible member notAscii fails =>
      rcases among _ member with within | rfl
      · rcases each _ within with ⟨form, converts⟩
        exact converts.convertible notAscii fails
      · cases notAscii

/-- Labels are refused exactly if they are flawed. -/
theorem flawed_iff (name : List Char) : Flawed codec labels ↔
    ∀ converted, convertLabels codec .lenient name labels ≠ .ok converted := by
  constructor
  · intro flawed converted result
    rcases converts_of_convertLabels result with all | ⟨front, forms, same, -, all⟩
    · exact Flawed.not_of_converts all (Or.inl rfl) flawed
    · exact Flawed.not_of_converts all (Or.inr same) flawed
  · intro fails
    rcases forall₂_or_first (Converts codec .lenient name) labels with
      ⟨forms, converts⟩ | ⟨before, forms, label, after, rfl, converts, refused⟩
    · exact absurd (convertLabels_of_converts converts) (fails forms)
    · by_cases missing : label = []
      · subst missing
        cases after with
        | nil =>
            refine absurd ?_ (fails (forms ++ [[]]))
            rw [convertLabels_append converts]
            rfl
        | cons next rest => exact .missing rfl (List.cons_ne_nil next rest)
      · exact .of_refused (List.mem_append_right before List.mem_cons_self) missing refused

end Labels

/-! ## Payloads -/

section Payloads

variable {codec : LabelCodec} {payload : List UInt8} {text : List Char}

theorem toAscii_toOption_eq_none_iff :
    (toAscii codec .lenient text).toOption = none ↔ Flawed codec (writtenLabels text) := by
  rw [← labelsOf_eq, flawed_iff text, toAscii]
  cases convertLabels codec .lenient text (labelsOf text) with
  | error fault =>
      refine iff_of_true rfl fun converted result => ?_
      cases result
  | ok converted =>
      refine iff_of_false (fun refused => ?_) fun fails => fails converted rfl
      cases refused

/-- A text with a replacement character is refused, wherever the character stands. -/
theorem Flawed.of_replacement (refuses : codec.RefusesReplacement)
    (member : Utf8.replacement ∈ text) : Flawed codec (writtenLabels text) := by
  have kept : isSeparator Utf8.replacement = false := by decide
  rcases exists_mem_splitAtEach member kept with ⟨label, among, within⟩
  have notAscii : Idna.isAscii label = false :=
    List.all_eq_false.mpr ⟨Utf8.replacement, within, by decide⟩
  rw [← labelsOf_eq]
  exact .notConvertible among notAscii (refuses label within)

/-- The payloads that are no names are those without an ASCII form. -/
theorem unreadable_iff_asciiForm?_eq_none (refuses : codec.RefusesReplacement)
    (nameType : UInt8) :
    Unreadable codec payload ↔
      HostPattern.asciiForm? codec (.raw ⟨nameType, payload⟩) = none := by
  show _ ↔ (toAscii codec .lenient (Utf8.decodeLossy payload)).toOption = none
  rw [toAscii_toOption_eq_none_iff]
  have lossless {text : List Char} (reads : Utf8.encode text = payload) :
      Utf8.decodeLossy payload = text :=
    Utf8.decodeLossy_of_decode (Utf8.decode_iff_encode.mpr reads)
  constructor
  · intro unreadable
    cases unreadable with
    | notUtf8 foreign => exact .of_replacement refuses (Utf8.replacement_mem_decodeLossy foreign)
    | flawed reads flawed => rwa [lossless reads]
  · intro flawed
    by_cases foreign : ∀ text, Utf8.encode text ≠ payload
    · exact .notUtf8 foreign
    · rcases not_forall_not.mp foreign with ⟨text, reads⟩
      rw [lossless reads] at flawed
      exact .flawed reads flawed

end Payloads

/-! ## Matchers -/

/-- A pattern that matches every text.  The dot alone would not do, as it stops at line
ends and an ASCII form may contain some. -/
def everything : List Char := "(?s:.)*".toList

def everythingBody : Regex.Nested := ⟨.rep (.chars (.complement .empty)) 0 none, 2⟩

theorem alone?_everything : HostPattern.alone? everything = some everythingBody := rfl

/-- Characters of any kind can be passed one by one, as long as the text has them. -/
theorem copies_anyChar {text : List Char} {start count : Nat}
    (inside : start + count ≤ text.length) :
    Regex.Copies (Regex.Spans text (.chars (.complement .empty))) count start (start + count) := by
  induction count generalizing start with
  | zero => rfl
  | succ count ih =>
      have here : start < text.length := by omega
      have rest := @ih (start + 1) (by omega)
      rw [Nat.add_assoc, Nat.add_comm 1 count] at rest
      refine ⟨start + 1, ⟨rfl, ?_⟩, rest⟩
      rw [List.getElem?_eq_getElem here]
      rfl

theorem matchesWhole_everything (text : List Char) :
    Regex.MatchesWhole everythingBody.regex text := by
  have whole := copies_anyChar (Nat.le_of_eq (Nat.zero_add text.length))
  rw [Nat.zero_add] at whole
  exact ⟨text.length, Nat.zero_le _, nofun, whole⟩

theorem test_of_no_asciiForm {codec : LabelCodec} (pattern : HostPattern) {name : ServerName}
    (none : HostPattern.asciiForm? codec name = none) (log : Log) :
    ((pattern.test codec name).run log).1 = false := by
  unfold HostPattern.test
  rw [none]
  rfl

/-- No pattern matches a payload, with whatever type code the payload is sent. -/
def NeverMatched (compiler : Regex.Compiler) (codec : LabelCodec) (payload : List UInt8) : Prop :=
  ∀ identity pattern matcher, Matcher.ofPattern compiler codec identity pattern = .ok matcher ->
    ∀ nameType log, ((matcher.test (.raw ⟨nameType, payload⟩)).run log).1 = false

/-- Payloads that are no names are never matched.  Conversely the payloads that are never
matched are no names, unless the compiler is unable to compile even a pattern that matches
every text. -/
theorem Matcher.never_matches_iff_unreadable {codec : LabelCodec}
    (refuses : codec.RefusesReplacement) (compiler : Regex.Compiler) (payload : List UInt8) :
    (Unreadable codec payload -> NeverMatched compiler codec payload) ∧
      (compiler.accepts (HostPattern.anchoredBody everythingBody) ->
        (NeverMatched compiler codec payload ↔ Unreadable codec payload)) := by
  have never (unreadable : Unreadable codec payload) : NeverMatched compiler codec payload := by
    intro identity pattern matcher made nameType log
    have none := (unreadable_iff_asciiForm?_eq_none refuses nameType).mp unreadable
    rcases (ofPattern_ok_iff compiler codec identity pattern matcher).mp made with
      ⟨nested, -, -, rfl⟩
    exact test_of_no_asciiForm _ none log
  refine ⟨never, fun accepts => ⟨fun unmatched => ?_, never⟩⟩
  rw [unreadable_iff_asciiForm?_eq_none refuses hostNameType]
  cases form : HostPattern.asciiForm? codec (.raw ⟨hostNameType, payload⟩) with
  | none => rfl
  | some ascii =>
      have framed : Regex.read? HostPattern.flags (HostPattern.framed everything) =
          some (HostPattern.anchoredBody everythingBody) := rfl
      rcases (ofPattern_accepts_iff compiler codec 0 everything).mpr ⟨_, framed, accepts⟩ with
        ⟨matcher, made⟩
      have matched : ((matcher.test (.raw ⟨hostNameType, payload⟩)).run []).1 = true :=
        (matchesWhole_of_alone compiler codec 0 alone?_everything made form []).mpr
          (Or.inl (matchesWhole_everything ascii))
      exact absurd (matched.symm.trans (unmatched 0 everything matcher made hostNameType [])) nofun

/-- A stray byte at the end of a label that is not the first is never matched, by a compiler
that has patterns for all names. -/
theorem never_matches_stray_byte :
    LabelCodec.international.RefusesReplacement ∧
      Unreadable .international [97, 46, 98, 255] ∧
      NeverMatched .estimating .international [97, 46, 98, 255] ∧
      Regex.Compiler.estimating.accepts (HostPattern.anchoredBody everythingBody) ∧
      ¬NeverMatched .estimating .international [97, 46, 98] := by
  have refuses := LabelCodec.international_refusesReplacement
  have unreadable : Unreadable .international [97, 46, 98, 255] := by
    refine .notUtf8 fun text reads => ?_
    have decoded := Utf8.decode_iff_encode.mpr reads
    cases decoded
  have accepts : Regex.Compiler.estimating.accepts (HostPattern.anchoredBody everythingBody) := by
    decide
  have stray := Matcher.never_matches_iff_unreadable refuses .estimating [97, 46, 98, 255]
  have whole := Matcher.never_matches_iff_unreadable refuses .estimating [97, 46, 98]
  refine ⟨refuses, unreadable, stray.1 unreadable, accepts, fun unmatched => ?_⟩
  have formless := (unreadable_iff_asciiForm?_eq_none refuses 0).mp ((whole.2 accepts).mp unmatched)
  cases formless

end SecureSockets.Sni
