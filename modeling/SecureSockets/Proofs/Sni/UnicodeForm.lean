import SecureSockets.Proofs.Sni.LetterCase
import SecureSockets.Proofs.Sni.Payload
import SecureSockets.Proofs.Sni.Spelling

namespace SecureSockets.Sni

open Text

/-!
# The form for human readers

A host name is shown label by label, and only the labels that are marked as ASCII forms are
decoded.  What is shown still denotes the host: taken as bytes from a peer, it is the same host
name, although the two directions do not take a text apart at the same characters.  The ASCII
form is taken apart at full stops alone and what is shown is taken apart at ideographic ones as
well, so a decoded label must not contain any of them.

The conversion is relied on for the labels of one name only, and only as far as it decodes
them.  A label that it cannot decode is shown as it is, and is ASCII, so that it is kept on the
way back.
-/

def BeginsMarked (label : List Char) : Prop :=
  ∃ x ∈ ['x', 'X'], ∃ n ∈ ['n', 'N'], [x, n, '-', '-'] <+: label

/-- A label, and what it is shown as.  A marked label that cannot be decoded is shown as
it is, since a name has to be shown in some way. -/
inductive ShownAs (codec : LabelCodec) : List Char -> List Char -> Prop where
  | unmarked {label : List Char} (unmarked : ¬BeginsMarked label) : ShownAs codec label label
  | undecodable {label : List Char} (fails : codec.unicode label = none) :
      ShownAs codec label label
  | decoded {label unicode : List Char} (marked : BeginsMarked label)
      (decodes : codec.unicode label = some unicode) : ShownAs codec label unicode

/-- What is relied on for a label that can be decoded: the result is no ASCII text, has
only one label, and is converted to what was decoded, up to the case of letters. -/
structure LabelCodec.TakesBack (codec : LabelCodec) (label unicode : List Char) : Prop where
  notAscii : Idna.isAscii unicode = false
  free : ∀ c ∈ unicode, c ∉ separators
  back : ∃ form, codec.lenient unicode = some form ∧ SameLetters label form

/-- Whatever a label is decoded to is taken back. -/
def LabelCodec.Reversible (codec : LabelCodec) (label : List Char) : Prop :=
  ∀ unicode, codec.unicode label = some unicode -> codec.TakesBack label unicode

/-! ## Labels -/

theorem isMarked_iff {label : List Char} : isMarked label = true ↔ BeginsMarked label := by
  constructor
  · intro marked
    rcases Option.isSome_iff_exists.mp marked with ⟨digits, dropped⟩
    rcases Idna.dropMarker_eq dropped with ⟨x, isX, n, isN, rfl⟩
    exact ⟨x, isX, n, isN, digits, rfl⟩
  · rintro ⟨x, isX, n, isN, digits, rfl⟩
    simp only [List.mem_cons, List.not_mem_nil, or_false] at isX isN
    rcases isX with rfl | rfl <;> rcases isN with rfl | rfl <;> rfl

section Labels

variable {codec : LabelCodec} {label shown : List Char}

theorem shownAs_unicodeLabel (codec : LabelCodec) (label : List Char) :
    ShownAs codec label (unicodeLabel codec label) := by
  unfold unicodeLabel
  split
  · next marked =>
      cases decodes : codec.unicode label with
      | none => exact .undecodable decodes
      | some unicode => exact .decoded (isMarked_iff.mp marked) decodes
  · next unmarked => exact .unmarked (mt isMarked_iff.mpr unmarked)

/-- What a proper label is shown as has no separator in it. -/
theorem ShownAs.free (shows : ShownAs codec label shown) (proper : IsLabel label)
    (reversible : BeginsMarked label -> codec.Reversible label) :
    ∀ c ∈ shown, isSeparator c = false := by
  cases shows with
  | unmarked => exact proper.free
  | undecodable => exact proper.free
  | decoded marked decodes =>
      intro c member
      rw [isSeparator_eq]
      simpa using (reversible marked shown decodes).free c member

/-- What a proper label is shown as is converted to that label, up to the case of letters. -/
theorem ShownAs.exists_converts (shows : ShownAs codec label shown) (proper : IsLabel label)
    (reversible : BeginsMarked label -> codec.Reversible label) (name : List Char) :
    ∃ form, Converts codec .lenient name shown form ∧ SameLetters label form := by
  have kept : Converts codec .lenient name label label :=
    ⟨proper.filled,
      convertLabel_eq_ok_iff.mpr ⟨proper.short, Or.inl ⟨proper.ascii, rfl, rfl⟩⟩⟩
  cases shows with
  | unmarked => exact ⟨label, kept, rfl⟩
  | undecodable => exact ⟨label, kept, rfl⟩
  | decoded marked decodes =>
      rcases reversible marked shown decodes with ⟨notAscii, -, form, converts, same⟩
      have filled : shown ≠ [] := by
        rintro rfl
        cases notAscii
      have short : form.length ≤ labelLimit := same.length_eq ▸ proper.short
      exact ⟨form, ⟨filled, convertLabel_eq_ok_iff.mpr ⟨short, Or.inr ⟨notAscii, converts⟩⟩⟩, same⟩

end Labels

/-! ## Names -/

section Names

variable {codec : LabelCodec} {ascii : List Char} {labels shown : List (List Char)}

theorem splitOn_dot (text : List Char) : text.splitOn '.' = splitAtEach (· == '.') text :=
  (splitAtEach_eq (· == '.') text).symm

theorem forall₂_shownAs (codec : LabelCodec) (labels : List (List Char)) :
    List.Forall₂ (ShownAs codec) labels (labels.map (unicodeLabel codec)) := by
  rw [List.forall₂_map_right_iff]
  exact List.forall₂_same.mpr fun label _ => shownAs_unicodeLabel codec label

theorem exists_forms (shows : List.Forall₂ (ShownAs codec) labels shown)
    (proper : ∀ label ∈ labels, IsLabel label)
    (reversible : ∀ label ∈ labels, BeginsMarked label -> codec.Reversible label)
    (name : List Char) :
    ∃ forms, List.Forall₂ (Converts codec .lenient name) shown forms ∧
      List.Forall₂ SameLetters labels forms := by
  induction shows with
  | nil => exact ⟨[], .nil, .nil⟩
  | cons first _ ih =>
      rw [List.forall_mem_cons] at proper reversible
      rcases first.exists_converts proper.1 reversible.1 name with ⟨form, converts, same⟩
      rcases ih proper.2 reversible.2 with ⟨forms, others, alike⟩
      exact ⟨form :: forms, .cons converts others, .cons same alike⟩

/-- Whether what is shown is taken apart at all separators or at some, its labels are what the
labels of the ASCII form are shown as. -/
theorem splitAtEach_toUnicode {test : Char -> Bool} (dot : test '.' = true)
    (fewer : ∀ c, isSeparator c = false -> test c = false) (wellFormed : WellFormed ascii)
    (reversible : ∀ label ∈ ascii.splitOn '.', BeginsMarked label -> codec.Reversible label) :
    splitAtEach test (toUnicode codec ascii) = (ascii.splitOn '.').map (unicodeLabel codec) := by
  have proper := wellFormed_iff.mp wellFormed
  rw [splitOn_dot] at reversible ⊢
  have some : splitAtEach (· == '.') ascii ≠ [] := by
    rw [splitAtEach_eq]
    exact List.splitOnP_ne_nil _ ascii
  refine splitAtEach_joinLabels_of_free dot (mt List.map_eq_nil_iff.mp some) ?_
  refine List.forall_mem_map.mpr fun label member c within => fewer c ?_
  exact (shownAs_unicodeLabel codec label).free (proper label member) (reversible label member)
    c within

/-- What a well-formed text is shown as makes, as bytes received from a peer, an equal host. -/
theorem ofBytes_toUnicode (wellFormed : WellFormed ascii)
    (reversible : ∀ label ∈ ascii.splitOn '.', BeginsMarked label -> codec.Reversible label) :
    ∃ again, HostName.ofBytes codec (Utf8.encode (toUnicode codec ascii)) = .ok again ∧
      SameLetters ascii again.ascii := by
  have labels : labelsOf (toUnicode codec ascii) = (ascii.splitOn '.').map (unicodeLabel codec) :=
    splitAtEach_toUnicode (by decide) (fun _ => id) wellFormed reversible
  have shows := forall₂_shownAs codec (ascii.splitOn '.')
  rw [← labels] at shows
  have proper := wellFormed_iff.mp wellFormed
  rw [← splitOn_dot] at proper
  rcases exists_forms shows proper reversible (toUnicode codec ascii) with
    ⟨forms, converts, alike⟩
  have joined : SameLetters ascii (joinLabels forms) := by
    have whole := SameLetters.joinLabels alike
    rwa [splitOn_dot, joinLabels_splitAtEach] at whole
  have converted : toAscii codec .lenient (toUnicode codec ascii) = .ok (joinLabels forms) := by
    rw [toAscii, convertLabels_of_converts converts]
    rfl
  rcases ofAscii_eq_ok_iff.mp (wellFormed.ofAscii []) with ⟨filled, notClosed, -⟩
  have accepted (encoded : List UInt8) :
      HostName.ofAscii (joinLabels forms) encoded = .ok ⟨joinLabels forms, encoded⟩ :=
    ofAscii_eq_ok_iff.mpr
      ⟨joined.ne_nil filled, mt joined.getLast?_eq_dot_iff.mpr notClosed, rfl⟩
  exact ⟨_, ofBytes_eq_ok_iff.mpr ⟨_, _, Utf8.decode_encode _, converted, accepted _⟩, joined⟩

end Names

/-- What a host name is shown as denotes that host.  It has as many labels as the ASCII form,
all of them are kept but those that are marked and can be decoded, and as bytes received from
a peer it is an equal host name. -/
theorem HostName.unicode_denotes {codec : LabelCodec} (regular : codec.Regular)
    {name : List Char} {host : HostName} (made : ofText codec name = .ok host)
    (reversible : ∀ label ∈ host.ascii.splitOn '.',
      BeginsMarked label -> codec.Reversible label) :
    ((host.unicode codec).splitOn '.').length = (host.ascii.splitOn '.').length ∧
      List.Forall₂ (ShownAs codec) (host.ascii.splitOn '.') ((host.unicode codec).splitOn '.') ∧
      ∃ again, ofBytes codec (Utf8.encode (host.unicode codec)) = .ok again ∧
        (again == host) = true := by
  rcases (ofText_eq_ok_iff regular).mp made with ⟨written, accepts, rfl⟩
  have wellFormed := wellFormed_of_accepts regular accepts
  have parts : (toUnicode codec (joinLabels written)).splitOn '.' =
      ((joinLabels written).splitOn '.').map (unicodeLabel codec) := by
    rw [splitOn_dot]
    refine splitAtEach_toUnicode rfl (fun c notSeparator => ?_) wellFormed reversible
    simp only [isSeparator, Bool.or_eq_false_iff] at notSeparator
    exact notSeparator.1.1.1
  have shows := forall₂_shownAs codec ((joinLabels written).splitOn '.')
  rw [← parts] at shows
  rcases ofBytes_toUnicode wellFormed reversible with ⟨again, read, same⟩
  exact ⟨shows.length_eq.symm, shows, again, read, beq_iff_sameLetters.mpr same.symm⟩

theorem international_conversions :
    LabelCodec.international.unicode ['x', 'n', '-', '-', 'x', 'n', 'x'] = some ['\u706D'] ∧
      LabelCodec.international.lenient ['\u706D'] =
        some ['x', 'n', '-', '-', 'x', 'n', 'x'] ∧
      LabelCodec.international.unicode ['x', 'n', '-', '-', 'n'] = none := by
  decide +kernel

theorem international_reversible_capitals :
    LabelCodec.international.Reversible ['X', 'N', '-', '-', 'X', 'N', 'X'] := by
  intro unicode decodes
  have small := LabelCodec.international_ignoresCase ['x', 'n', '-', '-', 'x', 'n', 'x']
  cases decodes.symm.trans (small.trans international_conversions.1)
  have notSeparator : '\u706D' ∉ separators := by decide
  exact ⟨rfl, List.forall_mem_singleton.mpr notSeparator, _, international_conversions.2.1, rfl⟩

theorem international_reversible_unfinished :
    LabelCodec.international.Reversible ['x', 'n', '-', '-', 'n'] := by
  intro unicode decodes
  cases decodes.symm.trans international_conversions.2.2

/-- A label in capitals that can be decoded, and one with an unfinished number. -/
theorem unicode_denotes_capitals :
    ∃ host, LabelCodec.international.Regular ∧
      HostName.ofText .international "XN--XNX.xn--n".toList = .ok host ∧
      (∀ label ∈ host.ascii.splitOn '.',
        BeginsMarked label -> LabelCodec.international.Reversible label) ∧
      List.Forall₂ (ShownAs .international) (host.ascii.splitOn '.')
        ((host.unicode .international).splitOn '.') ∧
      ∃ again, HostName.ofBytes .international (Utf8.encode (host.unicode .international)) =
          .ok again ∧ (again == host) = true := by
  have regular := LabelCodec.international_lawful.regular
  obtain ⟨host, made, ascii⟩ : ∃ host,
      HostName.ofText .international "XN--XNX.xn--n".toList = .ok host ∧
        host.ascii = "XN--XNX.xn--n".toList := ⟨_, rfl, rfl⟩
  have labels : host.ascii.splitOn '.' =
      [['X', 'N', '-', '-', 'X', 'N', 'X'], ['x', 'n', '-', '-', 'n']] := by
    rw [ascii]
    rfl
  have reversible : ∀ label ∈ host.ascii.splitOn '.',
      BeginsMarked label -> LabelCodec.international.Reversible label := by
    rw [labels, List.forall_mem_cons, List.forall_mem_singleton]
    exact ⟨fun _ => international_reversible_capitals,
      fun _ => international_reversible_unfinished⟩
  exact ⟨host, regular, made, reversible,
    (HostName.unicode_denotes regular made reversible).2⟩

end SecureSockets.Sni
