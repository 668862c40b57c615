import Mathlib.Data.Bool.AllAny
import Mathlib.Tactic.MkIffOfInductiveProp
import SecureSockets.Proofs.Idna.Punycode

namespace SecureSockets.Idna

/-!
# ASCII forms of labels

A successful conversion gives an ASCII text.  Under the rules for names typed by a user the
text is a proper label: it has between 1 and 63 characters, all of them letters, digits and
hyphens, and there is no hyphen at either end.  The rules for names received from a peer make
the same of what these rules accept, but they also allow a full stop and an empty text.

A label that is in ASCII form already is checked after decoding, so what the checks say has
to be carried back: no character disappears when a label is decoded, except for letters,
digits and hyphens.
-/

/-! ## Both forms of a label -/

theorem decodeMarked_eq_some {digits unicode : List Char}
    (decoded : decodeMarked digits = some unicode) :
    digits ≠ [] ∧ digits.getLast? ≠ some '-' ∧ Punycode.decode digits = some unicode := by
  unfold decodeMarked at decoded
  split at decoded
  · next proper =>
      simp only [Bool.and_eq_true, Bool.not_eq_true', List.isEmpty_eq_false_iff] at proper
      refine ⟨proper.1.2, ?_, (Option.filter_eq_some_iff.mp decoded).1⟩
      intro hyphen
      have ends := proper.1.1
      rw [hyphen] at ends
      exact absurd ends (by decide)
  · cases decoded

theorem dropMarker_eq {text digits : List Char} (marked : dropMarker text = some digits) :
    ∃ x ∈ ['x', 'X'], ∃ n ∈ ['n', 'N'], text = x :: n :: '-' :: '-' :: digits := by
  unfold dropMarker at marked
  split at marked
  all_goals cases marked
  all_goals exact ⟨_, by decide, _, by decide, rfl⟩

/-- What a successful conversion tells of the two forms of a label. -/
theorem convert_cases {rules : Strictness} {label unicode ascii : List Char}
    (converted : convert rules label = some (unicode, ascii)) :
    isValidLabel rules unicode = true ∧
      ((∃ digits, dropMarker ascii = some digits ∧ isAscii ascii = true ∧
          decodeMarked digits = some unicode) ∨
        (isAscii unicode = true ∧ ascii = unicode) ∨
        (isAscii unicode = false ∧
          ascii = 'x' :: 'n' :: '-' :: '-' :: Punycode.encode unicode)) := by
  unfold convert at converted
  rcases Option.bind_eq_some_iff.mp converted with ⟨mapped, -, checked⟩
  cases marked : dropMarker mapped with
  | some digits =>
      simp only [marked] at checked
      split at checked
      · next isAscii =>
          rcases Option.map_eq_some_iff.mp checked with ⟨decoded, valid, same⟩
          cases same
          rcases Option.filter_eq_some_iff.mp valid with ⟨decodes, valid⟩
          exact ⟨valid, Or.inl ⟨digits, marked, isAscii, decodes⟩⟩
      · cases checked
  | none =>
      simp only [marked] at checked
      split at checked
      · next valid =>
          cases checked
          refine ⟨valid, Or.inr ?_⟩
          split
          · next isAscii => exact Or.inl ⟨isAscii, rfl⟩
          · next notAscii => exact Or.inr ⟨Bool.eq_false_iff.mpr notAscii, rfl⟩
      · cases checked

theorem toAscii_isAscii {rules : Strictness} {label ascii : List Char}
    (converted : toAscii rules label = some ascii) : isAscii ascii = true := by
  rcases Option.filter_eq_some_iff.mp converted with ⟨converts, -⟩
  rcases Option.map_eq_some_iff.mp converts with ⟨⟨unicode, _⟩, both, rfl⟩
  rcases convert_cases both with ⟨-, ⟨_, -, isAscii, -⟩ | ⟨isAscii, rfl⟩ | ⟨-, rfl⟩⟩
  · exact isAscii
  · exact isAscii
  · exact Punycode.encode_isAscii unicode

/-! ## Names typed by a user -/

def IsPlain (c : Char) : Prop :=
  c.isAlphanum = true ∨ c = '-'

instance : DecidablePred IsPlain := fun _ => inferInstanceAs (Decidable (_ ∨ _))

theorem isAlphanum_iff {c : Char} :
    c.isAlphanum = true ↔ (c.isUpper = true ∨ c.isLower = true) ∨ c.isDigit = true := by
  show (c.isUpper || c.isLower || c.isDigit) = true ↔ _
  rw [Bool.or_eq_true, Bool.or_eq_true]

theorem IsPlain.ascii {c : Char} (plain : IsPlain c) : c.toNat < 128 := by
  rcases plain with letter | rfl
  · have bound : c.val ≤ 'z'.val := by
      rcases isAlphanum_iff.mp letter with (upper | lower) | digit
      · have between : 'A'.val ≤ c.val ∧ c.val ≤ 'Z'.val := of_decide_eq_true upper
        exact UInt32.le_trans between.2 (by decide)
      · exact of_decide_eq_true (Bool.and_eq_true_iff.mp lower).2
      · have below : c.val ≤ '9'.val := of_decide_eq_true (Bool.and_eq_true_iff.mp digit).2
        exact UInt32.le_trans below (by decide)
    exact Nat.lt_of_le_of_lt (UInt32.le_iff_toNat_le.mp bound) (by decide)
  · decide

theorem isPlain_of_allowed {c : Char} (allowed : asciiAllowed .full c = true)
    (ascii : c.toNat < 128) : IsPlain c := by
  unfold IsPlain
  simpa [asciiAllowed, Strictness.full, Nat.not_le.mpr ascii] using allowed

theorem isPlain_of_digitValue {c : Char} (isDigit : Punycode.digitValue c ≠ none) :
    IsPlain c := by
  refine Or.inl (Decidable.byContradiction fun other => isDigit ?_)
  simp only [isAlphanum_iff, not_or] at other
  rw [Punycode.digitValue, if_neg other.1.1, if_neg other.1.2, if_neg other.2]

/-- Capital letters are digits, so making letters small changes nothing else. -/
theorem toLower_of_no_digit {c : Char} (noDigit : Punycode.digitValue c = none) :
    c.toLower = c := by
  unfold Char.toLower
  split
  · next capital =>
      have isUpper : c.isUpper = true := decide_eq_true capital
      rw [Punycode.digitValue, if_pos isUpper] at noDigit
      cases noDigit
  · rfl

theorem allowed_of_isValidLabel {rules : Strictness} {text : List Char}
    (valid : isValidLabel rules text = true) :
    (∀ c ∈ text, asciiAllowed rules c = true) ∧ hyphensAllowed rules text = true := by
  simp only [isValidLabel, Bool.and_eq_true] at valid
  exact ⟨List.all_eq_true.mp valid.1.1.1.1.1, valid.1.1.1.1.2⟩

theorem isPlain_of_decode {digits unicode : List Char}
    (decoded : Punycode.decode digits = some unicode) (isAscii : ∀ c ∈ digits, c.toNat < 128)
    (allowed : ∀ c ∈ unicode, asciiAllowed .full c = true) : ∀ c ∈ digits, IsPlain c := by
  intro c member
  by_cases isDigit : Punycode.digitValue c = none
  · by_cases hyphen : c = '-'
    · exact Or.inr hyphen
    · have kept := Punycode.mem_of_decode decoded member isDigit hyphen
      rw [toLower_of_no_digit isDigit] at kept
      exact isPlain_of_allowed (allowed c kept) (isAscii c member)
  · exact isPlain_of_digitValue isDigit

theorem isPlain_of_encode {unicode : List Char}
    (allowed : ∀ c ∈ unicode, asciiAllowed .full c = true) :
    ∀ c ∈ Punycode.encode unicode, IsPlain c := by
  intro c member
  rcases Punycode.mem_encode member with ⟨kept, ascii⟩ | hyphen | ⟨worth, bound, rfl⟩
  · exact isPlain_of_allowed (allowed c kept) ascii
  · exact Or.inr hyphen
  · exact Or.inl (Punycode.digit_plain worth bound).2

/-- A proper label: not empty, of letters, digits and hyphens, with no hyphen at an
end. -/
@[mk_iff]
structure IsPlainLabel (label : List Char) : Prop where
  filled : label ≠ []
  letters : ∀ c ∈ label, IsPlain c
  noHyphenFirst : label.head? ≠ some '-'
  noHyphenLast : label.getLast? ≠ some '-'

theorem isPlainLabel_marked {x n : Char} {text : List Char} (isX : x ∈ ['x', 'X'])
    (isN : n ∈ ['n', 'N']) (filled : text ≠ []) (letters : ∀ c ∈ text, IsPlain c)
    (noHyphenLast : text.getLast? ≠ some '-') :
    IsPlainLabel (x :: n :: '-' :: '-' :: text) where
  filled := List.cons_ne_nil _ _
  letters := by
    have plain_x : ∀ c ∈ ['x', 'X'], IsPlain c := List.all_iff_forall_prop.mp (by decide)
    have plain_n : ∀ c ∈ ['n', 'N'], IsPlain c := List.all_iff_forall_prop.mp (by decide)
    have hyphen : IsPlain '-' := Or.inr rfl
    simp only [List.forall_mem_cons]
    exact ⟨plain_x x isX, plain_n n isN, hyphen, hyphen, letters⟩
  noHyphenFirst := by
    have letter : ∀ c ∈ ['x', 'X'], some c ≠ some '-' :=
      List.all_iff_forall_prop.mp (by decide)
    exact letter x isX
  noHyphenLast := by
    rcases List.ne_nil_iff_exists_cons.mp filled with ⟨first, rest, rfl⟩
    simpa only [List.getLast?_cons_cons] using noHyphenLast

theorem isPlainLabel_encoded {unicode : List Char} (notAscii : isAscii unicode = false)
    (allowed : ∀ c ∈ unicode, asciiAllowed .full c = true) :
    IsPlainLabel ('x' :: 'n' :: '-' :: '-' :: Punycode.encode unicode) := by
  rcases Punycode.getLast?_encode notAscii with ⟨worth, bound, last⟩
  have filled : Punycode.encode unicode ≠ [] := by
    intro nothing
    rw [nothing] at last
    cases last
  have ends : (Punycode.encode unicode).getLast? ≠ some '-' := by
    have letter : ∀ worth < Punycode.base, some (Punycode.digit worth) ≠ some '-' := by decide
    exact last ▸ letter worth bound
  exact isPlainLabel_marked (by decide) (by decide) filled (isPlain_of_encode allowed) ends

theorem isPlainLabel_of_isValidLabel {text : List Char} (filled : text ≠ [])
    (isAscii : isAscii text = true) (valid : isValidLabel .full text = true) :
    IsPlainLabel text := by
  rcases allowed_of_isValidLabel valid with ⟨allowed, hyphens⟩
  simp only [hyphensAllowed, Strictness.full, Bool.not_true, Bool.false_or, Bool.not_eq_true',
    Bool.or_eq_false_iff, beq_eq_false_iff_ne] at hyphens
  have ascii : ∀ c ∈ text, c.toNat < 128 := by simpa [Idna.isAscii] using isAscii
  exact ⟨filled, fun c member => isPlain_of_allowed (allowed c member) (ascii c member),
    hyphens.1.1, hyphens.1.2⟩

theorem isPlainLabel_of_toAscii_full {label ascii : List Char}
    (converted : toAscii .full label = some ascii) : IsPlainLabel ascii := by
  rcases Option.filter_eq_some_iff.mp converted with ⟨converts, limits⟩
  rcases Option.map_eq_some_iff.mp converts with ⟨⟨unicode, form⟩, both, rfl⟩
  rcases convert_cases both with ⟨valid, forms⟩
  have allowed := (allowed_of_isValidLabel valid).1
  rcases forms with ⟨digits, marked, isAscii, decodes⟩ | ⟨isAscii, rfl⟩ | ⟨notAscii, rfl⟩
  · rcases decodeMarked_eq_some decodes with ⟨filled, ends, decoded⟩
    rcases dropMarker_eq marked with ⟨x, isX, n, isN, rfl⟩
    have ascii : ∀ c ∈ digits, c.toNat < 128 := by
      simp only [Idna.isAscii, List.all_cons, Bool.and_eq_true] at isAscii
      simpa using isAscii.2.2.2.2
    exact isPlainLabel_marked isX isN filled (isPlain_of_decode decoded ascii allowed) ends
  · refine isPlainLabel_of_isValidLabel ?_ isAscii valid
    rintro rfl
    exact absurd limits (by decide)
  · exact isPlainLabel_encoded notAscii allowed

theorem dot_notMem_of_toAscii_full {label ascii : List Char}
    (converted : toAscii .full label = some ascii) : '.' ∉ ascii := fun dot =>
  absurd ((isPlainLabel_of_toAscii_full converted).letters '.' dot) (by decide)

theorem length_of_toAscii_full {label ascii : List Char}
    (converted : toAscii .full label = some ascii) : ascii ≠ [] ∧ ascii.length ≤ labelLimit := by
  have limits := (Option.filter_eq_some_iff.mp converted).2
  simpa [Strictness.full] using limits

/-! ## Names received from a peer -/

theorem isValidLabel_none_of_full {text : List Char} (valid : isValidLabel .full text = true) :
    isValidLabel .none text = true := by
  simp only [isValidLabel, Bool.and_eq_true] at valid ⊢
  have letters : text.all (asciiAllowed .none) = true := List.all_eq_true.mpr fun _ _ => rfl
  exact ⟨⟨⟨⟨⟨letters, rfl⟩, valid.1.1.1.2⟩, valid.1.1.2⟩, valid.1.2⟩, valid.2⟩

theorem convert_none_of_full {label : List Char} {forms : List Char × List Char}
    (converted : convert .full label = some forms) : convert .none label = some forms := by
  unfold convert at converted ⊢
  rcases Option.bind_eq_some_iff.mp converted with ⟨mapped, normalized, checked⟩
  rw [normalized, Option.bind_some]
  cases marked : dropMarker mapped with
  | some digits =>
      simp only [marked] at checked ⊢
      split at checked
      · next isAscii =>
          rw [if_pos isAscii]
          rcases Option.map_eq_some_iff.mp checked with ⟨decoded, valid, rfl⟩
          rcases Option.filter_eq_some_iff.mp valid with ⟨decodes, valid⟩
          rw [decodes, Option.filter_some, if_pos (isValidLabel_none_of_full valid)]
          rfl
      · cases checked
  | none =>
      simp only [marked] at checked ⊢
      split at checked
      · next valid => rw [if_pos (isValidLabel_none_of_full valid), checked]
      · cases checked

/-- What passes the rules for names typed by a user passes the others with the same result. -/
theorem toAscii_none_of_full {label ascii : List Char}
    (converted : toAscii .full label = some ascii) : toAscii .none label = some ascii := by
  rcases Option.filter_eq_some_iff.mp converted with ⟨converts, -⟩
  rcases Option.map_eq_some_iff.mp converts with ⟨forms, both, rfl⟩
  rw [toAscii, convert_none_of_full both]
  rfl

end SecureSockets.Idna
