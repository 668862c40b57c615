import SecureSockets.Proofs.Regex.IgnoredCase
import SecureSockets.Proofs.Sni.FullMatch
import SecureSockets.Proofs.Sni.Labels

namespace SecureSockets.Sni

open Unicode (toUpper_rel toUpper_toUpper)

/-!
# Host patterns and the case of letters

Names that differ only in the case of ASCII letters are one host, so a host pattern is
promised not to tell them apart.  Their Unicode forms differ in the case of letters only,
and an expression that ignores letter case matches both of them or neither.  The promise is
therefore kept as long as a pattern does not clear the flag for ignoring letter case.
-/

/-! ## Unicode forms -/

/-- The Unicode form of a label does not depend on the case of ASCII letters. -/
def LabelCodec.IgnoresCase (codec : LabelCodec) : Prop :=
  ∀ label, codec.unicode (label.map Char.toUpper) = codec.unicode label

theorem LabelCodec.international_ignoresCase : LabelCodec.international.IgnoresCase := by
  intro label
  show Idna.toUnicode _ = Idna.toUnicode label
  unfold Idna.toUnicode Idna.convert Idna.Mapping.normalized
  rw [Idna.Mapping.mapChars_map_toUpper]

theorem map_toUpper_map_toUpper (text : List Char) :
    (text.map Char.toUpper).map Char.toUpper = text.map Char.toUpper := by
  rw [List.map_map]
  exact List.map_congr_left fun c _ => toUpper_toUpper c

theorem toUpper_beq_dot (c : Char) : (c.toUpper == '.') = (c == '.') :=
  toUpper_rel (R := fun c d => (c == '.') = (d == '.')) (fun _ => rfl) (by decide) c

theorem isMarked_cons (a b c d : Char) (rest : List Char) :
    isMarked (a :: b :: c :: d :: rest) =
      ((a == 'x' || a == 'X') && (b == 'n' || b == 'N') && c == '-' && d == '-') := by
  apply Bool.eq_iff_iff.mpr
  simp only [Bool.and_eq_true, Bool.or_eq_true, beq_iff_eq]
  constructor
  · intro marked
    unfold isMarked Idna.dropMarker at marked
    split at marked
    all_goals first | cases marked; done | skip
    all_goals next same => cases same; simp
  · rintro ⟨⟨⟨rfl | rfl, rfl | rfl⟩, rfl⟩, rfl⟩ <;> rfl

theorem isMarked_of_short {label : List Char} (short : label.length < 4) :
    isMarked label = false := by
  unfold isMarked Idna.dropMarker
  split
  iterate 4 · exact absurd short (by simp)
  · rfl

theorem isMarked_map_toUpper (label : List Char) :
    isMarked (label.map Char.toUpper) = isMarked label := by
  rcases label with _ | ⟨a, _ | ⟨b, _ | ⟨c, _ | ⟨d, rest⟩⟩⟩⟩
  iterate 4 · rw [isMarked_of_short (by simp), isMarked_of_short (by simp)]
  have same (test : Char -> Bool)
      (letters : ∀ n < 26, test (Unicode.capital n) = test (Unicode.small n)) (c : Char) :
      test c.toUpper = test c :=
    toUpper_rel (R := fun c d => test c = test d) (fun _ => rfl) letters c
  simp only [List.map_cons, isMarked_cons]
  rw [same (fun c => c == 'x' || c == 'X') (by decide) a,
    same (fun c => c == 'n' || c == 'N') (by decide) b, same (· == '-') (by decide) c,
    same (· == '-') (by decide) d]

section Forms

variable {codec : LabelCodec}

theorem unicodeLabel_map_toUpper (same : codec.IgnoresCase) (label : List Char) :
    (unicodeLabel codec (label.map Char.toUpper)).map Char.toUpper =
      (unicodeLabel codec label).map Char.toUpper := by
  rw [unicodeLabel, unicodeLabel, isMarked_map_toUpper, same label]
  split
  · cases codec.unicode label with
    | none => exact map_toUpper_map_toUpper label
    | some unicode => rfl
  · exact map_toUpper_map_toUpper label

theorem toUnicode_map_toUpper (same : codec.IgnoresCase) (ascii : List Char) :
    (toUnicode codec (ascii.map Char.toUpper)).map Char.toUpper =
      (toUnicode codec ascii).map Char.toUpper := by
  rw [toUnicode, toUnicode, joinLabels_map _ rfl, joinLabels_map _ rfl,
    splitAtEach_map toUpper_beq_dot, List.map_map, List.map_map, List.map_map]
  congr 1
  apply List.map_congr_left
  exact fun label _ => unicodeLabel_map_toUpper same label

/-- Texts that differ in the case of letters have Unicode forms that differ no more. -/
theorem toUnicode_eq_of_toUpper_eq (same : codec.IgnoresCase) {left right : List Char}
    (equal : left.map Char.toUpper = right.map Char.toUpper) :
    (toUnicode codec left).map Char.toUpper = (toUnicode codec right).map Char.toUpper := by
  rw [← toUnicode_map_toUpper same left, equal, toUnicode_map_toUpper same]

end Forms

/-! ## Patterns -/

namespace HostPattern

/-- Nothing in a pattern is read with the flag for ignoring letter case cleared.  Only a
pattern that clears it somewhere can tell the spellings of a host apart. -/
def IgnoresCase (pattern : List Char) : Prop :=
  Regex.Reader.ignoresCase ((framed pattern).length + 1) start (framed pattern) = true

instance (pattern : List Char) : Decidable (IgnoresCase pattern) :=
  inferInstanceAs (Decidable (_ = true))

theorem ignoresCase_of_no_hyphen {pattern : List Char} (noHyphen : '-' ∉ pattern) :
    IgnoresCase pattern := by
  have flag : start.IgnoresCase := ⟨rfl, List.forall_mem_nil _⟩
  apply flag.of_no_hyphen
  simp only [framed, List.mem_append, not_or]
  exact ⟨⟨by decide, noHyphen⟩, by decide⟩

theorem caseless_of_ignoresCase {compiler : Regex.Compiler} {pattern : List Char}
    {hostPattern : HostPattern} (made : ofText? compiler pattern = some hostPattern)
    (ignores : IgnoresCase pattern) :
    hostPattern.regex.Caseless := by
  rcases (ofText?_eq_some_iff compiler pattern hostPattern).mp made with ⟨nested, reads, -, rfl⟩
  exact Regex.Reader.run_caseless (.fresh flags) ignores reads

theorem matchesAscii_eq {hostPattern : HostPattern} (caseless : hostPattern.regex.Caseless)
    {codec : LabelCodec} (same : codec.IgnoresCase) {left right : List Char}
    (equal : left.map Char.toUpper = right.map Char.toUpper) :
    hostPattern.matchesAscii codec left = hostPattern.matchesAscii codec right := by
  rw [matchesAscii, matchesAscii, Regex.isMatch_eq_of_toUpper_eq caseless equal,
    Regex.isMatch_eq_of_toUpper_eq caseless (toUnicode_eq_of_toUpper_eq same equal)]

end HostPattern

/-- The matcher of a pattern that never clears the flag for ignoring letter case does not
tell equal host names apart. -/
theorem Matcher.test_eq_of_beq (compiler : Regex.Compiler) {codec : LabelCodec}
    (same : codec.IgnoresCase) (identity : Nat) {pattern : List Char} {matcher : Matcher}
    (made : Matcher.ofPattern compiler codec identity pattern = .ok matcher)
    (ignores : HostPattern.IgnoresCase pattern) {left right : HostName}
    (equal : (left == right) = true) :
    matcher.test (.host left) = matcher.test (.host right) := by
  have keys : left.ascii.map Char.toUpper = right.ascii.map Char.toUpper := eq_of_beq equal
  unfold ofPattern at made
  cases found : HostPattern.ofText? compiler pattern with
  | none =>
      rw [found] at made
      cases made
  | some hostPattern =>
      rw [found] at made
      cases made
      have caseless := HostPattern.caseless_of_ignoresCase found ignores
      show pure _ = pure _
      rw [HostPattern.matchesAscii_eq caseless same keys]

/-- A class of small letters, and two spellings of a host of which one is in capitals. -/
theorem test_eq_capitals :
    ∃ matcher left right,
      Matcher.ofPattern .estimating .international 0 "[a-c]+".toList = .ok matcher ∧
      HostName.ofText .international ['A', 'B'] = .ok left ∧
      HostName.ofBytes .international [97, 98] = .ok right ∧
      matcher.test (.host left) = matcher.test (.host right) := by
  have ignores : HostPattern.IgnoresCase "[a-c]+".toList := by decide
  refine ⟨_, _, _, rfl, rfl, rfl, ?_⟩
  have same := LabelCodec.international_ignoresCase
  exact Matcher.test_eq_of_beq .estimating same 0 rfl ignores (by decide)

/-- A pattern that clears the flag matches one spelling of a host and not the other. -/
theorem cleared_flag_tells_apart :
    ∃ matcher left right,
      Matcher.ofPattern .estimating .international 0 "(?-i)a".toList = .ok matcher ∧
      HostName.ofText .international ['a'] = .ok left ∧
      HostName.ofText .international ['A'] = .ok right ∧ (left == right) = true ∧
      ((matcher.test (.host left)).run []).1 = true ∧
      ((matcher.test (.host right)).run []).1 = false := by
  exact ⟨_, _, _, rfl, rfl, rfl, by decide, by decide +kernel, by decide +kernel⟩

end SecureSockets.Sni
