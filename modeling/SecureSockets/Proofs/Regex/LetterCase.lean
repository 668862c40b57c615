import SecureSockets.Proofs.Unicode.Letters
import SecureSockets.Regex.Match
import SecureSockets.Regex.Parse

namespace SecureSockets.Regex

open Unicode

/-!
# Expressions that ignore the case of ASCII letters

A set ignores letter case if it holds both cases of an ASCII letter or neither.  If all the
sets of an expression do, the expression matches a text in upper case exactly if it matches
the text itself, and so cannot tell texts apart that differ in letter case only.

The conditions on places need no assumption: they ask for line ends and for word characters,
and whether a letter is one does not depend on its case.
-/

/-! ## Sets -/

namespace CharSet

/-- The set does not tell the two cases of an ASCII letter apart.  Other letters are not
asked about, since host names spell them in lower case. -/
def Caseless (set : CharSet) : Prop :=
  ∀ c : Char, set.contains c.toUpper = set.contains c

theorem caseless_of_letters {set : CharSet}
    (letters : ∀ n < 26, set.contains (capital n) = set.contains (small n)) : set.Caseless :=
  toUpper_rel (R := fun c d => set.contains c = set.contains d) (fun _ => rfl) letters

theorem Caseless.complement {set : CharSet} (caseless : set.Caseless) :
    (CharSet.complement set).Caseless :=
  fun c => congrArg not (caseless c)

theorem Caseless.union {left right : CharSet} (first : left.Caseless) (second : right.Caseless) :
    (CharSet.union left right).Caseless :=
  fun c => by rw [contains, contains, first c, second c]

def spellings (asciiOnly : Bool) (c : Char) : List Char :=
  c :: if asciiOnly then Folding.asciiOthers c else Folding.others c

theorem contains_folded (asciiOnly : Bool) (set : CharSet) (c : Char) :
    (folded asciiOnly set).contains c = (spellings asciiOnly c).any set.contains := rfl

theorem spellings_toUpper (asciiOnly : Bool) (c : Char) :
    (spellings asciiOnly c.toUpper).Perm (spellings asciiOnly c) := by
  apply toUpper_rel (R := fun c d => (spellings asciiOnly c).Perm (spellings asciiOnly d))
  · exact fun _ => .refl _
  · intro n isLetter
    have ascii := Folding.asciiOthers_letters n isLetter
    cases asciiOnly with
    | true => simpa [spellings, ascii] using List.Perm.swap _ _ []
    | false =>
        simpa [spellings, Folding.others_capital isLetter, Folding.others_small isLetter] using
          List.Perm.swap _ _ (Folding.further n)

theorem folded_caseless (asciiOnly : Bool) (set : CharSet) : (folded asciiOnly set).Caseless := by
  intro c
  rw [contains_folded, contains_folded]
  exact (spellings_toUpper asciiOnly c).any_eq

theorem digit_caseless : digit.Caseless :=
  caseless_of_letters fun n isLetter =>
    have letters := Property.isDigit_letters n isLetter
    letters.1.trans letters.2.symm

theorem blank_caseless : blank.Caseless :=
  caseless_of_letters fun n isLetter =>
    have letters := Property.isBlank_letters n isLetter
    letters.1.trans letters.2.symm

theorem word_caseless : word.Caseless :=
  caseless_of_letters fun n isLetter =>
    have letters := Property.isWord_letters n isLetter
    letters.1.trans letters.2.symm

theorem asciiDigit_caseless : asciiDigit.Caseless :=
  caseless_of_letters (by decide)

theorem asciiBlank_caseless : asciiBlank.Caseless :=
  caseless_of_letters (by decide)

theorem asciiWord_caseless : asciiWord.Caseless :=
  caseless_of_letters (by decide)

theorem singleton_caseless {c : Char} (noLetter : ∀ n < 26, c ≠ capital n ∧ c ≠ small n) :
    (singleton c).Caseless := by
  have other {d : Char} (different : c ≠ d) : (singleton c).contains d = false := by
    apply Bool.eq_false_iff.mpr
    intro holds
    simp only [singleton, contains, Bool.and_eq_true, decide_eq_true_eq] at holds
    exact different (Char.toNat_inj.mp (Nat.le_antisymm holds.1 holds.2))
  exact caseless_of_letters fun n isLetter =>
    (other (noLetter n isLetter).1).trans (other (noLetter n isLetter).2).symm

end CharSet

/-! ## Expressions -/

/-- All the sets of an expression ignore letter case. -/
def Caseless : Regex -> Prop
  | .chars set => set.Caseless
  | .seq first second => first.Caseless ∧ second.Caseless
  | .alt left right => left.Caseless ∧ right.Caseless
  | .rep body _ _ => body.Caseless
  | .empty | .look _ => True

theorem charPlaces_map_toUpper {set : CharSet} (caseless : set.Caseless) (text : List Char) :
    charPlaces set.contains (text.map Char.toUpper) = charPlaces set.contains text := by
  induction text with
  | nil => rfl
  | cons c rest ih => rw [List.map_cons, charPlaces, charPlaces, caseless c, ih]

namespace Look

theorem isWordChar_toUpper (asciiOnly : Bool) (c : Option Char) :
    isWordChar asciiOnly (c.map Char.toUpper) = isWordChar asciiOnly c := by
  cases c with
  | none => rfl
  | some c =>
      cases asciiOnly with
      | true => exact CharSet.asciiWord_caseless c
      | false => exact CharSet.word_caseless c

theorem beq_lineEnd_toUpper {mark : Char} (noLetter : mark = '\n' ∨ mark = '\r')
    (c : Option Char) : (c.map Char.toUpper == some mark) = (c == some mark) := by
  cases c with
  | none => rfl
  | some c =>
      apply toUpper_rel (R := fun c d => (some c == some mark) = (some d == some mark))
      · exact fun _ => rfl
      · rcases noLetter with rfl | rfl <;> decide

theorem holds_map_toUpper (look : Look) (before after : Option Char) :
    look.holds (before.map Char.toUpper) (after.map Char.toUpper) = look.holds before after := by
  cases look <;>
    simp only [holds, Option.isNone_map, isWordChar_toUpper, bne,
      beq_lineEnd_toUpper (Or.inl rfl), beq_lineEnd_toUpper (Or.inr rfl)]

end Look

theorem lookPlaces_map_toUpper (look : Look) (before : Option Char) (text : List Char) :
    lookPlaces look (before.map Char.toUpper) (text.map Char.toUpper) =
      lookPlaces look before text := by
  induction text generalizing before with
  | nil => rw [List.map_nil, lookPlaces, lookPlaces, ← look.holds_map_toUpper before none]; rfl
  | cons c rest ih =>
      rw [List.map_cons, lookPlaces, lookPlaces, ← look.holds_map_toUpper before (some c),
        ← ih (some c)]
      rfl

theorem plan_map_toUpper {r : Regex} (caseless : r.Caseless) (text : List Char) :
    plan (text.map Char.toUpper) r = plan text r := by
  induction r with
  | empty => rfl
  | chars set => exact congrArg Plan.advance (charPlaces_map_toUpper caseless text)
  | look condition => exact congrArg Plan.keep (lookPlaces_map_toUpper condition none text)
  | seq first second ihFirst ihSecond =>
      rw [plan, plan, ihFirst caseless.1, ihSecond caseless.2]
  | alt left right ihLeft ihRight => rw [plan, plan, ihLeft caseless.1, ihRight caseless.2]
  | rep body least most ih => rw [plan, plan, ih caseless]

/-- An expression that ignores letter case matches a text in upper case exactly if it
matches the text itself. -/
theorem isMatch_map_toUpper {r : Regex} (caseless : r.Caseless) (text : List Char) :
    r.isMatch (text.map Char.toUpper) = r.isMatch text := by
  rw [isMatch, isMatch, plan_map_toUpper caseless, List.length_map]

theorem isMatch_eq_of_toUpper_eq {r : Regex} (caseless : r.Caseless) {left right : List Char}
    (same : left.map Char.toUpper = right.map Char.toUpper) : r.isMatch left = r.isMatch right := by
  rw [← isMatch_map_toUpper caseless left, same, isMatch_map_toUpper caseless]

end SecureSockets.Regex
