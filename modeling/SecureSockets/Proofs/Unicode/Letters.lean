import SecureSockets.Idna.Mapping
import SecureSockets.Unicode.Folding
import SecureSockets.Unicode.Property

namespace SecureSockets

/-!
# ASCII letters in the tables

What the tables of character properties say of the 26 letters of ASCII in their two cases.
Both cases belong to words, neither is a digit or a blank, and each of them is a spelling of
the other.  When a name is mapped, capital letters become small ones.

Decoding a row is what a look-up costs, so the row that covers the letters is named first,
and is then decoded once for all of them.
-/

namespace Unicode

/-- A capital letter, by its place in the alphabet. -/
def capital (n : Nat) : Char := Char.ofNat (65 + n)

def small (n : Nat) : Char := Char.ofNat (97 + n)

theorem toNat_capital : ∀ n < 26, (capital n).toNat = 65 + n := by
  decide

theorem toNat_small : ∀ n < 26, (small n).toNat = 97 + n := by
  decide

/-- Only small letters are changed by making them capitals. -/
theorem toUpper_cases (c : Char) :
    c.toUpper = c ∨ ∃ n < 26, c.toUpper = capital n ∧ c = small n := by
  by_cases isSmall : 'a'.val ≤ c.val ∧ c.val ≤ 'z'.val
  · have bounds : 97 ≤ c.toNat ∧ c.toNat ≤ 122 := isSmall
    have letters : ∀ n < 26, (small n).toUpper = capital n := by decide
    have same : c = small (c.toNat - 97) := by
      rw [small, Nat.add_sub_cancel' bounds.1, Char.ofNat_toNat]
    refine Or.inr ⟨c.toNat - 97, by omega, ?_, same⟩
    rw [← letters _ (by omega), ← same]
  · exact Or.inl (dif_neg isSmall)

/-- What holds of each character and itself, and of the two cases of each letter, holds of a
character and its capital. -/
theorem toUpper_rel {R : Char -> Char -> Prop} (refl : ∀ c, R c c)
    (letters : ∀ n < 26, R (capital n) (small n)) (c : Char) : R c.toUpper c := by
  rcases toUpper_cases c with same | ⟨n, isLetter, upper, lower⟩
  · rw [same]
    exact refl c
  · rw [upper, lower]
    exact letters n isLetter

theorem toUpper_toUpper (c : Char) : c.toUpper.toUpper = c.toUpper :=
  toUpper_rel (R := fun c d => c.toUpper = d.toUpper) (fun _ => rfl) (by decide) c

/-- Only capital letters are changed by making them small. -/
theorem toLower_cases (c : Char) :
    c.toLower = c ∨ ∃ n < 26, c.toLower = small n ∧ c = capital n := by
  by_cases isCapital : 'A'.val ≤ c.val ∧ c.val ≤ 'Z'.val
  · have bounds : 65 ≤ c.toNat ∧ c.toNat ≤ 90 := isCapital
    have letters : ∀ n < 26, (capital n).toLower = small n := by decide
    have same : c = capital (c.toNat - 65) := by
      rw [capital, Nat.add_sub_cancel' bounds.1, Char.ofNat_toNat]
    refine Or.inr ⟨c.toNat - 65, by omega, ?_, same⟩
    rw [← letters _ (by omega), ← same]
  · exact Or.inl (dif_neg isCapital)

theorem toLower_rel {R : Char -> Char -> Prop} (refl : ∀ c, R c c)
    (letters : ∀ n < 26, R (small n) (capital n)) (c : Char) : R c.toLower c := by
  rcases toLower_cases c with same | ⟨n, isLetter, lower, upper⟩
  · rw [same]
    exact refl c
  · rw [lower, upper]
    exact letters n isLetter

/-- Characters are the same in small letters exactly if they are in capitals. -/
theorem toLower_eq_iff_toUpper_eq {c d : Char} : c.toLower = d.toLower ↔ c.toUpper = d.toUpper := by
  have lower (c : Char) : c.toUpper.toLower = c.toLower :=
    toUpper_rel (R := fun c d => c.toLower = d.toLower) (fun _ => rfl) (by decide) c
  have upper (c : Char) : c.toLower.toUpper = c.toUpper :=
    toLower_rel (R := fun c d => c.toUpper = d.toUpper) (fun _ => rfl) (by decide) c
  constructor
  · intro same
    rw [← upper c, same, upper]
  · intro same
    rw [← lower c, same, lower]

/-! ## Rows -/

/-- A row covers a code point if it does not start behind it and the next row does. -/
theorem coveringRow_append {before after : List Row} {row : Row} {code : Nat}
    (earlier : ∀ other ∈ before, other.first ≤ code) (starts : row.first ≤ code)
    (later : ∀ other ∈ after.head?, code < other.first) :
    coveringRow (before ++ row :: after) code = some row := by
  have stops : after.takeWhile (fun other => decide (other.first ≤ code)) = [] := by
    cases after with
    | nil => rfl
    | cons other rest =>
        have behind := later other rfl
        rw [List.takeWhile_cons_of_neg (by simpa using behind)]
  rw [coveringRow, List.takeWhile_append_of_pos (by simpa using earlier),
    List.takeWhile_cons_of_pos (by simpa using starts), stops, List.getLast?_concat]

/-- The row at some place of a table covers all the code points of an interval. -/
theorem coveringRow_eq {rows : List Row} (place lower upper : Nat) (inside : place < rows.length)
    (earlier : ∀ row ∈ rows.take (place + 1), row.first ≤ lower)
    (later : ∀ row ∈ (rows.drop (place + 1)).head?, upper ≤ row.first) {code : Nat}
    (starts : lower ≤ code) (ends : code < upper) : coveringRow rows code = rows[place]? := by
  have whole : rows.take place ++ rows[place] :: rows.drop (place + 1) = rows := by
    rw [List.getElem_cons_drop, List.take_append_drop]
  rw [List.take_succ_eq_append_getElem inside] at earlier
  have covers : coveringRow (rows.take place ++ rows[place] :: rows.drop (place + 1)) code =
      some rows[place] := by
    apply coveringRow_append
    · intro row member
      exact Nat.le_trans (earlier row (List.mem_append_left _ member)) starts
    · exact Nat.le_trans (earlier _ (List.mem_append_right _ List.mem_cons_self)) starts
    · exact fun row member => Nat.lt_of_lt_of_le ends (later row member)
  rwa [whole, ← List.getElem?_eq_getElem inside] at covers

/-! ## Case folding -/

namespace Folding

/-- The spellings of a letter besides its two cases: the sign for kelvin, and the long
s. -/
def further (n : Nat) : List Char :=
  if n = 10 then ['\u212A'] else if n = 18 then ['\u017F'] else []

theorem others_capital {n : Nat} (isLetter : n < 26) :
    others (capital n) = small n :: further n := by
  rw [others, toNat_capital n isLetter, valuesOf]
  by_cases first : n < 18
  · rw [coveringRow_eq 0 65 83 (by decide +kernel) (by decide) (by decide) (by omega) (by omega)]
    revert n
    decide +kernel
  · rw [coveringRow_eq 1 83 107 (by decide +kernel) (by decide) (by decide) (by omega) (by omega)]
    revert n
    decide +kernel

theorem others_small {n : Nat} (isLetter : n < 26) :
    others (small n) = capital n :: further n := by
  rw [others, toNat_small n isLetter, valuesOf]
  by_cases first : n < 10
  · rw [coveringRow_eq 1 83 107 (by decide +kernel) (by decide) (by decide) (by omega) (by omega)]
    revert n
    decide +kernel
  · rw [coveringRow_eq 2 107 192 (by decide +kernel) (by decide) (by decide) (by omega) (by omega)]
    revert n
    decide +kernel

theorem asciiOthers_letters :
    ∀ n < 26, asciiOthers (capital n) = [small n] ∧ asciiOthers (small n) = [capital n] := by
  decide

end Folding

/-! ## Properties -/

namespace Category

theorem of_letters :
    ∀ n < 26, of (capital n) = uppercaseLetter ∧ of (small n) = lowercaseLetter := by
  intro n isLetter
  have row {code : Nat} (ends : code < 172) : coveringRow rows code = rows[0]? :=
    coveringRow_eq 0 0 172 (by decide +kernel) (by decide) (by decide) (Nat.zero_le code) ends
  rw [of, of, toNat_capital n isLetter, toNat_small n isLetter, classOf, classOf,
    row (by omega), row (by omega)]
  revert n
  decide +kernel

end Category

namespace Property

theorem isDigit_letters : ∀ n < 26, isDigit (capital n) = false ∧ isDigit (small n) = false := by
  intro n isLetter
  rw [isDigit, isDigit, (Category.of_letters n isLetter).1, (Category.of_letters n isLetter).2]
  decide

theorem isBlank_letters : ∀ n < 26, isBlank (capital n) = false ∧ isBlank (small n) = false := by
  intro n isLetter
  have row {code : Nat} (starts : 9 ≤ code) (ends : code < 200) :
      coveringRow whiteSpace code = whiteSpace[0]? :=
    coveringRow_eq 0 9 200 (by decide +kernel) (by decide) (by decide) starts ends
  rw [isBlank, isBlank, toNat_capital n isLetter, toNat_small n isLetter, Unicode.contains,
    Unicode.contains, row (by omega) (by omega), row (by omega) (by omega)]
  revert n
  decide +kernel

theorem isAlphabetic_letters :
    ∀ n < 26, isAlphabetic (capital n) = true ∧ isAlphabetic (small n) = true := by
  intro n isLetter
  have row {code : Nat} (starts : 65 ≤ code) (ends : code < 1519) :
      coveringRow alphabetic code = alphabetic[0]? :=
    coveringRow_eq 0 65 1519 (by decide +kernel) (by decide) (by decide) starts ends
  rw [isAlphabetic, isAlphabetic, toNat_capital n isLetter, toNat_small n isLetter,
    Unicode.contains, Unicode.contains, row (by omega) (by omega), row (by omega) (by omega)]
  revert n
  decide +kernel

theorem isWord_letters : ∀ n < 26, isWord (capital n) = true ∧ isWord (small n) = true := by
  intro n isLetter
  rw [isWord, isWord, (isAlphabetic_letters n isLetter).1, (isAlphabetic_letters n isLetter).2]
  exact ⟨rfl, rfl⟩

end Property

end Unicode

/-! ## The mapping of names -/

namespace Idna.Mapping

open Unicode

theorem classOf_letters : ∀ n < 26,
    classOf statusRows (65 + n) = some 3 ∧ classOf statusRows (97 + n) = some 1 := by
  intro n isLetter
  have row {code : Nat} (ends : code < 269) : coveringRow statusRows code = statusRows[0]? :=
    coveringRow_eq 0 0 269 (by decide +kernel) (by decide) (by decide) (Nat.zero_le code) ends
  rw [classOf, classOf, row (by omega), row (by omega)]
  revert n
  decide +kernel

theorem replacement_capital {n : Nat} (isLetter : n < 26) :
    valuesOf replacementRows (65 + n) = some [97 + n] := by
  rw [valuesOf]
  by_cases first : n < 20
  · rw [coveringRow_eq 0 65 85 (by decide +kernel) (by decide) (by decide) (by omega) (by omega)]
    revert n
    decide +kernel
  · rw [coveringRow_eq 1 85 186 (by decide +kernel) (by decide) (by decide) (by omega) (by omega)]
    revert n
    decide +kernel

theorem status_small {n : Nat} (isLetter : n < 26) : status (small n) = .valid := by
  rw [status, toNat_small n isLetter, (classOf_letters n isLetter).2]
  rfl

theorem status_capital {n : Nat} (isLetter : n < 26) : status (capital n) = .mapped [small n] := by
  rw [status, toNat_capital n isLetter, (classOf_letters n isLetter).1,
    replacement_capital isLetter]
  rfl

theorem mapChars_map_toUpper (text : List Char) :
    mapChars (text.map Char.toUpper) = mapChars text := by
  induction text with
  | nil => rfl
  | cons c rest ih =>
      rw [List.map_cons]
      rcases toUpper_cases c with same | ⟨n, isLetter, upper, lower⟩
      · rw [same, mapChars, mapChars, ih]
      · rw [upper, lower, mapChars, mapChars, status_capital isLetter, status_small isLetter, ih]
        rfl

end Idna.Mapping

end SecureSockets
