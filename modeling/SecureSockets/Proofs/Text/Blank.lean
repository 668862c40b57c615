import Mathlib.Data.List.DropRight
import SecureSockets.Text.Blank

namespace SecureSockets.Text

open Unicode

/-!
# White space at the ends of texts

Values of settings are trimmed before they count, and checks ask whether a text is blank.
Both go by the same characters, which are listed here without the table that the program
looks them up in.  Trimming takes as much as it can from either end: what is left has white
space around it and none at its own ends, and there is only one part of a text like that.
-/

/-- The characters that are white space, by their code points. -/
def WhiteSpace (c : Char) : Prop :=
  (0x09 ≤ c.toNat ∧ c.toNat ≤ 0x0D) ∨ (0x2000 ≤ c.toNat ∧ c.toNat ≤ 0x200A) ∨
    c.toNat ∈ [0x20, 0x85, 0xA0, 0x1680, 0x2028, 0x2029, 0x202F, 0x205F, 0x3000]

def AllWhiteSpace (text : List Char) : Prop :=
  ∀ c ∈ text, WhiteSpace c

/-- A part of a text with white space around it and none at its own ends. -/
structure Trims (text middle : List Char) : Prop where
  framed : ∃ before after, text = before ++ (middle ++ after) ∧ AllWhiteSpace before ∧
    AllWhiteSpace after
  first : ∀ c, middle.head? = some c -> ¬WhiteSpace c
  last : ∀ c, middle.getLast? = some c -> ¬WhiteSpace c

/-- What a value amounts to.  A blank value amounts to nothing, as if it had not been
set. -/
inductive AmountsTo (value : String) : Option String -> Prop where
  | nothing (blank : AllWhiteSpace value.toList) : AmountsTo value none
  | trimmed {middle : String} (trims : Trims value.toList middle.toList) (filled : middle ≠ "") :
      AmountsTo value (some middle)

/-! ## The table -/

/-- A code point lies in one of the stretches that a row lists; every other stretch is a
gap. -/
def InStretches (start : Nat) : List Nat -> Nat -> Prop
  | [], _ => False
  | [inside], code => start ≤ code ∧ code < start + inside
  | inside :: gap :: rest, code =>
    (start ≤ code ∧ code < start + inside) ∨ InStretches (start + inside + gap) rest code

theorem InStretches.start_le {start code : Nat} {numbers : List Nat}
    (within : InStretches start numbers code) : start ≤ code := by
  fun_induction InStretches start numbers code with
  | case1 => exact within.elim
  | case2 => exact within.1
  | case3 start inside gap rest code ih =>
      rcases within with here | later
      · exact here.1
      · have := ih later
        omega

theorem insideAt_iff {start code : Nat} (starts : start ≤ code) (numbers : List Nat) :
    insideAt true numbers (code - start) = true ↔ InStretches start numbers code := by
  fun_induction InStretches start numbers code with
  | case1 => simp [insideAt]
  | case2 start inside code =>
      rw [insideAt, insideAt]
      split_ifs <;> simp <;> omega
  | case3 start inside gap rest code ih =>
      have beyond : code - start - inside - gap = code - (start + inside + gap) := by omega
      rw [insideAt, insideAt, beyond]
      split_ifs with first second
      · exact iff_of_true rfl (Or.inl (by omega))
      · refine iff_of_false (by decide) ?_
        rintro (here | later)
        · omega
        · have := later.start_le
          omega
      · rw [Bool.not_not, ih (by omega)]
        constructor
        · exact Or.inr
        · rintro (here | later)
          · omega
          · exact later

theorem exists_whiteSpace_row : ∃ row, Property.whiteSpace = [row] ∧ row.first = 0x09 ∧
    row.numbers =
      [5, 18, 1, 100, 1, 26, 1, 5599, 1, 2431, 11, 29, 2, 5, 1, 47, 1, 4000, 1] :=
  ⟨_, rfl, rfl, by decide⟩

theorem isBlank_iff (c : Char) : Property.isBlank c = true ↔ WhiteSpace c := by
  rcases exists_whiteSpace_row with ⟨row, table, first, numbers⟩
  unfold Property.isBlank Unicode.contains coveringRow WhiteSpace
  generalize c.toNat = code
  rw [table]
  by_cases starts : 0x09 ≤ code
  · rw [List.takeWhile_cons_of_pos (by simpa [first] using starts)]
    simp only [List.takeWhile_nil, List.getLast?_singleton, first, numbers, insideAt_iff starts,
      InStretches, Nat.reduceAdd, List.mem_cons, List.not_mem_nil, or_false]
    constructor <;> intro listed <;> omega
  · rw [List.takeWhile_cons_of_neg (by simpa [first] using starts)]
    simp only [List.getLast?_nil, Bool.false_eq_true, List.mem_cons, List.not_mem_nil, or_false,
      false_iff]
    omega

theorem isBlank_text_iff (text : List Char) : isBlank text = true ↔ AllWhiteSpace text := by
  simp only [isBlank, List.all_eq_true, isBlank_iff, AllWhiteSpace]

/-! ## Trimming -/

section Trimming

variable {text middle : List Char}

/-- What is left after dropping white space does not begin with white space. -/
theorem not_whiteSpace_of_head? {c : Char}
    (first : (text.dropWhile Property.isBlank).head? = some c) : ¬WhiteSpace c := by
  have notBlank := List.head?_dropWhile_not Property.isBlank text
  rw [first] at notBlank
  rw [← isBlank_iff, notBlank]
  exact Bool.false_ne_true

theorem dropWhile_of_head? (first : ∀ c, text.head? = some c -> ¬WhiteSpace c) :
    text.dropWhile Property.isBlank = text := by
  cases text with
  | nil => rfl
  | cons c rest => exact List.dropWhile_cons_of_neg (mt (isBlank_iff c).mp (first c rfl))

theorem dropWhile_whiteSpace_append {before : List Char} (blank : AllWhiteSpace before) :
    (before ++ text).dropWhile Property.isBlank = text.dropWhile Property.isBlank :=
  List.dropWhile_append_of_pos fun c member => (isBlank_iff c).mpr (blank c member)

theorem trims_trim (text : List Char) : Trims text (trim text) := by
  have ends : trim text = (text.dropWhile Property.isBlank).rdropWhile Property.isBlank := rfl
  constructor
  · refine ⟨text.takeWhile Property.isBlank,
      (text.dropWhile Property.isBlank).rtakeWhile Property.isBlank, ?_, ?_, ?_⟩
    · rw [ends, List.rdropWhile_append_rtakeWhile, List.takeWhile_append_dropWhile]
    · exact fun c member => (isBlank_iff c).mp (List.mem_takeWhile_imp member)
    · exact fun c member => (isBlank_iff c).mp (List.mem_rtakeWhile_imp member)
  · intro c first
    rcases ends ▸ List.rdropWhile_prefix Property.isBlank _ with ⟨after, whole⟩
    refine @not_whiteSpace_of_head? text c ?_
    rw [← whole, List.head?_append, first, Option.some_or]
  · intro c last
    rw [trim, List.getLast?_reverse] at last
    exact not_whiteSpace_of_head? last

/-- Trimming finds the one part of a text with white space around it and none at its ends. -/
theorem trim_eq_iff : trim text = middle ↔ Trims text middle := by
  refine ⟨fun same => same ▸ trims_trim text, ?_⟩
  rintro ⟨⟨before, after, rfl, blankBefore, blankAfter⟩, first, last⟩
  rw [trim, dropWhile_whiteSpace_append blankBefore]
  cases middle with
  | nil =>
      have nothing : (after ++ []).dropWhile Property.isBlank = [] :=
        dropWhile_whiteSpace_append blankAfter
      rw [List.append_nil] at nothing
      rw [List.nil_append, nothing]
      rfl
  | cons c rest =>
      have blankBehind : AllWhiteSpace after.reverse :=
        fun d member => blankAfter d (List.mem_reverse.mp member)
      have stops : (c :: rest ++ after).dropWhile Property.isBlank = c :: rest ++ after :=
        dropWhile_of_head? first
      rw [stops, List.reverse_append, dropWhile_whiteSpace_append blankBehind,
        dropWhile_of_head? (by rwa [List.head?_reverse]), List.reverse_reverse]

theorem trims_nil_iff : Trims text [] ↔ AllWhiteSpace text := by
  constructor
  · rintro ⟨⟨before, after, rfl, blankBefore, blankAfter⟩, -, -⟩
    exact List.forall_mem_append.mpr ⟨blankBefore, blankAfter⟩
  · intro blank
    exact ⟨⟨text, [], by simp, blank, List.forall_mem_nil _⟩, nofun, nofun⟩

/-- Something that is left is not blank. -/
theorem Trims.not_allWhiteSpace (trims : Trims text middle) (filled : middle ≠ []) :
    ¬AllWhiteSpace middle := by
  rcases List.exists_cons_of_ne_nil filled with ⟨c, rest, rfl⟩
  exact fun blank => trims.first c rfl (blank c List.mem_cons_self)

end Trimming

/-- Values are read as what they amount to. -/
theorem trimmed?_eq_iff {value : String} {amount : Option String} :
    trimmed? value = amount ↔ AmountsTo value amount := by
  unfold trimmed?
  constructor
  · rintro rfl
    have trims := trims_trim value.toList
    cases left : trim value.toList with
    | nil =>
        rw [left] at trims
        exact .nothing (trims_nil_iff.mp trims)
    | cons c rest =>
        rw [left] at trims
        refine .trimmed (by rwa [String.toList_ofList]) ?_
        intro empty
        have := congrArg String.toList empty
        rw [String.toList_ofList] at this
        cases this
  · intro amounts
    cases amounts with
    | nothing blank => rw [trim_eq_iff.mpr (trims_nil_iff.mpr blank)]
    | @trimmed middle trims filled =>
        rw [trim_eq_iff.mpr trims]
        split
        · next left => exact absurd (String.toList_eq_nil_iff.mp left) filled
        · rw [String.ofList_toList]

example : trimmed? "\u3000PKIX \t" = some "PKIX" := by decide

end SecureSockets.Text
