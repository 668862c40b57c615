import Mathlib.Data.Finset.Card
import Mathlib.Data.Finset.Range
import SecureSockets.Regex.Match

namespace SecureSockets.Regex

/-!
# What an expression matches

A regular expression relates places of a text: it spans from one place to another if
it can match what stands between them.  The relation follows the constructors of
expressions and knows nothing of sets of places.  The matcher does know them, and it
stops a repetition as soon as the set no longer changes.

The theorems here say that nothing is lost by that.  A plan reaches exactly the places
that the expression spans to, so that a search finds a match if there is one anywhere,
and a full match is a span from the first place to the last.
-/

/-- A number of steps of a relation between places. -/
def Copies (step : Nat -> Nat -> Prop) : Nat -> Nat -> Nat -> Prop
  | 0, start, stop => start = stop
  | count + 1, start, stop => ∃ middle, step start middle ∧ Copies step count middle stop

def charBefore (text : List Char) : Nat -> Option Char
  | 0 => none
  | place + 1 => text[place]?

/-- Whether an expression can match what stands between two places of a text.  A
repetition whose bounds contradict each other is read as exactly `least` copies, as the
matcher reads it; patterns with such bounds are not read. -/
def Spans (text : List Char) : Regex -> Nat -> Nat -> Prop
  | .empty, start, stop => start = stop
  | .chars set, start, stop => stop = start + 1 ∧ (text[start]?).any set.contains = true
  | .look condition, start, stop =>
    start = stop ∧ condition.holds (charBefore text start) text[start]? = true
  | .seq first second, start, stop =>
    ∃ middle, Spans text first start middle ∧ Spans text second middle stop
  | .alt left right, start, stop => Spans text left start stop ∨ Spans text right start stop
  | .rep body least most, start, stop =>
    ∃ count, least ≤ count ∧ (∀ bound, most = some bound -> count ≤ max least bound) ∧
      Copies (Spans text body) count start stop

/-- Whether an expression can match the whole of a text. -/
def MatchesWhole (r : Regex) (text : List Char) : Prop :=
  Spans text r 0 text.length

/-! ## Places of single characters and of conditions -/

theorem testBit_charPlaces (test : Char -> Bool) (text : List Char) (place : Nat) :
    (charPlaces test text).testBit place = (text[place]?).any test := by
  induction text generalizing place with
  | nil => simp [charPlaces]
  | cons c rest ih =>
      cases place with
      | zero =>
          by_cases holds : test c = true <;> simp [charPlaces, holds, Nat.testBit_zero]
      | succ place =>
          have half : ((if test c then 1 else 0) + 2 * charPlaces test rest) / 2 =
              charPlaces test rest := by
            split <;> omega
          rw [charPlaces, Nat.testBit_add_one, half, ih]
          simp

/-- The character in front of a place, if another character stands in front of the text.
The matcher walks along the text, and so meets each rest of it with a character before. -/
private def charBeforeFrom (before : Option Char) (text : List Char) : Nat -> Option Char
  | 0 => before
  | place + 1 => text[place]?

private theorem testBit_lookPlaces_from (condition : Look) (before : Option Char)
    (text : List Char) (place : Nat) :
    (lookPlaces condition before text).testBit place =
      (decide (place ≤ text.length) &&
        condition.holds (charBeforeFrom before text place) text[place]?) := by
  induction text generalizing before place with
  | nil =>
      cases place with
      | zero =>
          by_cases holds : condition.holds before none = true <;>
            simp [lookPlaces, charBeforeFrom, holds]
      | succ place =>
          have small : (if condition.holds before none then 1 else 0) / 2 = 0 := by
            split <;> omega
          rw [lookPlaces, Nat.testBit_add_one, small]
          simp
  | cons c rest ih =>
      cases place with
      | zero =>
          by_cases holds : condition.holds before (some c) = true <;>
            simp [lookPlaces, charBeforeFrom, holds]
      | succ place =>
          have half : ((if condition.holds before (some c) then 1 else 0) +
              2 * lookPlaces condition (some c) rest) / 2 = lookPlaces condition (some c) rest := by
            split <;> omega
          rw [lookPlaces, Nat.testBit_add_one, half, ih]
          cases place <;> simp [charBeforeFrom]

theorem testBit_lookPlaces (condition : Look) (text : List Char) (place : Nat) :
    (lookPlaces condition none text).testBit place =
      (decide (place ≤ text.length) &&
        condition.holds (charBefore text place) text[place]?) := by
  rw [testBit_lookPlaces_from]
  cases place <;> rfl

/-! ## Numbers of copies -/

theorem Copies.append {step : Nat -> Nat -> Prop} {first second start middle stop : Nat}
    (before : Copies step first start middle) (after : Copies step second middle stop) :
    Copies step (first + second) start stop := by
  induction first generalizing start with
  | zero =>
      rcases before with rfl : start = middle
      simpa only [Nat.zero_add] using after
  | succ first ih =>
      rcases before with ⟨next, one, rest⟩
      rw [Nat.succ_add]
      exact ⟨next, one, ih rest⟩

theorem Copies.split {step : Nat -> Nat -> Prop} (first : Nat) {second start stop : Nat}
    (copies : Copies step (first + second) start stop) :
    ∃ middle, Copies step first start middle ∧ Copies step second middle stop := by
  induction first generalizing start with
  | zero => exact ⟨start, rfl, by simpa only [Nat.zero_add] using copies⟩
  | succ first ih =>
      rw [Nat.succ_add] at copies
      rcases copies with ⟨next, one, rest⟩
      rcases ih rest with ⟨middle, before, after⟩
      exact ⟨middle, ⟨next, one, before⟩, after⟩

/-! ## Sets of places -/

/-- A set of places that all belong to a text of the given length. -/
def Within (length places : Nat) : Prop :=
  ∀ place, places.testBit place = true -> place ≤ length

def Image (step : Nat -> Nat -> Prop) (places stop : Nat) : Prop :=
  ∃ start, places.testBit start = true ∧ step start stop

/-- A function on sets of places that computes the image under a relation which never
leaves the text. -/
structure Follows (length : Nat) (step : Nat -> Nat) (relation : Nat -> Nat -> Prop) : Prop where
  stays : ∀ {start stop}, start ≤ length -> relation start stop -> stop ≤ length
  testBit_iff : ∀ {places}, Within length places -> ∀ stop,
    (step places).testBit stop = true ↔ Image relation places stop

namespace Follows

variable {length : Nat} {step : Nat -> Nat} {relation : Nat -> Nat -> Prop}

theorem within (follows : Follows length step relation) {places : Nat}
    (inside : Within length places) : Within length (step places) := by
  intro stop member
  rcases (follows.testBit_iff inside stop).mp member with ⟨start, started, related⟩
  exact follows.stays (inside start started) related

theorem copies_stay (follows : Follows length step relation) {count start stop : Nat}
    (inside : start ≤ length) (copies : Copies relation count start stop) : stop ≤ length := by
  induction count generalizing start with
  | zero => exact copies ▸ inside
  | succ count ih =>
      rcases copies with ⟨middle, first, rest⟩
      exact ih (follows.stays inside first) rest

/-- Repeating a step a fixed number of times.  A set that the step maps to itself is
also its image under any number of steps, which justifies stopping early. -/
theorem repeatStep_iff (follows : Follows length step relation) (count : Nat) {places : Nat}
    (inside : Within length places) (stop : Nat) :
    (repeatStep step count places).testBit stop = true ↔
      Image (Copies relation count) places stop := by
  induction count generalizing places with
  | zero =>
      rw [repeatStep]
      constructor
      · intro member
        exact ⟨stop, member, rfl⟩
      · rintro ⟨start, started, same⟩
        exact same ▸ started
  | succ count ih =>
      have unfolded : Image (Copies relation (count + 1)) places stop ↔
          Image (Copies relation count) (step places) stop := by
        constructor
        · rintro ⟨start, started, middle, first, rest⟩
          exact ⟨middle, (follows.testBit_iff inside middle).mpr ⟨start, started, first⟩, rest⟩
        · rintro ⟨middle, reached, rest⟩
          rcases (follows.testBit_iff inside middle).mp reached with ⟨start, started, first⟩
          exact ⟨start, started, middle, first, rest⟩
      rw [unfolded]
      simp only [repeatStep]
      by_cases fixed : step places = places
      · rw [if_pos fixed, fixed, ← ih inside]
        clear unfolded ih
        induction count with
        | zero => rfl
        | succ count ih => rw [repeatStep, if_pos fixed]
      · rw [if_neg fixed]
        exact ih (follows.within inside)

/-- A round of collecting adds the image of what is there. -/
theorem testBit_or_iff (follows : Follows length step relation) {places : Nat}
    (inside : Within length places) (place : Nat) :
    (places ||| step places).testBit place = true ↔
      places.testBit place = true ∨ Image relation places place := by
  rw [Nat.testBit_or, Bool.or_eq_true, follows.testBit_iff inside]

theorem within_or (follows : Follows length step relation) {places : Nat}
    (inside : Within length places) : Within length (places ||| step places) := by
  intro place member
  rw [Nat.testBit_or, Bool.or_eq_true] at member
  exact member.elim (inside place) (follows.within inside place)

/-- A set that a round of collecting leaves as it is contains whatever any number of
steps leads to. -/
theorem testBit_of_copies (follows : Follows length step relation) {places : Nat}
    (inside : Within length places) (fixed : places ||| step places = places)
    {count start stop : Nat} (started : places.testBit start = true)
    (copies : Copies relation count start stop) : places.testBit stop = true := by
  induction count generalizing start with
  | zero => exact copies ▸ started
  | succ count ih =>
      rcases copies with ⟨middle, first, rest⟩
      refine ih ?_ rest
      rw [← fixed]
      exact (follows.testBit_or_iff inside middle).mpr (Or.inr ⟨start, started, first⟩)

theorem collectSteps_iff (follows : Follows length step relation) (count : Nat) {places : Nat}
    (inside : Within length places) (stop : Nat) :
    (collectSteps step count places).testBit stop = true ↔
      ∃ extra, extra ≤ count ∧ Image (Copies relation extra) places stop := by
  induction count generalizing places with
  | zero =>
      rw [collectSteps]
      constructor
      · intro member
        exact ⟨0, Nat.le_refl 0, stop, member, rfl⟩
      · rintro ⟨extra, none_left, start, started, copies⟩
        rcases Nat.le_zero.mp none_left with rfl
        exact copies ▸ started
  | succ count ih =>
      simp only [collectSteps]
      by_cases fixed : places ||| step places = places
      · rw [if_pos fixed]
        constructor
        · intro member
          exact ⟨0, Nat.zero_le _, stop, member, rfl⟩
        · rintro ⟨extra, -, start, started, copies⟩
          exact follows.testBit_of_copies inside fixed started copies
      · have joined := follows.testBit_or_iff inside
        rw [if_neg fixed, ih (follows.within_or inside)]
        constructor
        · rintro ⟨extra, bounded, start, started, copies⟩
          rcases (joined start).mp started with old | ⟨origin, member, first⟩
          · exact ⟨extra, Nat.le_succ_of_le bounded, start, old, copies⟩
          · exact ⟨extra + 1, Nat.succ_le_succ bounded, origin, member, start, first, copies⟩
        · rintro ⟨extra, bounded, start, started, copies⟩
          cases extra with
          | zero => exact ⟨0, Nat.zero_le _, start, (joined start).mpr (Or.inl started), copies⟩
          | succ extra =>
              rcases copies with ⟨middle, first, rest⟩
              exact ⟨extra, Nat.le_of_succ_le_succ bounded, middle,
                (joined middle).mpr (Or.inr ⟨start, started, first⟩), rest⟩

/-- The places of a text that are not in a set.  Their number falls with every round of a
repetition that reaches a new place, which bounds the rounds that are needed. -/
private def missing (length places : Nat) : Finset Nat :=
  (Finset.range (length + 1)).filter fun place => places.testBit place = false

/-- Once there are as many rounds as places to win, the collected set is closed: each
round that changes the set wins a place for good. -/
private theorem collectSteps_closed (follows : Follows length step relation) (count : Nat)
    {places : Nat} (inside : Within length places)
    (enough : (missing length places).card ≤ count) {start stop : Nat}
    (started : (collectSteps step count places).testBit start = true)
    (related : relation start stop) :
    (collectSteps step count places).testBit stop = true := by
  induction count generalizing places with
  | zero =>
      have full : missing length places = ∅ :=
        Finset.card_eq_zero.mp (Nat.le_zero.mp enough)
      rw [collectSteps] at started ⊢
      by_contra absent
      have member : stop ∈ missing length places := by
        have bound := follows.stays (inside start started) related
        simp only [missing, Finset.mem_filter, Finset.mem_range]
        exact ⟨Nat.lt_succ_of_le bound, by simpa using absent⟩
      rw [full] at member
      exact absurd member (Finset.notMem_empty stop)
  | succ count ih =>
      simp only [collectSteps] at started ⊢
      by_cases fixed : places ||| step places = places
      · rw [if_pos fixed] at started ⊢
        rw [← fixed, Nat.testBit_or, Bool.or_eq_true]
        exact Or.inr ((follows.testBit_iff inside stop).mpr ⟨start, started, related⟩)
      · rw [if_neg fixed] at started ⊢
        refine ih (follows.within_or inside)
          (Nat.le_of_lt_succ (Nat.lt_of_lt_of_le ?_ enough)) started
        apply Finset.card_lt_card
        refine Finset.ssubset_iff_of_subset ?_ |>.mpr ?_
        · intro place member
          simp only [missing, Finset.mem_filter, Nat.testBit_or, Bool.or_eq_false_iff] at member ⊢
          exact ⟨member.1, member.2.1⟩
        · rcases Nat.exists_testBit_ne_of_ne fixed with ⟨place, differs⟩
          rw [Nat.testBit_or] at differs
          have absent : places.testBit place = false := by
            cases old : places.testBit place with
            | false => rfl
            | true => exact absurd (by simp [old]) differs
          have won : (step places).testBit place = true := by
            simpa [absent] using differs
          have bound := follows.within inside place won
          refine ⟨place, ?_, ?_⟩
          · simp only [missing, Finset.mem_filter, Finset.mem_range]
            exact ⟨Nat.lt_succ_of_le bound, absent⟩
          · simp [missing, won]

/-- Without an upper bound, as many rounds as the text has places are enough. -/
theorem collectSteps_all_iff (follows : Follows length step relation) {places : Nat}
    (inside : Within length places) (stop : Nat) :
    (collectSteps step (length + 1) places).testBit stop = true ↔
      ∃ extra, Image (Copies relation extra) places stop := by
  constructor
  · intro member
    rcases (follows.collectSteps_iff (length + 1) inside stop).mp member with ⟨extra, -, image⟩
    exact ⟨extra, image⟩
  · rintro ⟨extra, start, started, copies⟩
    have few : (missing length places).card ≤ length + 1 := by
      refine Nat.le_trans (Finset.card_filter_le _ _) ?_
      rw [Finset.card_range]
    have begun : (collectSteps step (length + 1) places).testBit start = true :=
      (follows.collectSteps_iff (length + 1) inside start).mpr
        ⟨0, Nat.zero_le _, start, started, rfl⟩
    clear started
    induction extra generalizing start with
    | zero => exact copies ▸ begun
    | succ extra ih =>
        rcases copies with ⟨middle, first, rest⟩
        exact ih middle rest (follows.collectSteps_closed (length + 1) inside few begun first)

/-! ### Steps made of steps -/

theorem congr {relation' : Nat -> Nat -> Prop} (follows : Follows length step relation)
    (same : ∀ start stop, relation start stop ↔ relation' start stop) :
    Follows length step relation' := by
  have equal : relation = relation' := funext fun start => funext fun stop =>
    propext (same start stop)
  exact equal ▸ follows

theorem stay : Follows length (fun places => places) (fun start stop => start = stop) where
  stays := fun inside same => same ▸ inside
  testBit_iff := fun _ stop =>
    ⟨fun member => ⟨stop, member, rfl⟩, fun ⟨_, started, same⟩ => same ▸ started⟩

section Combined

variable {first second : Nat -> Nat} {before after : Nat -> Nat -> Prop}

theorem seq (firstFollows : Follows length first before)
    (secondFollows : Follows length second after) :
    Follows length (fun places => second (first places))
      (fun start stop => ∃ middle, before start middle ∧ after middle stop) where
  stays := fun inside ⟨_, one, other⟩ =>
    secondFollows.stays (firstFollows.stays inside one) other
  testBit_iff := by
    intro places inside stop
    rw [secondFollows.testBit_iff (firstFollows.within inside)]
    constructor
    · rintro ⟨middle, reached, other⟩
      rcases (firstFollows.testBit_iff inside middle).mp reached with ⟨start, started, one⟩
      exact ⟨start, started, middle, one, other⟩
    · rintro ⟨start, started, middle, one, other⟩
      exact ⟨middle, (firstFollows.testBit_iff inside middle).mpr ⟨start, started, one⟩, other⟩

theorem alt (firstFollows : Follows length first before)
    (secondFollows : Follows length second after) :
    Follows length (fun places => first places ||| second places)
      (fun start stop => before start stop ∨ after start stop) where
  stays := fun inside spans =>
    spans.elim (firstFollows.stays inside) (secondFollows.stays inside)
  testBit_iff := by
    intro places inside stop
    rw [Nat.testBit_or, Bool.or_eq_true, firstFollows.testBit_iff inside,
      secondFollows.testBit_iff inside]
    constructor
    · rintro (⟨start, started, spans⟩ | ⟨start, started, spans⟩)
      · exact ⟨start, started, Or.inl spans⟩
      · exact ⟨start, started, Or.inr spans⟩
    · rintro ⟨start, started, spans | spans⟩
      · exact Or.inl ⟨start, started, spans⟩
      · exact Or.inr ⟨start, started, spans⟩

end Combined

theorem repeated (follows : Follows length step relation) (count : Nat) :
    Follows length (repeatStep step count) (Copies relation count) where
  stays := follows.copies_stay
  testBit_iff := follows.repeatStep_iff count

theorem collected (follows : Follows length step relation) (count : Nat) :
    Follows length (collectSteps step count)
      (fun start stop => ∃ extra, extra ≤ count ∧ Copies relation extra start stop) where
  stays := fun inside ⟨_, _, copies⟩ => follows.copies_stay inside copies
  testBit_iff := by
    intro places inside stop
    rw [follows.collectSteps_iff count inside]
    constructor
    · rintro ⟨extra, few, start, started, copies⟩
      exact ⟨start, started, extra, few, copies⟩
    · rintro ⟨start, started, extra, few, copies⟩
      exact ⟨extra, few, start, started, copies⟩

theorem collectedAll (follows : Follows length step relation) :
    Follows length (collectSteps step (length + 1))
      (fun start stop => ∃ extra, Copies relation extra start stop) where
  stays := fun inside ⟨_, copies⟩ => follows.copies_stay inside copies
  testBit_iff := by
    intro places inside stop
    rw [follows.collectSteps_all_iff inside]
    constructor
    · rintro ⟨extra, start, started, copies⟩
      exact ⟨start, started, extra, copies⟩
    · rintro ⟨start, started, extra, copies⟩
      exact ⟨extra, start, started, copies⟩

end Follows

/-! ## Plans reach what expressions span -/

/-- Moving on by one character from the places in front of the members of a set. -/
theorem follows_charPlaces (text : List Char) (set : CharSet) :
    Follows text.length (fun places => (places &&& charPlaces set.contains text) <<< 1)
      (Spans text (.chars set)) where
  stays := by
    rintro start stop - ⟨next, member⟩
    rcases Option.any_eq_true_iff_get _ _ |>.mp member with ⟨present, -⟩
    have := (List.getElem?_eq_some_iff.mp (Option.eq_some_iff_get_eq.mpr ⟨present, rfl⟩)).1
    omega
  testBit_iff := by
    intro places _ stop
    simp only [Nat.testBit_shiftLeft, Nat.testBit_and, testBit_charPlaces, Bool.and_eq_true,
      decide_eq_true_eq]
    constructor
    · rintro ⟨positive, started, member⟩
      exact ⟨stop - 1, started, by omega, member⟩
    · rintro ⟨start, started, rfl, member⟩
      exact ⟨Nat.le_add_left 1 start, by simpa using started, by simpa using member⟩

theorem follows_lookPlaces (text : List Char) (condition : Look) :
    Follows text.length (fun places => places &&& lookPlaces condition none text)
      (Spans text (.look condition)) where
  stays := fun inside spans => spans.1 ▸ inside
  testBit_iff := by
    intro places inside stop
    simp only [Nat.testBit_and, testBit_lookPlaces, Bool.and_eq_true, decide_eq_true_eq]
    constructor
    · rintro ⟨started, -, holds⟩
      exact ⟨stop, started, rfl, holds⟩
    · rintro ⟨start, started, rfl, holds⟩
      exact ⟨started, inside start started, holds⟩

/-- The matcher counts the copies up to the lower bound and the copies beyond it apart. -/
theorem copies_beyond_iff (step : Nat -> Nat -> Prop) (least start stop : Nat)
    (allowed : Nat -> Prop) :
    (∃ middle, Copies step least start middle ∧
        ∃ extra, allowed extra ∧ Copies step extra middle stop) ↔
      ∃ count, least ≤ count ∧ allowed (count - least) ∧ Copies step count start stop := by
  constructor
  · rintro ⟨middle, before, extra, fine, after⟩
    refine ⟨least + extra, Nat.le_add_right _ _, ?_, before.append after⟩
    rwa [Nat.add_sub_cancel_left]
  · rintro ⟨count, enough, fine, copies⟩
    rw [← Nat.add_sub_cancel' enough] at copies
    rcases copies.split least with ⟨middle, before, after⟩
    exact ⟨middle, before, count - least, fine, after⟩

/-- The plan of an expression computes the image under the spans of the expression. -/
theorem follows_reach (text : List Char) (r : Regex) :
    Follows text.length ((plan text r).reach (text.length + 1)) (Spans text r) := by
  induction r with
  | empty => exact .stay
  | chars set => exact follows_charPlaces text set
  | look condition => exact follows_lookPlaces text condition
  | seq first second firstIH secondIH => exact firstIH.seq secondIH
  | alt left right leftIH rightIH => exact leftIH.alt rightIH
  | rep body least most bodyIH =>
      have started := bodyIH.repeated least
      cases most with
      | none =>
          apply (started.seq bodyIH.collectedAll).congr
          intro start stop
          have counts := copies_beyond_iff (Spans text body) least start stop fun _ => True
          simp only [true_and] at counts
          rw [counts]
          simp [Spans]
      | some bound =>
          apply (started.seq (bodyIH.collected (bound - least))).congr
          intro start stop
          rw [copies_beyond_iff (Spans text body) least start stop fun extra =>
            extra ≤ bound - least]
          have fits : ∀ count, least ≤ count ->
              (count - least ≤ bound - least ↔ count ≤ max least bound) := by omega
          simp only [Spans, Option.some.injEq, forall_eq']
          exact exists_congr fun count => and_congr_right fun enough =>
            and_congr_left' (fits count enough)

/-! ## Searches -/

theorem isMatch_iff (r : Regex) (text : List Char) :
    isMatch r text = true ↔ ∃ start stop, start ≤ text.length ∧ Spans text r start stop := by
  have everywhere : ∀ place, (Nat.pow 2 (text.length + 1) - 1).testBit place = true ↔
      place ≤ text.length := by
    intro place
    have bits : (Nat.pow 2 (text.length + 1) - 1).testBit place =
        decide (place < text.length + 1) := Nat.testBit_two_pow_sub_one ..
    rw [bits, decide_eq_true_eq, Nat.lt_succ_iff]
  have follows := follows_reach text r
  have inside : Within text.length (Nat.pow 2 (text.length + 1) - 1) :=
    fun place member => (everywhere place).mp member
  simp only [isMatch, bne_iff_ne]
  constructor
  · intro someEnd
    rcases Nat.exists_testBit_of_ne_zero someEnd with ⟨stop, reached⟩
    rcases (follows.testBit_iff inside stop).mp reached with ⟨start, started, spans⟩
    exact ⟨start, stop, (everywhere start).mp started, spans⟩
  · rintro ⟨start, stop, started, spans⟩ nowhere
    have reached := (follows.testBit_iff inside stop).mpr
      ⟨start, (everywhere start).mpr started, spans⟩
    rw [nowhere, Nat.zero_testBit] at reached
    exact Bool.false_ne_true reached

/-- An expression between the two ends of the text. -/
def anchored (r : Regex) : Regex :=
  .seq (.look .textStart) (.seq r (.look .textEnd))

/-- Between the two ends of the text, searching for a match is matching the whole. -/
theorem isMatch_anchored_iff (r : Regex) (text : List Char) :
    isMatch (anchored r) text = true ↔ MatchesWhole r text := by
  rw [isMatch_iff]
  constructor
  · rintro ⟨start, stop, started, _, ⟨rfl, atStart⟩, middle, spans, rfl, atEnd⟩
    have first : start = 0 := by
      cases start with
      | zero => rfl
      | succ start =>
          have character : text[start]? = none := by simpa [Look.holds, charBefore] using atStart
          have := List.getElem?_eq_none_iff.mp character
          omega
    have last : middle = text.length := by
      have nothing : text[middle]? = none := by simpa [Look.holds] using atEnd
      have stays := (follows_reach text r).stays started spans
      exact Nat.le_antisymm stays (List.getElem?_eq_none_iff.mp nothing)
    rw [MatchesWhole, ← first, ← last]
    exact spans
  · intro whole
    refine ⟨0, text.length, Nat.zero_le _, 0, ⟨rfl, rfl⟩, text.length, whole, rfl, ?_⟩
    simp [Look.holds]

end SecureSockets.Regex
