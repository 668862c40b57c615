import SecureSockets.Proofs.Regex.Closing
import SecureSockets.Regex.Parse

namespace SecureSockets.Regex

open Unicode

/-!
# Reading repetitions in front of a closing

The numbers of a repetition stand in braces.  A closing has neither digits nor a brace,
so that a repetition which the pattern has not completed is not completed by a closing.
-/

/-! ## Numbers -/

theorem readDigits_suffix (flags : Flags) (fuel : Nat) (value : Option Nat) (text : List Char) :
    (readDigits flags fuel value text).2 <:+ text := by
  induction fuel generalizing value text with
  | zero => exact List.suffix_rfl
  | succ fuel ih =>
      cases text with
      | nil => exact List.suffix_rfl
      | cons c text =>
          simp only [readDigits]
          split
          · exact (ih _ _).trans ((skip_suffix flags text).trans (List.suffix_cons c text))
          · exact List.suffix_rfl

theorem readDigits_nil (flags : Flags) (fuel : Nat) (value : Option Nat) :
    readDigits flags fuel value [] = (value, []) := by
  cases fuel <;> rfl

theorem readDigits_agrees (flags : Flags) (fuel : Nat) (fuel' : List Char -> Nat)
    (value : Option Nat) (text : List Char) (enough : text.length < fuel)
    (enough' : ∀ s, Closing s -> text.length + s.length < fuel' s) :
    Agrees Beyond (some (readDigits flags fuel value text))
      fun s => some (readDigits flags (fuel' s) value (text ++ s)) := by
  induction fuel generalizing fuel' value text with
  | zero => exact absurd enough (Nat.not_lt_zero _)
  | succ fuel ih =>
      have spent : ∀ s, Closing s -> fuel' s = (fuel' s - 1) + 1 := by
        intro s closing
        have := enough' s closing
        omega
      cases text with
      | nil =>
          refine .kept value [] rfl fun s closing => ?_
          rw [spent s closing]
          rcases closing.exists_eq_cons with ⟨after, rfl⟩
          rfl
      | cons c text =>
          by_cases digit : c.isDigit
          · have shorter := length_skip_le flags text
            have rest := ih (fun s => fuel' s - 1) (some (value.getD 0 * 10 + (c.toNat - 48)))
              (flags.skip text) (by simp only [List.length_cons] at enough; omega) (by
                intro s closing
                have := enough' s closing
                simp only [List.length_cons] at this
                omega)
            apply Agrees.congr (fun s => some (readDigits flags (fuel' s - 1)
              (some (value.getD 0 * 10 + (c.toNat - 48))) (flags.skip (text ++ s))))
            · simp only [readDigits, digit, if_true]
              apply Agrees.skip (fun rest => some (readDigits flags fuel _ rest))
                (fun s rest => some (readDigits flags (fuel' s - 1) _ rest)) rest
              simp only [readDigits_nil]
              exact .hidden _ rfl fun _ _ => rfl
            · intro s closing
              rw [spent s closing]
              simp only [List.cons_append, readDigits, digit, if_true, Nat.add_sub_cancel]
          · refine .kept value (c :: text) ?_ fun s closing => ?_
            · simp [readDigits, digit]
            · rw [spent s closing]
              simp [readDigits, digit]

theorem readCount_suffix (flags : Flags) (text : List Char) :
    (readCount flags text).2 <:+ text := by
  have digits := readDigits_suffix flags (text.length + 1) none (text.dropWhile Property.isBlank)
  exact (List.dropWhile_suffix _).trans (digits.trans (List.dropWhile_suffix _))

theorem readCount_agrees (flags : Flags) (text : List Char) :
    Agrees Beyond (some (readCount flags text)) fun s => some (readCount flags (text ++ s)) := by
  have digits := readDigits_agrees flags (text.length + 1) (fun s => (text ++ s).length + 1) none
    (text.dropWhile Property.isBlank)
    (Nat.lt_succ_of_le (List.dropWhile_suffix _).length_le) (by
      intro s _
      have := (List.dropWhile_suffix (l := text) Property.isBlank).length_le
      rw [List.length_append]
      omega)
  -- A count that is too great is as good as none.
  let bounded (value : Option Nat) := value.filter fun value => decide (value < countBound)
  apply Agrees.congr (fun s =>
    (some (readDigits flags ((text ++ s).length + 1) none
      (text.dropWhile Property.isBlank ++ s))).bind fun p =>
        some (bounded p.1, p.2.dropWhile Property.isBlank))
  · apply digits.bind (fun p => some (bounded p.1, p.2.dropWhile Property.isBlank))
      (fun _ p => some (bounded p.1, p.2.dropWhile Property.isBlank))
    · intro value rest
      refine .kept (bounded value) (rest.dropWhile Property.isBlank) rfl fun s closing => ?_
      rw [dropWhile_isBlank_append rest closing]
    · exact fun value => .hidden (bounded value) rfl fun _ _ => rfl
    · intro s _ value rest short y rest' reads
      cases reads
      exact Nat.lt_of_le_of_lt (List.dropWhile_suffix _).length_le short
  · intro s closing
    rw [← dropWhile_isBlank_append text closing]
    rfl

def readMost (flags : Flags) (least : Nat) (text : List Char) :
    Option ((Nat × Option Nat) × List Char) :=
  if text.head? = some '\x7d' then some ((least, none), text.tail)
  else
    (some (readCount flags text)).bind fun p =>
      (p.1.filter fun most => decide (least ≤ most)).bind fun most =>
        if p.2.head? = some '\x7d' then some ((least, some most), p.2.tail) else none

def readSecond (flags : Flags) (least : Nat) (text : List Char) :
    Option ((Nat × Option Nat) × List Char) :=
  if text.head? = some '\x7d' then some ((least, some least), text.tail)
  else if text.head? = some ',' then readMost flags least (flags.skip text.tail)
  else none

/-- The numbers of a repetition, with what is left over set apart. -/
def readBounds (flags : Flags) (text : List Char) : Option ((Nat × Option Nat) × List Char) :=
  (readCounts flags text).map fun p => ((p.1, p.2.1), p.2.2)

theorem readBounds_eq (flags : Flags) (text : List Char) :
    readBounds flags text =
      (some (readCount flags (flags.skip text))).bind fun p =>
        p.1.bind fun least => readSecond flags least p.2 := by
  unfold readBounds readCounts
  rw [Option.bind_some]
  rcases readCount flags (flags.skip text) with ⟨first, rest⟩
  rcases first with _ | least
  · rfl
  rcases rest with _ | ⟨c, rest⟩
  · rfl
  by_cases brace : c = '\x7d'
  · subst brace
    rfl
  by_cases comma : c = ','
  · subst comma
    have second : readSecond flags least (',' :: rest) =
        readMost flags least (flags.skip rest) := by
      simp [readSecond]
    simp only [Option.bind_some, second]
    generalize flags.skip rest = rest
    unfold readMost
    rcases rest with _ | ⟨d, rest⟩
    · rfl
    by_cases brace : d = '\x7d'
    · subst brace
      rfl
    simp only [List.head?_cons, Option.some.injEq, brace, if_false]
    split
    · next same => exact absurd (List.cons.inj same).1 brace
    · rcases readCount flags (d :: rest) with ⟨most, rest⟩
      rcases most with _ | most
      · rfl
      rcases rest with _ | ⟨e, rest⟩
      · simp
      · by_cases brace : e = '\x7d' <;> by_cases ordered : least ≤ most <;>
          simp [brace, ordered, Option.filter_some]
  · simp [readSecond, brace, comma]

theorem readMost_suffix (flags : Flags) {least : Nat} {x : Nat × Option Nat}
    {text rest : List Char} (reads : readMost flags least text = some (x, rest)) :
    rest <:+ text := by
  unfold readMost at reads
  split at reads
  · cases reads
    exact List.tail_suffix text
  · rw [Option.bind_some] at reads
    rcases Option.bind_eq_some_iff.mp reads with ⟨_, -, reads⟩
    split at reads
    · cases reads
      exact (List.tail_suffix _).trans (readCount_suffix flags text)
    · cases reads

theorem readSecond_suffix (flags : Flags) {least : Nat} {x : Nat × Option Nat}
    {text rest : List Char} (reads : readSecond flags least text = some (x, rest)) :
    rest <:+ text := by
  unfold readSecond at reads
  split at reads
  · cases reads
    exact List.tail_suffix text
  · split at reads
    · have behind := (skip_suffix flags text.tail).trans (List.tail_suffix text)
      exact (readMost_suffix flags reads).trans behind
    · cases reads

theorem readBounds_suffix (flags : Flags) {x : Nat × Option Nat} {text rest : List Char}
    (reads : readBounds flags text = some (x, rest)) : rest <:+ text := by
  rw [readBounds_eq, Option.bind_some] at reads
  rcases Option.bind_eq_some_iff.mp reads with ⟨_, -, reads⟩
  have count := readCount_suffix flags (flags.skip text)
  exact (readSecond_suffix flags reads).trans (count.trans (skip_suffix flags text))

/-- The brace that ends a repetition, which no closing holds. -/
theorem closedBrace_agrees {β : Type} (x : β) (text : List Char) :
    Agrees Beyond (if text.head? = some '\x7d' then some (x, text.tail) else none)
      fun s => if (text ++ s).head? = some '\x7d' then some (x, (text ++ s).tail) else none := by
  by_cases brace : text.head? = some '\x7d'
  · rcases List.head?_eq_some_iff.mp brace with ⟨rest, rfl⟩
    exact .kept x rest rfl fun _ _ => rfl
  · rw [if_neg brace]
    exact .none fun s closing => if_neg (head?_append_closing closing (by decide) brace)

theorem readMost_agrees (flags : Flags) (least : Nat) (text : List Char) :
    Agrees Beyond (readMost flags least text) fun s => readMost flags least (text ++ s) := by
  by_cases brace : text.head? = some '\x7d'
  · rcases List.head?_eq_some_iff.mp brace with ⟨rest, rfl⟩
    exact .kept (least, none) rest rfl fun _ _ => rfl
  · let close (p : Option Nat × List Char) :=
      (p.1.filter fun most => decide (least ≤ most)).bind fun most =>
        if p.2.head? = some '\x7d' then some ((least, some most), p.2.tail) else none
    have counted : ∀ text : List Char, text.head? ≠ some '\x7d' ->
        readMost flags least text = (some (readCount flags text)).bind close :=
      fun text brace => if_neg brace
    have closeSuffix : ∀ {most : Option Nat} {rest rest' : List Char} {y : Nat × Option Nat},
        close (most, rest) = some (y, rest') -> rest' <:+ rest := by
      intro most rest rest' y reads
      rcases Option.bind_eq_some_iff.mp reads with ⟨_, -, reads⟩
      split at reads
      · cases reads
        exact List.tail_suffix rest
      · cases reads
    rw [counted text brace]
    apply Agrees.congr (fun s => (some (readCount flags (text ++ s))).bind close)
    · apply (readCount_agrees flags text).bind close fun _ => close
      · intro most rest
        simp only [close]
        cases most.filter fun most => decide (least ≤ most) with
        | none => exact .none fun _ _ => rfl
        | some most => exact closedBrace_agrees (least, some most) rest
      · exact fun most => .nothing fun y rest' reads => List.suffix_nil.mp (closeSuffix reads)
      · intro s _ most rest short y rest' reads
        exact Nat.lt_of_le_of_lt (closeSuffix reads).length_le short
    · exact fun s closing =>
        counted (text ++ s) (head?_append_closing closing (by decide) brace)

theorem readSecond_agrees (flags : Flags) (least : Nat) (text : List Char) :
    Agrees Beyond (readSecond flags least text) fun s => readSecond flags least (text ++ s) := by
  by_cases brace : text.head? = some '\x7d'
  · rcases List.head?_eq_some_iff.mp brace with ⟨rest, rfl⟩
    exact .kept (least, some least) rest rfl fun _ _ => rfl
  · by_cases comma : text.head? = some ','
    · rcases List.head?_eq_some_iff.mp comma with ⟨rest, rfl⟩
      have most : ∀ rest, readSecond flags least (',' :: rest) =
          readMost flags least (flags.skip rest) := by
        intro rest
        simp [readSecond]
      rw [most]
      apply Agrees.congr (fun s => readMost flags least (flags.skip (rest ++ s)))
      · apply Agrees.skip (readMost flags least) fun _ => readMost flags least
        · exact readMost_agrees flags least _
        · exact .none fun _ _ => rfl
      · exact fun s _ => most (rest ++ s)
    · have refused : ∀ text : List Char, text.head? ≠ some '\x7d' -> text.head? ≠ some ',' ->
          readSecond flags least text = none := by
        intro text noBrace noComma
        unfold readSecond
        rw [if_neg noBrace, if_neg noComma]
      rw [refused text brace comma]
      apply Agrees.none
      intro s closing
      exact refused (text ++ s) (head?_append_closing closing (by decide) brace)
        (head?_append_closing closing (by decide) comma)

theorem readBounds_agrees (flags : Flags) (text : List Char) :
    Agrees Beyond (readBounds flags text) fun s => readBounds flags (text ++ s) := by
  simp only [readBounds_eq]
  have count : Agrees Beyond (some (readCount flags (flags.skip text)))
      fun s => some (readCount flags (flags.skip (text ++ s))) := by
    apply Agrees.skip (fun text => some (readCount flags text))
      fun _ text => some (readCount flags text)
    · exact readCount_agrees flags _
    · exact .hidden none rfl fun _ _ => rfl
  apply count.bind (fun p => p.1.bind fun least => readSecond flags least p.2)
    fun _ p => p.1.bind fun least => readSecond flags least p.2
  · intro first rest
    cases first with
    | none => exact .none fun _ _ => rfl
    | some least => exact readSecond_agrees flags least rest
  · intro first
    cases first with
    | none => exact .none fun _ _ => rfl
    | some least => exact .none fun _ _ => rfl
  · intro s _ first rest short x rest' reads
    rcases Option.bind_eq_some_iff.mp reads with ⟨least, -, second⟩
    exact Nat.lt_of_le_of_lt (readSecond_suffix flags second).length_le short

theorem dropLazyMark_suffix (text : List Char) : dropLazyMark text <:+ text := by
  unfold dropLazyMark
  split
  · exact List.suffix_cons _ _
  · exact List.suffix_rfl

theorem dropLazyMark_append (text : List Char) {s : List Char} (closing : Closing s) :
    dropLazyMark (text ++ s) = dropLazyMark text ++ s := by
  by_cases mark : text.head? = some '?'
  · rcases List.head?_eq_some_iff.mp mark with ⟨rest, rfl⟩
    rfl
  · have unmarked : ∀ {text : List Char}, text.head? ≠ some '?' -> dropLazyMark text = text := by
      intro text noMark
      unfold dropLazyMark
      split
      · exact absurd rfl noMark
      · rfl
    rw [unmarked mark, unmarked (head?_append_closing closing (by decide) mark)]

namespace Reader

/-- The reader behind a repetition in braces. -/
def repeatBounds (reader : Reader) (text : List Char) : Option (Reader × List Char) :=
  (readBounds reader.flags text).bind fun p =>
    (reader.repeatLast p.1.1 p.1.2).map (·, dropLazyMark (reader.flags.skip p.2))

theorem repeatBounds_suffix (reader : Reader) {reader' : Reader} {text rest : List Char}
    (reads : reader.repeatBounds text = some (reader', rest)) : rest <:+ text := by
  rcases Option.bind_eq_some_iff.mp reads with ⟨⟨_, left⟩, bounds, reads⟩
  rcases Option.map_eq_some_iff.mp reads with ⟨_, -, same⟩
  cases same
  have marked := (dropLazyMark_suffix (reader.flags.skip left)).trans (skip_suffix _ left)
  exact marked.trans (readBounds_suffix reader.flags bounds)

theorem repeatBounds_agrees (reader : Reader) (text : List Char) :
    Agrees Beyond (reader.repeatBounds text) fun s => reader.repeatBounds (text ++ s) := by
  let close (bounds : Nat × Option Nat) (rest : List Char) : Option (Reader × List Char) :=
    (reader.repeatLast bounds.1 bounds.2).map (·, dropLazyMark rest)
  have closed : ∀ bounds rest, Agrees Beyond (close bounds (reader.flags.skip rest))
      fun s => close bounds (reader.flags.skip (rest ++ s)) := by
    intro bounds rest
    apply Agrees.skip (close bounds) fun _ => close bounds
    · simp only [close]
      cases reader.repeatLast bounds.1 bounds.2 with
      | none => exact .none fun _ _ => rfl
      | some repeated =>
          refine .kept repeated _ rfl fun s closing => ?_
          rw [dropLazyMark_append _ closing]
          rfl
    · apply Agrees.nothing
      intro repeated left reads
      rcases Option.map_eq_some_iff.mp reads with ⟨_, -, same⟩
      cases same
      rfl
  apply (readBounds_agrees reader.flags text).bind
    (fun p => close p.1 (reader.flags.skip p.2)) fun _ p => close p.1 (reader.flags.skip p.2)
  · exact fun bounds rest => closed bounds rest
  · intro bounds
    apply Agrees.nothing
    intro repeated left reads
    rcases Option.map_eq_some_iff.mp reads with ⟨_, -, same⟩
    cases same
    rw [skip_nil]
    rfl
  · intro s _ bounds rest short repeated left reads
    rcases Option.map_eq_some_iff.mp reads with ⟨_, -, same⟩
    cases same
    have marked := (dropLazyMark_suffix (reader.flags.skip rest)).trans (skip_suffix _ rest)
    exact Nat.lt_of_le_of_lt marked.length_le short

end Reader

end SecureSockets.Regex
