import SecureSockets.Regex.Flags

namespace SecureSockets.Regex

open Unicode

/-!
# Reading a pattern with something behind it

A matcher puts a pattern into a frame, so that its text is read with a closing
parenthesis behind it.  The question is when the reader takes the same parts from the
pattern then as it takes from the pattern alone.

Three things can happen to a reading of a text when a closing is put behind the text.
Mostly it is kept, and the closing is left over.  If the text ends inside a comment, the
closing becomes a part of the comment and is hidden.  If the reading of the text fails,
then with the closing it may fail later only, after it has read into the closing; what
is left over then is too little to become a pattern again.  The relation here records
these three cases, and each function of the reader is shown to respect it.
-/

/-- What stands behind a pattern: the parenthesis that closes a group, alone or with the
dollar sign of a frame. -/
inductive Closing : List Char -> Prop where
  | parenthesis : Closing [')']
  | frame : Closing [')', '$']

theorem Closing.exists_eq_cons {s : List Char} (closing : Closing s) :
    ∃ rest, s = ')' :: rest := by
  cases closing with
  | parenthesis => exact ⟨[], rfl⟩
  | frame => exact ⟨['$'], rfl⟩

/-- A reading that failed in front of the closing has not left all of it over.  Once a
character of the closing is gone, what is left can no longer be read to its end. -/
def Beyond {β : Type} (s : List Char) (_ : β) (rest : List Char) : Prop :=
  rest.length < s.length

/-- A reading that failed in front of the closing has not left over more than it.  This is
all that holds of a member, which may fail without having touched the closing. -/
def Into {β : Type} (s : List Char) (_ : β) (rest : List Char) : Prop :=
  rest.length ≤ s.length

/-- The reading of a text alone, compared with the readings of the text with a closing
behind it.  `lost` is what is known of a reading that succeeds with the closing only. -/
inductive Agrees {β : Type} (lost : List Char -> β -> List Char -> Prop)
    (alone : Option (β × List Char)) (followed : List Char -> Option (β × List Char)) : Prop where
  | kept (x : β) (rest : List Char) (reads : alone = some (x, rest))
      (same : ∀ s, Closing s -> followed s = some (x, rest ++ s))
  | hidden (x : β) (reads : alone = some (x, []))
      (same : ∀ s, Closing s -> followed s = some (x, []))
  | failed (fails : alone = none)
      (late : ∀ s, Closing s -> ∀ x rest, followed s = some (x, rest) -> lost s x rest)

namespace Agrees

variable {β γ : Type} {lost : List Char -> β -> List Char -> Prop}
  {lost' : List Char -> γ -> List Char -> Prop} {alone : Option (β × List Char)}
  {followed : List Char -> Option (β × List Char)}

theorem congr (followed : List Char -> Option (β × List Char))
    {other : List Char -> Option (β × List Char)} (agrees : Agrees lost alone followed)
    (same : ∀ s, Closing s -> other s = followed s) : Agrees lost alone other := by
  cases agrees with
  | kept x rest reads followed =>
      exact .kept x rest reads fun s c => (same s c).trans (followed s c)
  | hidden x reads followed => exact .hidden x reads fun s c => (same s c).trans (followed s c)
  | failed fails late => exact .failed fails fun s c x rest eq => late s c x rest (same s c ▸ eq)

theorem mono {weaker : List Char -> β -> List Char -> Prop} (agrees : Agrees lost alone followed)
    (weaken : ∀ s, Closing s -> ∀ x rest, lost s x rest -> weaker s x rest) :
    Agrees weaker alone followed := by
  cases agrees with
  | kept x rest reads same => exact .kept x rest reads same
  | hidden x reads same => exact .hidden x reads same
  | failed fails late =>
      exact .failed fails fun s c x rest eq => weaken s c x rest (late s c x rest eq)

theorem none (fails : ∀ s, Closing s -> followed s = Option.none) :
    Agrees lost Option.none followed :=
  .failed rfl fun s c _ _ eq => absurd ((fails s c).symm.trans eq) nofun

/-- A reading of nothing is the same with whatever is hidden behind it. -/
theorem nothing {value : Option (β × List Char)}
    (exhausted : ∀ x rest, value = some (x, rest) -> rest = []) :
    Agrees lost value fun _ => value := by
  cases value with
  | none => exact .none fun _ _ => rfl
  | some pair =>
      rcases pair with ⟨x, rest⟩
      rcases exhausted x rest rfl with rfl
      exact .hidden x rfl fun _ _ => rfl

theorem bind (next : β × List Char -> Option (γ × List Char))
    (next' : List Char -> β × List Char -> Option (γ × List Char))
    (agrees : Agrees lost alone followed)
    (kept : ∀ x rest, Agrees lost' (next (x, rest)) fun s => next' s (x, rest ++ s))
    (hidden : ∀ x, Agrees lost' (next (x, [])) fun s => next' s (x, []))
    (late : ∀ s, Closing s -> ∀ x rest, lost s x rest ->
      ∀ y rest', next' s (x, rest) = some (y, rest') -> lost' s y rest') :
    Agrees lost' (alone.bind next) fun s => (followed s).bind (next' s) := by
  cases agrees with
  | kept x rest reads same =>
      rw [reads]
      exact (kept x rest).congr _ fun s c => by rw [same s c, Option.bind_some]
  | hidden x reads same =>
      rw [reads]
      exact (hidden x).congr _ fun s c => by rw [same s c, Option.bind_some]
  | failed fails lates =>
      refine .failed (by rw [fails, Option.bind_none]) ?_
      intro s c y rest' reads
      rcases Option.bind_eq_some_iff.mp reads with ⟨⟨x, rest⟩, first, second⟩
      exact late s c x rest (lates s c x rest first) y rest' second

/-- A change of what was read, which may also be refused. -/
theorem convert {δ : Type} (change : β -> Option δ) (build : δ -> γ)
    (agrees : Agrees lost alone followed)
    (late : ∀ s, Closing s -> ∀ x rest, lost s x rest ->
      ∀ y, change x = some y -> lost' s (build y) rest) :
    Agrees lost' (alone.bind fun p => (change p.1).map fun y => (build y, p.2))
      fun s => (followed s).bind fun p => (change p.1).map fun y => (build y, p.2) := by
  refine agrees.bind _ _ ?_ ?_ ?_
  · intro x rest
    cases changed : change x with
    | none => exact .none fun _ _ => by simp only [changed, Option.map_none]
    | some y =>
        exact .kept (build y) rest (by simp only [Option.map_some])
          fun _ _ => by simp only [changed, Option.map_some]
  · intro x
    refine .nothing ?_
    intro y rest eq
    rcases Option.map_eq_some_iff.mp eq with ⟨_, -, same⟩
    exact (Prod.mk.inj same).2.symm
  · intro s c x rest missed y rest' eq
    rcases Option.map_eq_some_iff.mp eq with ⟨z, changed, same⟩
    rcases Prod.mk.inj same with ⟨rfl, rfl⟩
    exact late s c x rest missed z changed

end Agrees

/-! ## Blanks and comments -/

theorem dropBlanks_suffix (inComment : Bool) (text : List Char) :
    Flags.dropBlanks inComment text <:+ text := by
  induction text generalizing inComment with
  | nil => exact List.suffix_rfl
  | cons c rest ih =>
      rw [Flags.dropBlanks]
      split
      · exact (ih _).trans (List.suffix_cons c rest)
      · split
        · exact (ih _).trans (List.suffix_cons c rest)
        · split
          · exact (ih _).trans (List.suffix_cons c rest)
          · exact List.suffix_rfl

theorem skip_suffix (flags : Flags) (text : List Char) : flags.skip text <:+ text := by
  rw [Flags.skip]
  split
  · exact dropBlanks_suffix false text
  · exact List.suffix_rfl

theorem length_skip_le (flags : Flags) (text : List Char) :
    (flags.skip text).length ≤ text.length :=
  (skip_suffix flags text).length_le

@[simp] theorem skip_nil (flags : Flags) : flags.skip [] = [] := by
  simp [Flags.skip, Flags.dropBlanks]

theorem isBlank_parenthesis : Property.isBlank ')' = false := by decide

theorem dropWhile_isBlank_append (text : List Char) {s : List Char} (closing : Closing s) :
    (text ++ s).dropWhile Property.isBlank = text.dropWhile Property.isBlank ++ s := by
  rcases closing.exists_eq_cons with ⟨after, rfl⟩
  rw [List.dropWhile_append]
  split
  · next empty =>
      rw [List.isEmpty_iff.mp empty, List.nil_append, List.dropWhile_cons_of_neg]
      simp [isBlank_parenthesis]
  · rfl

/-- Comments run to the end of a line, and closings are parts of a line. -/
private theorem dropBlanks_comment {s : List Char} (closing : Closing s) :
    Flags.dropBlanks true s = [] := by
  cases closing <;> rfl

private theorem dropBlanks_append (inComment : Bool) (text : List Char) :
    (∀ s, Closing s -> Flags.dropBlanks inComment (text ++ s) =
      Flags.dropBlanks inComment text ++ s) ∨
    (Flags.dropBlanks inComment text = [] ∧
      ∀ s, Closing s -> Flags.dropBlanks inComment (text ++ s) = []) := by
  induction text generalizing inComment with
  | nil =>
      cases inComment with
      | true => exact Or.inr ⟨rfl, fun s closing => dropBlanks_comment closing⟩
      | false =>
          refine Or.inl fun s closing => ?_
          rcases closing.exists_eq_cons with ⟨rest, rfl⟩
          simp [Flags.dropBlanks, isBlank_parenthesis]
  | cons c rest ih =>
      simp only [Flags.dropBlanks, List.cons_append]
      split
      · exact ih _
      · split
        · exact ih _
        · split
          · exact ih _
          · exact Or.inl fun _ _ => rfl

/-- Whether a text begins with a character is not changed by a closing behind it. -/
theorem head?_append_closing {c : Char} {text s : List Char} (closing : Closing s)
    (noParenthesis : c ≠ ')') (other : text.head? ≠ some c) : (text ++ s).head? ≠ some c := by
  cases text with
  | nil =>
      rcases closing.exists_eq_cons with ⟨rest, rfl⟩
      simpa using noParenthesis.symm
  | cons d text => exact other

/-- Skipping blanks leaves a closing alone, unless a comment hides it. -/
theorem skip_append (flags : Flags) (text : List Char) :
    (∀ s, Closing s -> flags.skip (text ++ s) = flags.skip text ++ s) ∨
    (flags.skip text = [] ∧ ∀ s, Closing s -> flags.skip (text ++ s) = []) := by
  cases verbose : flags.verbose with
  | false => exact Or.inl fun s _ => by simp [Flags.skip, verbose]
  | true =>
      simp only [Flags.skip, verbose, if_true]
      exact dropBlanks_append false text

theorem head?_skip_append (flags : Flags) {c : Char} {text s : List Char} (closing : Closing s)
    (noParenthesis : c ≠ ')') (other : (flags.skip text).head? ≠ some c) :
    (flags.skip (text ++ s)).head? ≠ some c := by
  rcases skip_append flags text with same | ⟨-, swallowed⟩
  · rw [same s closing]
    exact head?_append_closing closing noParenthesis other
  · rw [swallowed s closing]
    exact nofun

/-- What begins in front of a closing is not hidden by it. -/
theorem skip_append_of_cons (flags : Flags) {c : Char} {text rest : List Char}
    (begins : flags.skip text = c :: rest) {s : List Char} (closing : Closing s) :
    flags.skip (text ++ s) = c :: (rest ++ s) := by
  rcases skip_append flags text with same | ⟨empty, -⟩
  · rw [same s closing, begins, List.cons_append]
  · exact absurd (begins.symm.trans empty) nofun

namespace Agrees

variable {β : Type} {lost : List Char -> β -> List Char -> Prop}

theorem skip {flags : Flags} {text : List Char} (read : List Char -> Option (β × List Char))
    (read' : List Char -> List Char -> Option (β × List Char))
    (kept : Agrees lost (read (flags.skip text)) fun s => read' s (flags.skip text ++ s))
    (hidden : Agrees lost (read []) fun s => read' s []) :
    Agrees lost (read (flags.skip text)) fun s => read' s (flags.skip (text ++ s)) := by
  rcases skip_append flags text with same | ⟨empty, swallowed⟩
  · exact kept.congr _ fun s closing => by rw [same s closing]
  · rw [empty]
    exact hidden.congr _ fun s closing => by rw [swallowed s closing]

theorem skip_rest (flags : Flags) (x : β) (rest : List Char) :
    Agrees lost (some (x, flags.skip rest)) fun s => some (x, flags.skip (rest ++ s)) :=
  skip (fun rest => some (x, rest)) (fun _ rest => some (x, rest))
    (.kept x _ rfl fun _ _ => rfl) (.hidden x rfl fun _ _ => rfl)

end Agrees

end SecureSockets.Regex
