import SecureSockets.Proofs.Regex.Closing
import SecureSockets.Regex.Parse

namespace SecureSockets.Regex

/-!
# Opening groups in front of a closing

A group may begin with a name, with flags, or with nothing.  A pattern that ends inside
the name or the flags cannot be completed by a closing, except that the parenthesis may
end the flags and make them a setting of the group around them.
-/

/-! ## Names and flags -/

theorem readName_suffix {name result text rest : List Char}
    (reads : readName name text = some (result, rest)) :
    rest <:+ text ∧ rest.length < text.length := by
  induction text generalizing name with
  | nil => cases reads
  | cons c text ih =>
      unfold readName at reads
      split at reads
      · split at reads
        · cases reads
        · cases reads
          exact ⟨List.suffix_cons _ _, Nat.lt_succ_self _⟩
      · split at reads
        · have inside := ih reads
          exact ⟨inside.1.trans (List.suffix_cons _ _), Nat.lt_succ_of_lt inside.2⟩
        · cases reads

theorem readName_agrees (name text : List Char) :
    Agrees Beyond (readName name text) fun s => readName name (text ++ s) := by
  induction text generalizing name with
  | nil => exact .failed rfl fun s _ x rest reads => (readName_suffix reads).2
  | cons c text ih =>
      simp only [List.cons_append, readName]
      split
      · split
        · exact .none fun _ _ => rfl
        · exact .kept name.reverse text rfl fun _ _ => rfl
      · split
        · exact ih (c :: name)
        · exact .none fun _ _ => rfl

namespace FlagReader

/-- The flags of a group and the mark behind them, with what is left over set apart. -/
def read (reader : FlagReader) (text : List Char) : Option ((FlagReader × Char) × List Char) :=
  (reader.run text).map fun p => ((p.1, p.2.1), p.2.2)

theorem read_cons (reader : FlagReader) (c : Char) (text : List Char) :
    reader.read (c :: text) =
      if c == ':' || c == ')' then
        if reader.dangling then none else some ((reader, c), text)
      else if c == '-' then
        if reader.negated then none
        else read { reader with negated := true, dangling := true } text
      else
        (Flag.ofChar? c).bind fun flag =>
          if reader.assigned.any (·.1 == flag) then none
          else read { reader with
            assigned := reader.assigned ++ [(flag, !reader.negated)]
            dangling := false } text := by
  unfold read
  rw [run]
  split
  · split <;> rfl
  · split
    · split <;> rfl
    · cases Flag.ofChar? c with
      | none => rfl
      | some flag =>
          simp only [Option.bind_some]
          split <;> rfl

theorem read_suffix {reader : FlagReader} {x : FlagReader × Char} {text rest : List Char}
    (reads : reader.read text = some (x, rest)) :
    rest <:+ text ∧ rest.length < text.length := by
  induction text generalizing reader with
  | nil => cases reads
  | cons c text ih =>
      have behind : ∀ {next : FlagReader}, next.read text = some (x, rest) ->
          rest <:+ c :: text ∧ rest.length < (c :: text).length := by
        intro next reads
        have inside := ih reads
        exact ⟨inside.1.trans (List.suffix_cons _ _), Nat.lt_succ_of_lt inside.2⟩
      rw [read_cons] at reads
      split at reads
      · split at reads
        · cases reads
        · cases reads
          exact ⟨List.suffix_cons _ _, Nat.lt_succ_self _⟩
      · split at reads
        · split at reads
          · cases reads
          · exact behind reads
        · rcases Option.bind_eq_some_iff.mp reads with ⟨flag, -, reads⟩
          split at reads
          · cases reads
          · exact behind reads

theorem read_agrees (reader : FlagReader) (text : List Char) :
    Agrees Beyond (reader.read text) fun s => reader.read (text ++ s) := by
  induction text generalizing reader with
  | nil => exact .failed rfl fun s _ x rest reads => (read_suffix reads).2
  | cons c text ih =>
      simp only [List.cons_append, read_cons]
      split
      · split
        · exact .none fun _ _ => rfl
        · exact .kept (reader, c) text rfl fun _ _ => rfl
      · split
        · split
          · exact .none fun _ _ => rfl
          · exact ih _
        · cases Flag.ofChar? c with
          | none => exact .none fun _ _ => rfl
          | some flag =>
              simp only [Option.bind_some]
              split
              · exact .none fun _ _ => rfl
              · exact ih _

end FlagReader

/-! ## Groups -/

namespace Reader

def named (reader : Reader) (name : List Char) : Option Reader :=
  if reader.names.contains name then none
  else some ({ reader with names := name :: reader.names }.enter reader.flags)

theorem enterNamed_eq (reader : Reader) (text : List Char) :
    reader.enterNamed text =
      (readName [] text).bind fun p => (reader.named p.1).map fun r => (r, p.2) := by
  unfold enterNamed named
  congr 1
  funext p
  rcases p with ⟨name, rest⟩
  dsimp only
  split <;> rfl

theorem enterNamed_suffix (reader : Reader) {reader' : Reader} {text rest : List Char}
    (reads : reader.enterNamed text = some (reader', rest)) :
    rest <:+ text ∧ rest.length < text.length := by
  rw [enterNamed_eq] at reads
  rcases Option.bind_eq_some_iff.mp reads with ⟨⟨name, left⟩, first, second⟩
  rcases Option.map_eq_some_iff.mp second with ⟨_, -, same⟩
  cases same
  exact readName_suffix first

theorem enterNamed_agrees (reader : Reader) (text : List Char) :
    Agrees Beyond (reader.enterNamed text) fun s => reader.enterNamed (text ++ s) := by
  simp only [enterNamed_eq]
  exact (readName_agrees [] text).convert reader.named id fun _ _ _ _ short _ _ => short

/-- The reader behind some flags.  A colon behind them opens a group of their own, and a
parenthesis lets them hold for the rest of the current one. -/
def flagged (reader : Reader) (set : FlagReader) (mark : Char) : Option Reader :=
  if mark == ':' then some (reader.enter (set.apply reader.flags))
  else if set.isEmpty then none
  else some { reader with flags := set.apply reader.flags, parts := .setting :: reader.parts }

theorem enterFlagged_eq (reader : Reader) (text : List Char) :
    reader.enterFlagged text =
      (FlagReader.read {} text).bind fun p =>
        (reader.flagged p.1.1 p.1.2).map fun r => (r, p.2) := by
  unfold enterFlagged flagged FlagReader.read
  rw [Option.bind_map]
  congr 1
  funext p
  rcases p with ⟨set, mark, rest⟩
  dsimp only [Function.comp]
  split
  · rfl
  · split <;> rfl

theorem enterFlagged_suffix (reader : Reader) {reader' : Reader} {text rest : List Char}
    (reads : reader.enterFlagged text = some (reader', rest)) :
    rest <:+ text ∧ rest.length < text.length := by
  rw [enterFlagged_eq] at reads
  rcases Option.bind_eq_some_iff.mp reads with ⟨⟨_, left⟩, first, second⟩
  rcases Option.map_eq_some_iff.mp second with ⟨_, -, same⟩
  cases same
  exact FlagReader.read_suffix first

theorem enterFlagged_agrees (reader : Reader) (text : List Char) :
    Agrees Beyond (reader.enterFlagged text) fun s => reader.enterFlagged (text ++ s) := by
  simp only [enterFlagged_eq]
  have flags := FlagReader.read_agrees {} text
  refine flags.convert (fun x => reader.flagged x.1 x.2) id ?_
  exact fun _ _ _ _ short _ _ => short

/-- What is known of a group behind its parenthesis and the blanks there.  Looking around
is refused before any other kind of group is tried. -/
def openFrom (reader : Reader) (text : List Char) : Option (Reader × List Char) :=
  match text with
  | '?' :: '=' :: _ | '?' :: '!' :: _ | '?' :: '<' :: '=' :: _ | '?' :: '<' :: '!' :: _ => none
  | '?' :: 'P' :: '<' :: rest => reader.enterNamed rest
  | '?' :: '<' :: rest => reader.enterNamed rest
  | '?' :: rest => reader.enterFlagged rest
  | rest => some (reader.enter reader.flags, rest)

theorem open_eq (reader : Reader) (text : List Char) :
    reader.open text = reader.openFrom (reader.flags.skip text) := rfl

theorem openFrom_suffix (reader : Reader) {reader' : Reader} {text rest : List Char}
    (reads : reader.openFrom text = some (reader', rest)) : rest <:+ text := by
  unfold openFrom at reads
  split at reads
  iterate 4 · cases reads
  · have inside := (enterNamed_suffix reader reads).1
    exact inside.trans ⟨['?', 'P', '<'], rfl⟩
  · have inside := (enterNamed_suffix reader reads).1
    exact inside.trans ⟨['?', '<'], rfl⟩
  · have inside := (enterFlagged_suffix reader reads).1
    exact inside.trans ⟨['?'], rfl⟩
  · cases reads
    exact List.suffix_rfl

theorem openFrom_plain (reader : Reader) {text : List Char} (noMark : text.head? ≠ some '?') :
    reader.openFrom text = some (reader.enter reader.flags, text) := by
  unfold openFrom
  split <;> first | exact absurd rfl noMark | rfl

/-- A name in angle brackets, unless the bracket begins a condition on what precedes. -/
theorem openAngle_agrees (reader : Reader) (text : List Char) :
    Agrees Beyond (reader.openFrom ('?' :: '<' :: text))
      fun s => reader.openFrom ('?' :: '<' :: (text ++ s)) := by
  cases text with
  | nil =>
      have name := reader.enterNamed_agrees []
      apply name.congr
      intro s closing
      rcases closing.exists_eq_cons with ⟨after, rfl⟩
      rfl
  | cons c text =>
      by_cases condition : c = '=' ∨ c = '!'
      · have refused : ∀ rest, reader.openFrom ('?' :: '<' :: c :: rest) = none := by
          intro rest
          rcases condition with rfl | rfl <;> rfl
        rw [refused]
        exact .none fun s _ => refused (text ++ s)
      · have name : ∀ rest, reader.openFrom ('?' :: '<' :: c :: rest) =
            reader.enterNamed (c :: rest) := by
          intro rest
          rw [not_or] at condition
          simp [openFrom, condition.1, condition.2]
        rw [name]
        exact (reader.enterNamed_agrees (c :: text)).congr _ fun s _ => name (text ++ s)

theorem openMarked_agrees (reader : Reader) (text : List Char) :
    Agrees Beyond (reader.openFrom ('?' :: text))
      fun s => reader.openFrom ('?' :: (text ++ s)) := by
  cases text with
  | nil =>
      have flags := reader.enterFlagged_agrees []
      apply flags.congr
      intro s closing
      rcases closing.exists_eq_cons with ⟨after, rfl⟩
      rfl
  | cons c text =>
      by_cases condition : c = '=' ∨ c = '!'
      · have refused : ∀ rest, reader.openFrom ('?' :: c :: rest) = none := by
          intro rest
          rcases condition with rfl | rfl <;> rfl
        rw [refused]
        exact .none fun s _ => refused (text ++ s)
      · by_cases angle : c = '<'
        · subst angle
          exact reader.openAngle_agrees text
        · rw [not_or] at condition
          by_cases named : c = 'P' ∧ text.head? = some '<'
          · rcases List.head?_eq_some_iff.mp named.2 with ⟨rest, rfl⟩
            rw [named.1]
            exact reader.enterNamed_agrees rest
          · have flags : ∀ rest, ¬(c = 'P' ∧ rest.head? = some '<') ->
                reader.openFrom ('?' :: c :: rest) = reader.enterFlagged (c :: rest) := by
              intro rest other
              unfold openFrom
              split <;> simp_all
            rw [flags text named]
            apply (reader.enterFlagged_agrees (c :: text)).congr
            intro s closing
            apply flags (text ++ s)
            rintro ⟨isP, head⟩
            exact head?_append_closing closing (by decide) (fun head => named ⟨isP, head⟩) head

theorem open_suffix (reader : Reader) {reader' : Reader} {text rest : List Char}
    (reads : reader.open text = some (reader', rest)) : rest <:+ text :=
  (openFrom_suffix reader reads).trans (skip_suffix reader.flags text)

theorem open_agrees (reader : Reader) (text : List Char) :
    Agrees Beyond (reader.open text) fun s => reader.open (text ++ s) := by
  simp only [open_eq]
  apply Agrees.skip reader.openFrom fun _ => reader.openFrom
  · generalize reader.flags.skip text = text
    by_cases mark : text.head? = some '?'
    · rcases List.head?_eq_some_iff.mp mark with ⟨rest, rfl⟩
      exact reader.openMarked_agrees rest
    · rw [openFrom_plain reader mark]
      refine .kept (reader.enter reader.flags) text rfl fun s closing => ?_
      exact openFrom_plain reader (head?_append_closing closing (by decide) mark)
  · exact .hidden (reader.enter reader.flags) rfl fun _ _ => rfl

end Reader

end SecureSockets.Regex
