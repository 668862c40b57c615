import SecureSockets.Proofs.Regex.ClassMembers

namespace SecureSockets.Regex

/-!
# Reading classes in front of a closing

A class in brackets is read up to its own closing bracket.  A closing contains none, so
that a class which is still open at the end of a pattern stays open in front of a
closing, and the reading fails in both cases, if at different places.

Before the bracket is reached, the members of a class may already have been taken from
the closing.  What is lost is therefore measured twice: a member or the beginning of a
class may leave the whole closing over, and a class that is complete leaves less.
-/

/-! ## Whole classes -/

def operationOf? (c d : Char) : Option SetOperation :=
  if c = '&' ∧ d = '&' then some .intersection
  else if c = '-' ∧ d = '-' then some .difference
  else if c = '~' ∧ d = '~' then some .symmetricDifference
  else none

/-- One part of a class; `next` reads the rest of the class.  Parts are taken apart from
the reading of the whole, so that the induction over the whole need not look at the kinds
of parts. -/
def readClassPart (flags : Flags)
    (next : List ClassFrame -> Members -> List Char -> Option (NestedSet × List Char))
    (frames : List ClassFrame) (members : Members) (text : List Char) :
    Option (NestedSet × List Char) :=
  match text with
  | [] => none
  | '[' :: rest =>
    match readAsciiClass rest with
    | some (named, negated, after) =>
      (flags.completeSet negated named).bind fun named => next frames (members.addFlat named) after
    | none =>
      (openClass flags rest).bind fun (negated, inner, after) =>
        next (.opened members negated :: frames) inner after
  | ']' :: rest =>
    match settle flags members.whole frames with
    | (whole, .opened outer negated :: frames) =>
      (flags.completeSet negated whole.set).bind fun completed =>
        let bracketed : NestedSet := ⟨completed, whole.depth + 1⟩
        if frames.isEmpty then some (bracketed, rest)
        else next frames (outer.add bracketed) rest
    | _ => none
  | '&' :: '&' :: rest => next (operate flags .intersection members frames) {} rest
  | '-' :: '-' :: rest => next (operate flags .difference members frames) {} rest
  | '~' :: '~' :: rest => next (operate flags .symmetricDifference members frames) {} rest
  | text =>
    (readRange flags text).bind fun (member, after) => next frames (members.addFlat member) after

theorem readClass_succ (flags : Flags) (fuel : Nat) (frames : List ClassFrame) (members : Members)
    (text : List Char) :
    readClass flags (fuel + 1) frames members text =
      readClassPart flags (readClass flags fuel) frames members (flags.skip text) := rfl

section ClassPart

variable (flags : Flags)
  (next : List ClassFrame -> Members -> List Char -> Option (NestedSet × List Char))
  (frames : List ClassFrame) (members : Members)

theorem readClassPart_open (rest : List Char) :
    readClassPart flags next frames members ('[' :: rest) =
      match readAsciiClass rest with
      | some (named, negated, after) =>
        (flags.completeSet negated named).bind fun named =>
          next frames (members.addFlat named) after
      | none =>
        (beginClass flags rest).bind fun p => next (.opened members p.1.1 :: frames) p.1.2 p.2 := by
  simp only [readClassPart]
  cases readAsciiClass rest with
  | none =>
      exact openClass_bind flags rest fun negated inner after =>
        next (.opened members negated :: frames) inner after
  | some named => rfl

theorem readClassPart_operation {c d : Char} {operation : SetOperation} (rest : List Char)
    (operates : operationOf? c d = some operation) :
    readClassPart flags next frames members (c :: d :: rest) =
      next (operate flags operation members frames) {} rest := by
  unfold operationOf? at operates
  split at operates
  · next same => cases operates; rw [same.1, same.2]; rfl
  · split at operates
    · next same => cases operates; rw [same.1, same.2]; rfl
    · split at operates
      · next same => cases operates; rw [same.1, same.2]; rfl
      · cases operates

theorem readClassPart_member {c : Char} {rest : List Char} (noOpening : c ≠ '[')
    (noClosing : c ≠ ']')
    (noOperation : ∀ d after, rest = d :: after -> operationOf? c d = none) :
    readClassPart flags next frames members (c :: rest) =
      (readRange flags (c :: rest)).bind fun p => next frames (members.addFlat p.1) p.2 := by
  unfold readClassPart
  split
  · contradiction
  · next same => exact absurd (List.cons.inj same).1 noOpening
  · next same => exact absurd (List.cons.inj same).1 noClosing
  · next same => cases same; exact absurd (noOperation _ _ rfl) nofun
  · next same => cases same; exact absurd (noOperation _ _ rfl) nofun
  · next same => cases same; exact absurd (noOperation _ _ rfl) nofun
  · rfl

theorem readClassPart_suffix
    (nextSuffix : ∀ {frames members text rest x}, next frames members text = some (x, rest) ->
      rest <:+ text ∧ rest.length < text.length)
    {text rest : List Char} {x : NestedSet}
    (reads : readClassPart flags next frames members text = some (x, rest)) :
    rest <:+ text ∧ rest.length < text.length := by
  have behind : ∀ {c : Char} {inner left : List Char} {frames : List ClassFrame}
      {members : Members}, left <:+ inner -> next frames members left = some (x, rest) ->
      rest <:+ c :: inner ∧ rest.length < (c :: inner).length := by
    intro c inner left frames members suffix reads
    have inside := (nextSuffix reads).1.trans suffix
    exact ⟨inside.trans (List.suffix_cons c inner), Nat.lt_succ_of_le inside.length_le⟩
  unfold readClassPart at reads
  split at reads
  · cases reads
  · split at reads
    · next named =>
        rcases Option.bind_eq_some_iff.mp reads with ⟨_, -, reads⟩
        exact behind (readAsciiClass_suffix named) reads
    · rcases Option.bind_eq_some_iff.mp reads with ⟨⟨_, _, _⟩, opened, reads⟩
      exact behind ((openClass_suffix flags opened).trans (skip_suffix flags _)) reads
  · split at reads
    · rcases Option.bind_eq_some_iff.mp reads with ⟨_, -, reads⟩
      split at reads
      · cases reads
        exact ⟨List.suffix_cons _ _, Nat.lt_succ_self _⟩
      · exact behind List.suffix_rfl reads
    · cases reads
  iterate 3 · exact behind (List.suffix_cons _ _) reads
  · rcases Option.bind_eq_some_iff.mp reads with ⟨⟨_, _⟩, range, reads⟩
    have member := readRange_suffix flags range
    have rest := nextSuffix reads
    exact ⟨rest.1.trans member.1, Nat.lt_trans rest.2 member.2⟩

/-- What is known of two readers for the rest of a class, the second one in front of a
closing, as far as texts shorter than a given one go. -/
structure NextAgrees
    (next' : List Char -> List ClassFrame -> Members -> List Char -> Option (NestedSet × List Char))
    (text : List Char) : Prop where
  nil : ∀ frames members, next frames members [] = none
  suffix' : ∀ {s frames members text rest x}, next' s frames members text = some (x, rest) ->
    rest <:+ text ∧ rest.length < text.length
  agrees : ∀ frames members left, left.length < text.length ->
    Agrees Beyond (next frames members left) fun s => next' s frames members (left ++ s)

variable {flags next}
  {next' : List Char -> List ClassFrame -> Members -> List Char -> Option (NestedSet × List Char)}

/-- Behind something that may have left the whole closing over, what follows leaves less
of it. -/
theorem NextAgrees.behind {β : Type} {lost : List Char -> β -> List Char -> Prop}
    {alone : Option (β × List Char)} {followed : List Char -> Option (β × List Char)}
    {text : List Char} (nexts : NextAgrees next next' text)
    (frames : β -> List ClassFrame) (members : β -> Members) (agrees : Agrees lost alone followed)
    (shorter : ∀ x rest, alone = some (x, rest) -> rest.length < text.length)
    (few : ∀ s, Closing s -> ∀ x rest, lost s x rest -> rest.length ≤ s.length) :
    Agrees Beyond (alone.bind fun p => next (frames p.1) (members p.1) p.2)
      fun s => (followed s).bind fun p => next' s (frames p.1) (members p.1) p.2 := by
  cases agrees with
  | kept x rest reads same =>
      rw [reads]
      refine .congr _ (nexts.agrees _ _ rest (shorter x rest reads)) fun s closing => ?_
      rw [same s closing]
      rfl
  | hidden x reads same =>
      have exhausted : ∀ s, next' s (frames x) (members x) [] = none := by
        intro s
        cases reads : next' s (frames x) (members x) [] with
        | none => rfl
        | some p => exact absurd (nexts.suffix' reads).2 (Nat.not_lt_zero _)
      have nothing := nexts.nil (frames x) (members x)
      rw [reads, Option.bind_some, nothing]
      refine .none fun s closing => ?_
      rw [same s closing, Option.bind_some, exhausted]
  | failed fails late =>
      rw [fails]
      refine .failed rfl fun s closing y rest' reads => ?_
      rcases Option.bind_eq_some_iff.mp reads with ⟨⟨x, rest⟩, first, second⟩
      have left := few s closing x rest (late s closing x rest first)
      exact Nat.lt_of_lt_of_le (nexts.suffix' second).2 left

theorem NextAgrees.open {text : List Char} (nexts : NextAgrees next next' ('[' :: text)) :
    Agrees Beyond (readClassPart flags next frames members ('[' :: text))
      fun s => readClassPart flags (next' s) frames members ('[' :: (text ++ s)) := by
  rw [readClassPart_open]
  refine .congr _ ?_ fun s closing => readClassPart_open flags (next' s) frames members (text ++ s)
  cases named : readAsciiClass text with
  | some found =>
      rcases found with ⟨named', negated, after⟩
      refine .congr (fun s => (flags.completeSet negated named').bind fun named =>
        next' s frames (members.addFlat named) (after ++ s)) ?_ fun s closing => by
          rw [readAsciiClass_append text closing, named]
          rfl
      show Agrees Beyond ((flags.completeSet negated named').bind fun named =>
        next frames (members.addFlat named) after) _
      have shorter := Nat.lt_succ_of_le (readAsciiClass_suffix named).length_le
      cases flags.completeSet negated named' with
      | none => exact .none fun _ _ => rfl
      | some completed => exact nexts.agrees _ _ after shorter
  | none =>
      refine .congr (fun s => (beginClass flags (text ++ s)).bind fun p =>
        next' s (.opened members p.1.1 :: frames) p.1.2 p.2) ?_ fun s closing => by
          rw [readAsciiClass_append text closing, named]
          rfl
      have shorter : ∀ x rest, beginClass flags text = some (x, rest) ->
          rest.length < ('[' :: text).length :=
        fun _ _ reads => Nat.lt_succ_of_le (beginClass_suffix flags reads).length_le
      exact nexts.behind (fun x => .opened members x.1 :: frames) (fun x => x.2)
        (beginClass_agrees flags text) shorter fun _ _ _ _ few => few

theorem NextAgrees.close {text : List Char} (nexts : NextAgrees next next' (']' :: text)) :
    Agrees Beyond (readClassPart flags next frames members (']' :: text))
      fun s => readClassPart flags (next' s) frames members (']' :: (text ++ s)) := by
  simp only [readClassPart]
  split
  · next whole outer negated frames settled =>
      cases flags.completeSet negated whole.set with
      | none => exact .none fun _ _ => rfl
      | some completed =>
          simp only [Option.bind_some]
          split
          · exact .kept ⟨completed, whole.depth + 1⟩ text rfl fun _ _ => rfl
          · exact nexts.agrees _ _ text (Nat.lt_succ_self _)
  · exact .none fun _ _ => rfl

/-- A member or a range, which is no operation alone and none in front of a closing. -/
theorem NextAgrees.member {c : Char} {text : List Char} (nexts : NextAgrees next next' (c :: text))
    (noOpening : c ≠ '[') (noClosing : c ≠ ']')
    (noOperation : ∀ d after, text = d :: after -> operationOf? c d = none) :
    Agrees Beyond (readClassPart flags next frames members (c :: text))
      fun s => readClassPart flags (next' s) frames members (c :: (text ++ s)) := by
  -- A parenthesis completes no operation that the end of the text has begun.
  have noOperation' : ∀ s, Closing s -> ∀ d after, text ++ s = d :: after ->
      operationOf? c d = none := by
    intro s closing d after same
    cases text with
    | cons e text => exact noOperation d text (congrArg (· :: text) (List.cons.inj same).1)
    | nil =>
        rcases closing.exists_eq_cons with ⟨behind, rfl⟩
        cases same
        simp [operationOf?]
  rw [readClassPart_member flags next frames members noOpening noClosing noOperation]
  refine .congr _ ?_ fun s closing =>
    readClassPart_member flags (next' s) frames members noOpening noClosing (noOperation' s closing)
  have shorter : ∀ x rest, readRange flags (c :: text) = some (x, rest) ->
      rest.length < (c :: text).length := fun _ _ reads => (readRange_suffix flags reads).2
  have range := readRange_agrees flags (c :: text)
  exact nexts.behind (fun _ => frames) (fun x => members.addFlat x) range
    shorter fun _ _ _ _ few => few

theorem readClassPart_agrees {text : List Char} (nexts : NextAgrees next next' text) :
    Agrees Beyond (readClassPart flags next frames members text)
      fun s => readClassPart flags (next' s) frames members (text ++ s) := by
  cases text with
  | nil =>
      refine .failed rfl fun s _ x rest reads => ?_
      exact (readClassPart_suffix flags (next' s) frames members nexts.suffix' reads).2
  | cons c text =>
      by_cases opening : c = '['
      · subst opening
        exact nexts.open frames members
      by_cases bracket : c = ']'
      · subst bracket
        exact nexts.close frames members
      by_cases operates : ∃ d after operation, text = d :: after ∧
          operationOf? c d = some operation
      · rcases operates with ⟨d, after, operation, rfl, operates⟩
        rw [readClassPart_operation flags next frames members after operates]
        refine .congr _ (nexts.agrees _ _ after ?_) fun s _ =>
          readClassPart_operation flags (next' s) frames members (after ++ s) operates
        exact Nat.lt_succ_of_lt (Nat.lt_succ_self _)
      · refine nexts.member frames members opening bracket fun d after same => ?_
        cases found : operationOf? c d with
        | none => rfl
        | some operation => exact absurd ⟨d, after, operation, same, found⟩ operates

end ClassPart

theorem readClass_suffix (flags : Flags) {fuel : Nat} {frames : List ClassFrame}
    {members : Members} {x : NestedSet} {text rest : List Char}
    (reads : readClass flags fuel frames members text = some (x, rest)) :
    rest <:+ text ∧ rest.length < text.length := by
  induction fuel generalizing frames members text rest x with
  | zero => cases reads
  | succ fuel ih =>
      rw [readClass_succ] at reads
      have part := readClassPart_suffix flags _ frames members ih reads
      exact ⟨part.1.trans (skip_suffix flags text),
        Nat.lt_of_lt_of_le part.2 (length_skip_le flags text)⟩

theorem readClass_nil (flags : Flags) (fuel : Nat) (frames : List ClassFrame) (members : Members) :
    readClass flags fuel frames members [] = none := by
  cases reads : readClass flags fuel frames members [] with
  | none => rfl
  | some p => exact absurd (readClass_suffix flags reads).2 (Nat.not_lt_zero _)

theorem readClass_agrees (flags : Flags) (fuel : Nat) (fuel' : List Char -> Nat)
    (frames : List ClassFrame) (members : Members) (text : List Char) (enough : text.length < fuel)
    (enough' : ∀ s, Closing s -> text.length + s.length < fuel' s) :
    Agrees Beyond (readClass flags fuel frames members text)
      fun s => readClass flags (fuel' s) frames members (text ++ s) := by
  induction fuel generalizing fuel' frames members text with
  | zero => exact absurd enough (Nat.not_lt_zero _)
  | succ fuel ih =>
      let next' (s : List Char) := readClass flags (fuel' s - 1)
      have nexts : NextAgrees (readClass flags fuel) next' (flags.skip text) := by
        refine ⟨readClass_nil flags fuel, fun reads => readClass_suffix flags reads, ?_⟩
        intro frames members left shorter
        have bound := length_skip_le flags text
        refine ih _ frames members left (by omega) fun s closing => ?_
        have := enough' s closing
        omega
      refine .congr (fun s =>
        readClassPart flags (next' s) frames members (flags.skip (text ++ s))) ?_ ?_
      · rw [readClass_succ]
        apply Agrees.skip (readClassPart flags (readClass flags fuel) frames members)
          (fun s => readClassPart flags (next' s) frames members)
        · exact readClassPart_agrees frames members nexts
        · exact .none fun _ _ => rfl
      · intro s closing
        have := enough' s closing
        rcases Nat.exists_eq_succ_of_ne_zero (n := fuel' s) (by omega) with ⟨less, more⟩
        simp only [next', more, Nat.succ_sub_one]
        exact readClass_succ flags less frames members (text ++ s)

/-! ## Brackets -/

theorem readBracket_eq (flags : Flags) (text : List Char) :
    readBracket flags text =
      (beginClass flags text).bind fun p =>
        readClass flags (text.length + 1) [.opened {} p.1.1] p.1.2 p.2 :=
  openClass_bind flags text fun negated members after =>
    readClass flags (text.length + 1) [.opened {} negated] members after

theorem readBracket_suffix (flags : Flags) {bracketed : NestedSet} {text rest : List Char}
    (reads : readBracket flags text = some (bracketed, rest)) :
    rest <:+ text ∧ rest.length < text.length := by
  rw [readBracket_eq] at reads
  rcases Option.bind_eq_some_iff.mp reads with ⟨⟨_, left⟩, opened, members⟩
  have begun := beginClass_suffix flags opened
  have inside := readClass_suffix flags members
  exact ⟨inside.1.trans begun, Nat.lt_of_lt_of_le inside.2 begun.length_le⟩

theorem readBracket_agrees (flags : Flags) (text : List Char) :
    Agrees Beyond (readBracket flags text) fun s => readBracket flags (text ++ s) := by
  rw [readBracket_eq]
  refine .congr _ ?_ fun s _ => readBracket_eq flags (text ++ s)
  have begun := beginClass_agrees flags text
  have shorter : ∀ x rest, beginClass flags text = some (x, rest) -> rest.length ≤ text.length :=
    fun _ _ reads => (beginClass_suffix flags reads).length_le
  cases begun with
  | kept x rest reads same =>
      rw [reads]
      refine .congr (fun s => readClass flags ((text ++ s).length + 1) [.opened {} x.1] x.2
        (rest ++ s)) ?_ fun s closing => by rw [same s closing, Option.bind_some]
      have := shorter x rest reads
      refine readClass_agrees flags _ _ _ _ rest (Nat.lt_succ_of_le this) fun s _ => ?_
      rw [List.length_append]
      omega
  | hidden x reads same =>
      rw [reads]
      simp only [Option.bind_some, readClass_nil]
      refine .none fun s closing => ?_
      rw [same s closing, Option.bind_some, readClass_nil]
  | failed fails late =>
      rw [fails]
      refine .failed rfl fun s closing members rest reads => ?_
      rcases Option.bind_eq_some_iff.mp reads with ⟨⟨x, left⟩, first, second⟩
      exact Nat.lt_of_lt_of_le (readClass_suffix flags second).2 (late s closing x left first)

end SecureSockets.Regex
