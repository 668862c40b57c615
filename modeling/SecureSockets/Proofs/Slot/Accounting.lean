import SecureSockets.Proofs.Slot.Guarded
import SecureSockets.Proofs.Slot.History

namespace SecureSockets

/-!
# How many constructors run

A slot counts the constructors that are running, and from that count alone it tells an
empty slot from one that is being built.  The count is right if every constructor that was
entered is left again, in whatever way it ends.  Constructors may use the slot while they
run, so that the steps of a script form a tree, and a point of a run is a place in that
tree: its depth is the number of constructors inside of which it lies.

A script as a whole changes nothing of a slot but its value.  Between the steps of one
constructor the count therefore stays what it is, and it differs from one constructor to
the next by one.  An attempt that fails on an empty slot leaves the very slot that it found,
unless its own steps have set a value; the lock that a panic poisons is not missed.
-/

open Effect

variable {α : Type}

/-! ## What a script leaves alone -/

namespace Slot

/-- The slots differ in their values at most. -/
def Framed (slot last : Slot α) : Prop :=
  last = { slot with value := last.value }

variable {slot middle last during : Slot α}

theorem Framed.refl (slot : Slot α) : Framed slot slot := rfl

theorem Framed.trans (first : Framed slot middle) (second : Framed middle last) :
    Framed slot last := by
  unfold Framed at *
  rw [second, first]

theorem Framed.inFlight (framed : Framed slot last) : last.inFlight = slot.inFlight := by
  unfold Framed at framed
  rw [framed]

/-- A constructor that has ended is not counted any more. -/
theorem Framed.exit (framed : Framed slot.enter during) :
    during.exit = { slot with value := during.value } := by
  unfold Framed at framed
  rw [framed]
  simp [Slot.exit, Slot.enter]

theorem settled_failure (framed : Framed slot.enter during) (failure : Abort) :
    during.settled (.error failure) = (.error failure, { slot with value := during.value }) := by
  rw [settled, framed.exit]

/-- A constructor that has built a value leaves one, and it is its own on a slot that is
still empty. -/
theorem settled_built (framed : Framed slot.enter during) (built : α) :
    ∃ winner, during.settled (.ok built) = (.ok winner, { slot with value := some winner }) ∧
      (during.value = none -> winner = built) := by
  unfold settled published
  simp only [framed.exit]
  cases slot.strategy with
  | locked => exact ⟨built, rfl, fun _ => rfl⟩
  | lockFree =>
      cases during.value with
      | none => exact ⟨built, rfl, fun _ => rfl⟩
      | some winner => exact ⟨winner, rfl, nofun⟩

theorem settled_framed (framed : Framed slot.enter during) (outcome : Except Abort α) :
    Framed slot (during.settled outcome).2 := by
  cases outcome with
  | error failure => rw [settled_failure framed failure]; rfl
  | ok built =>
      rcases settled_built framed built with ⟨winner, settles, -⟩
      rw [settles]
      rfl

end Slot

theorem SlotMaker.initRecord_framed {inside : Slot α -> SlotRecord α (List (SlotAnswer α))}
    (framed : ∀ slot : Slot α, slot.Framed (inside slot).slot) (outcome : Except Abort α)
    (slot : Slot α) : slot.Framed (SlotMaker.initRecord inside outcome slot).slot := by
  unfold SlotMaker.initRecord
  cases slot.value with
  | some value => exact .refl slot
  | none => exact Slot.settled_framed (framed slot.enter) outcome

theorem SlotMaker.overlapRecord_framed {outer : Slot α -> SlotRecord α (List (SlotAnswer α))}
    {inner : Slot α -> SlotRecord α (InitAnswer α (SlotAnswer α))}
    (outerFramed : ∀ slot : Slot α, slot.Framed (outer slot).slot) (outcome : Except Abort α)
    (innerFramed : ∀ slot : Slot α, slot.Framed (inner slot).slot) (slot : Slot α) :
    slot.Framed (SlotMaker.overlapRecord outer outcome inner slot).slot := by
  unfold SlotMaker.overlapRecord
  have during := outerFramed slot.enter
  cases slot.value with
  | some value => exact .refl slot
  | none =>
      simp only
      split
      · exact (Slot.settled_framed during outcome).trans (innerFramed _)
      · exact Slot.settled_framed (during.trans (innerFramed _)) outcome

mutual

theorem SlotStep.record_framed (step : SlotStep α) (slot : Slot α) :
    slot.Framed (step.record slot).slot := by
  cases step with
  | init maker => exact SlotMaker.initRecord_framed maker.record_framed maker.outcome slot
  | overlap outer inner =>
      have second := SlotMaker.initRecord_framed inner.record_framed inner.outcome
      exact SlotMaker.overlapRecord_framed outer.record_framed outer.outcome second slot
  | override value => rfl
  | _ => exact .refl slot

theorem SlotMaker.record_framed (maker : SlotMaker α) (slot : Slot α) :
    slot.Framed (maker.record slot).slot := by
  cases maker with
  | mk during outcome => exact SlotStep.recordAll_framed during slot

theorem SlotStep.recordAll_framed (steps : List (SlotStep α)) (slot : Slot α) :
    slot.Framed (SlotStep.recordAll steps slot).slot := by
  cases steps with
  | nil => exact .refl slot
  | cons step rest => exact (step.record_framed slot).trans (SlotStep.recordAll_framed rest _)

end

/-! ## Behind the lock -/

namespace GuardedSlot

/-- What is recorded of an effect on a slot happens behind the lock as well. -/
theorem answers_of_records {β : Type} {mirror : Effect (GuardedSlot α) β}
    {effect : Effect (Slot α) β} {results : β -> List (Except Abort α)}
    {record : SlotRecord α β} (mirrors : Mirrors mirror effect) (world : World (GuardedSlot α))
    (records : Records effect results world.1.slot record) :
    ∃ last, mirror.Answers world record.answer last ∧ last.1.slot = record.slot := by
  rcases records.yields world.2 with ⟨log, answers⟩
  rcases mirrors world.1 world.2 _ _ _ answers with ⟨lock, answers'⟩
  exact ⟨_, answers', rfl⟩

theorem runGuarded_answers (step : SlotStep α) (world : World (GuardedSlot α)) :
    ∃ last, step.runGuarded.Answers world (step.record world.1.slot).answer last ∧
      last.1.slot = (step.record world.1.slot).slot :=
  answers_of_records step.runGuarded_mirrors world (step.records world.1.slot)

theorem runAllGuarded_answers (steps : List (SlotStep α)) (world : World (GuardedSlot α)) :
    ∃ last, (SlotStep.runAllGuarded steps).Answers world
        (SlotStep.recordAll steps world.1.slot).answer last ∧
      last.1.slot = (SlotStep.recordAll steps world.1.slot).slot :=
  answers_of_records (SlotStep.runAllGuarded_mirrors steps) world
    (SlotStep.allRecords steps world.1.slot)

theorem runGuarded_framed {step : SlotStep α} {world last : World (GuardedSlot α)}
    {answer : SlotAnswer α} (answers : step.runGuarded.Answers world answer last) :
    world.1.slot.Framed last.1.slot := by
  rcases runGuarded_answers step world with ⟨last', answers', same⟩
  rw [(answers.unique answers').2, same]
  exact step.record_framed world.1.slot

theorem runAllGuarded_framed {steps : List (SlotStep α)} {world last : World (GuardedSlot α)}
    {inside : List (SlotAnswer α)}
    (answers : (SlotStep.runAllGuarded steps).Answers world inside last) :
    world.1.slot.Framed last.1.slot := by
  rcases runAllGuarded_answers steps world with ⟨last', answers', same⟩
  rw [(answers.unique answers').2, same]
  exact SlotStep.recordAll_framed steps world.1.slot

/-- Put to either slot, the effect gives the same answer, writes the same log and leaves
the same slot.  The locks may differ before and after, since nobody can see them. -/
def Alike {β : Type} (effect : Effect (GuardedSlot α) β) (one other : GuardedSlot α) : Prop :=
  ∀ log, ∃ answer slot log' lock lock',
    effect.Answers (one, log) answer (⟨slot, lock⟩, log') ∧
      effect.Answers (other, log) answer (⟨slot, lock'⟩, log')

/-- Locks make no difference. -/
theorem runAllGuarded_alike {one other : GuardedSlot α} (same : one.slot = other.slot)
    (steps : List (SlotStep α)) : Alike (SlotStep.runAllGuarded steps) one other := by
  intro log
  rcases exists_answer (SlotStep.runAll steps) (one.slot, log) with ⟨answer, ⟨slot, log'⟩, plain⟩
  have mirrors := SlotStep.runAllGuarded_mirrors steps
  rcases mirrors one log answer slot log' plain with ⟨lock, first⟩
  rcases mirrors other log answer slot log' (same ▸ plain) with ⟨lock', second⟩
  exact ⟨answer, slot, log', lock, lock', first, second⟩

/-! ## Points of a run -/

def entered (world : World (GuardedSlot α)) : World (GuardedSlot α) :=
  ({ world.1 with slot := world.1.slot.enter }, world.2)

/-- Some steps, taken from a world, reach a point at some depth, which is the number of
constructors that have been entered on the way and are still running.  At the point some
steps remain to be taken, of the script or of the innermost constructor. -/
inductive Reaches : List (SlotStep α) -> World (GuardedSlot α) -> Nat -> List (SlotStep α) ->
    World (GuardedSlot α) -> Prop where
  | here (steps : List (SlotStep α)) (world : World (GuardedSlot α)) :
      Reaches steps world 0 steps world
  | later {step : SlotStep α} {rest remaining : List (SlotStep α)} {answer : SlotAnswer α}
      {world next point : World (GuardedSlot α)} {depth : Nat}
      (taken : step.runGuarded.Answers world answer next)
      (reaches : Reaches rest next depth remaining point) :
      Reaches (step :: rest) world depth remaining point
  | inside {during rest remaining : List (SlotStep α)} {outcome : Except Abort α}
      {world point : World (GuardedSlot α)} {depth : Nat} (vacant : world.1.slot.value = none)
      (reaches : Reaches during (entered world) depth remaining point) :
      Reaches (.init (.mk during outcome) :: rest) world (depth + 1) remaining point
  | insideOuter {during rest remaining : List (SlotStep α)} {outcome : Except Abort α}
      {inner : SlotMaker α} {world point : World (GuardedSlot α)} {depth : Nat}
      (vacant : world.1.slot.value = none)
      (reaches : Reaches during (entered world) depth remaining point) :
      Reaches (.overlap (.mk during outcome) inner :: rest) world (depth + 1) remaining point
  /-- The second initialization begins while the constructor of the first still runs. -/
  | alongside {during rest remaining : List (SlotStep α)} {outcome : Except Abort α}
      {inner : SlotMaker α} {inside : List (SlotAnswer α)}
      {world left point : World (GuardedSlot α)} {depth : Nat}
      (vacant : world.1.slot.value = none)
      (taken : (SlotStep.runAllGuarded during).Answers (entered world) inside left)
      (free : ¬(left.1.slot.strategy = .locked ∧ left.1.slot.value = none))
      (reaches : Reaches [.init inner] left depth remaining point) :
      Reaches (.overlap (.mk during outcome) inner :: rest) world (depth + 1) remaining point
  /-- The second initialization has waited for the lock. -/
  | behind {during rest remaining : List (SlotStep α)} {outcome : Except Abort α}
      {inner : SlotMaker α} {inside : List (SlotAnswer α)} {answer : SlotAnswer α}
      {world left next point : World (GuardedSlot α)} {depth : Nat}
      (vacant : world.1.slot.value = none)
      (taken : (SlotStep.runAllGuarded during).Answers (entered world) inside left)
      (waits : left.1.slot.strategy = .locked ∧ left.1.slot.value = none)
      (settled : (SlotStep.init (.mk during outcome)).runGuarded.Answers world answer next)
      (reaches : Reaches [.init inner] next depth remaining point) :
      Reaches (.overlap (.mk during outcome) inner :: rest) world depth remaining point

variable {steps remaining : List (SlotStep α)} {world point : World (GuardedSlot α)} {depth : Nat}

/-- Going inside of a constructor adds one to the count, and nothing else changes it. -/
theorem Reaches.inFlight (reaches : Reaches steps world depth remaining point) :
    point.1.slot.inFlight = world.1.slot.inFlight + depth := by
  induction reaches with
  | here => rfl
  | later taken _ ih => rw [ih, (runGuarded_framed taken).inFlight]
  | inside _ _ ih | insideOuter _ _ ih =>
      rw [ih]
      simp only [entered, Slot.enter]
      omega
  | alongside _ taken _ _ ih =>
      rw [ih, (runAllGuarded_framed taken).inFlight]
      simp only [entered, Slot.enter]
      omega
  | behind _ _ _ settled _ ih => rw [ih, (runGuarded_framed settled).inFlight]

/-- A run reaches its end. -/
theorem Reaches.of_answers {answers : List (SlotAnswer α)} {last : World (GuardedSlot α)}
    (run : (SlotStep.runAllGuarded steps).Answers world answers last) :
    Reaches steps world 0 [] last := by
  induction steps generalizing world answers with
  | nil =>
      rcases pure_iff.mp run with ⟨-, rfl⟩
      exact .here [] last
  | cons step rest ih =>
      rcases bind_iff.mp run with ⟨answer, next, taken, others⟩
      rcases bind_iff.mp others with ⟨answers', between, others, ends⟩
      rcases pure_iff.mp ends with ⟨-, rfl⟩
      exact .later taken (ih others)

/-! ## Attempts -/

/-- How an attempt on an empty slot ends, if the constructor's own steps have left the
value `left`: with an outcome of the constructor there goes a result, and a slot. -/
inductive Ends (before : GuardedSlot α) (left : Option α) :
    Except Abort α -> Except Abort α -> GuardedSlot α -> Prop where
  /-- A failure goes to the caller.  The slot has what the constructor's steps have left; if
  they have left nothing, it is as if there had been no attempt. -/
  | failed {failure : Abort} {after : GuardedSlot α}
      (kept : after.slot = { before.slot with value := left })
      (forgotten : left = none -> ∀ later, Alike (SlotStep.runAllGuarded later) after before) :
      Ends before left (.error failure) (.error failure) after
  | published {built winner : α} {after : GuardedSlot α}
      (ready : after.slot = { before.slot with value := some winner })
      (own : left = none -> winner = built) :
      Ends before left (.ok built) (.ok winner) after

theorem exists_end (vacant : point.1.slot.value = none) (during : List (SlotStep α))
    (outcome : Except Abort α) :
    ∃ inside left result after,
      (SlotStep.runAllGuarded during).Answers (entered point) inside left ∧
        (SlotStep.init (.mk during outcome)).runGuarded.Answers point
          (.init ⟨result, some inside⟩) after ∧
        Ends point.1 left.1.slot.value outcome result after.1 := by
  rcases runAllGuarded_answers during (entered point) with ⟨left, taken, there⟩
  rcases runGuarded_answers (.init (.mk during outcome)) point with ⟨after, settles, final⟩
  have framed : point.1.slot.enter.Framed left.1.slot := runAllGuarded_framed taken
  have there : left.1.slot = (SlotStep.recordAll during point.1.slot.enter).slot := there
  simp only [SlotStep.record, SlotMaker.initRecord, vacant, SlotMaker.record, SlotMaker.outcome,
    ← there] at settles final
  refine ⟨_, left, _, after, taken, settles, ?_⟩
  cases outcome with
  | error failure =>
      rw [Slot.settled_failure framed failure] at final ⊢
      refine .failed final ?_
      intro empty later
      apply runAllGuarded_alike
      rw [final, empty, ← vacant]
  | ok built =>
      rcases Slot.settled_built framed built with ⟨winner, same, own⟩
      rw [same] at final ⊢
      exact .published final own

/-! ## Every point -/

/-- At the point of a run the slot counts the constructors that are running, and shows
what it holds and what it counts. -/
structure Accounted (point : World (GuardedSlot α)) (running : Nat) : Prop where
  inFlight : point.1.slot.inFlight = running
  shows : ∃ state, (SlotStep.runGuarded .state).Answers point (.state state) point ∧
    (state = .ready ↔ point.1.slot.value ≠ none) ∧
    (state = .constructing ↔ point.1.slot.value = none ∧ 0 < running) ∧
    (state = .empty ↔ point.1.slot.value = none ∧ running = 0)

theorem accounted_of_inFlight (counts : point.1.slot.inFlight = depth) :
    Accounted point depth := by
  refine ⟨counts, point.1.slot.state, ?_, ?_⟩
  · exact bind_iff.mpr ⟨point.1, point, get_iff.mpr ⟨rfl, rfl⟩, pure_iff.mpr ⟨rfl, rfl⟩⟩
  · unfold Slot.state
    cases point.1.slot.value with
    | some value => simp
    | none =>
        rcases Nat.eq_zero_or_pos depth with rfl | several
        · simp [counts]
        · simp [counts, several, Nat.ne_of_gt several]

/-- In every run of steps on a slot that nobody has begun to initialize, at every point: the
slot counts the constructors that are running, its state is what it holds and counts, and
an attempt on the empty slot ends as it should, whatever has become of the lock. -/
theorem reached_point_accounted (name : String) (strategy : InitStrategy) (value : Option α)
    (lock : Lock Unit) (log : Log) (steps remaining : List (SlotStep α)) (depth : Nat)
    (point : World (GuardedSlot α))
    (reaches : Reaches steps (⟨⟨name, strategy, value, 0⟩, lock⟩, log) depth remaining point) :
    Accounted point depth ∧
      (point.1.slot.value = none -> ∀ during outcome, ∃ inside left result after,
        (SlotStep.runAllGuarded during).Answers (entered point) inside left ∧
          (SlotStep.init (.mk during outcome)).runGuarded.Answers point
            (.init ⟨result, some inside⟩) after ∧
          Accounted left (depth + 1) ∧ Accounted after depth ∧
          Ends point.1 left.1.slot.value outcome result after.1) ∧
      ∃ answers last, (SlotStep.runAllGuarded steps).Answers
        (⟨⟨name, strategy, value, 0⟩, lock⟩, log) answers last ∧ Accounted last 0 := by
  have counts : point.1.slot.inFlight = depth := by
    rw [reaches.inFlight]
    exact Nat.zero_add depth
  refine ⟨accounted_of_inFlight counts, ?_, ?_⟩
  · intro vacant during outcome
    rcases exists_end vacant during outcome with ⟨inside, left, result, after, taken, settles, ends⟩
    have entered_counts : left.1.slot.inFlight = depth + 1 := by
      rw [(runAllGuarded_framed taken).inFlight, ← counts]
      rfl
    have left_counts : after.1.slot.inFlight = depth := by
      rw [(runGuarded_framed settles).inFlight, counts]
    exact ⟨inside, left, result, after, taken, settles, accounted_of_inFlight entered_counts,
      accounted_of_inFlight left_counts, ends⟩
  · rcases exists_answer (SlotStep.runAllGuarded steps)
      (⟨⟨name, strategy, value, 0⟩, lock⟩, log) with ⟨answers, last, run⟩
    exact ⟨answers, last, run, accounted_of_inFlight (Reaches.of_answers run).inFlight⟩

/-- After a panic the next constructor runs behind a poisoned lock, and it is counted. -/
theorem accounted_behind_poisoned_lock :
    ∃ point : World (GuardedSlot String),
      Reaches [.init (.mk [] (.error .panic)), .init (.mk [.state] (.ok "built"))]
        (⟨.vacant "test" .locked, ⟨(), false⟩⟩, []) 1 [.state] point ∧
        point.1.lock.poisoned = true ∧ Accounted point 1 := by
  let failed : World (GuardedSlot String) := (⟨.vacant "test" .locked, ⟨(), true⟩⟩, [])
  have panics : (SlotStep.init (.mk [] (.error .panic))).runGuarded.Answers
      (⟨.vacant "test" .locked, ⟨(), false⟩⟩, []) (.init ⟨.error .panic, some []⟩) failed := rfl
  have reaches : Reaches [.init (.mk [] (.error .panic)), .init (.mk [.state] (.ok "built"))]
      (⟨.vacant "test" .locked, ⟨(), false⟩⟩, []) 1 [.state] (entered failed) :=
    .later panics (.inside rfl (.here _ _))
  exact ⟨entered failed, reaches, rfl,
    (reached_point_accounted "test" .locked none _ _ _ _ _ _ reaches).1⟩

end GuardedSlot

end SecureSockets
