import SecureSockets.Proofs.Slot.Agreement

namespace SecureSockets

/-!
# Scripts as interleavings

A script runs each initialization in one go, and the small steps of callers take it apart.
They describe the same slots: every script is an interleaving of callers that return what
the initializations of the script return and leave the slot that the script leaves.  An
initialization by a constructor is a caller of its own, which acts while the caller that
runs the constructor stays where it is.

On a locked slot an initialization by a constructor would wait for the lock that is held
for the constructor, so scripts of that kind are left out there.
-/

variable {α : Type}

/-! ## Scripts that a locked slot can run -/

def SlotStep.Quiet : SlotStep α -> Prop
  | .init _ | .overlap _ _ => False
  | _ => True

def SlotMaker.Quiet : SlotMaker α -> Prop
  | .mk during _ => ∀ step ∈ during, step.Quiet

/-- No constructor of the step initializes the slot.  On a locked slot it would wait for
the lock that is held for itself. -/
def SlotStep.Plain : SlotStep α -> Prop
  | .init maker => maker.Quiet
  | .overlap outer inner => outer.Quiet ∧ inner.Quiet
  | _ => True

namespace Slot

def CallEvent.result? : CallEvent α -> Option (Except Abort α)
  | returned _ result => some result
  | _ => none

/-! ## One call -/

/-- While a caller runs its constructor it has the lock for itself, unless it needs
none. -/
def Lent (caller : Nat) (holder during : Option Nat) : Prop :=
  (during = holder ∧ holder ≠ some caller) ∨ (during = some caller ∧ holder = none)

namespace Acts

variable {caller : Nat} {slot : Slot α} {holder during : Option Nat}

theorem enter (vacant : slot.value = none) (free : slot.strategy = .locked -> holder = none)
    (apart : holder ≠ some caller) :
    ∃ calls during, Lent caller holder during ∧ calls.filterMap CallEvent.result? = [] ∧
      Acts caller ⟨slot, holder, .uncalled⟩ calls ⟨slot.enter, during, .constructing⟩ := by
  cases strategy : slot.strategy with
  | lockFree => exact ⟨_, holder, Or.inl ⟨rfl, apart⟩, rfl, .begin vacant strategy⟩
  | locked =>
      have none := free strategy
      subst none
      exact ⟨_, some caller, Or.inr ⟨rfl, rfl⟩, rfl, .beginLocked vacant strategy⟩

theorem leave (slot : Slot α) (lent : Lent caller holder during) (result : Except Abort α) :
    ∃ calls, calls.filterMap CallEvent.result? = [result] ∧
      Acts caller ⟨slot, during, .leaving result⟩ calls ⟨slot, holder, .returned result⟩ := by
  rcases lent with ⟨rfl, apart⟩ | ⟨rfl, rfl⟩
  · exact ⟨_, rfl, .next (.returned _ _ _ apart) (.done _)⟩
  · exact ⟨_, rfl, .next (.unlocked ..) (.next (.returned _ _ _ nofun) (.done _))⟩

theorem settle (slot : Slot α) (lent : Lent caller holder during) (outcome : Except Abort α) :
    ∃ calls, calls.filterMap CallEvent.result? = [(slot.settled outcome).1] ∧
      Acts caller ⟨slot, during, .constructing⟩ calls
        ⟨(slot.settled outcome).2, holder, .returned (slot.settled outcome).1⟩ := by
  cases outcome with
  | error failure =>
      rcases leave slot.exit lent (.error failure) with ⟨calls, results, leaves⟩
      exact ⟨.ended caller (.error failure) :: calls, results, .next (.failed ..) leaves⟩
  | ok built =>
      let winner := slot.exit.published built
      rcases leave winner.2 lent (.ok winner.1) with ⟨calls, results, leaves⟩
      exact ⟨.ended caller (.ok built) :: .offered caller winner.1 :: calls, results,
        .next (.built ..) (.next (.offered ..) leaves)⟩

end Acts

/-! ## Parts of a history -/

/-- From some number on, no caller has called yet.  There is always one left for the next
initialization. -/
def Config.Fresh (c : Config α) (first : Nat) : Prop :=
  ∀ caller, first ≤ caller -> c.stage caller = .uncalled ∧ c.holder ≠ some caller

/-- New callers make a part of a history happen, while all others stay where they are. -/
structure Plays (c : Config α) (first : Nat) (events : List (SlotEvent α)) (last : Config α)
    (next : Nat) (calls : List (CallEvent α)) : Prop where
  run : Run c calls last
  holder : last.holder = c.holder
  order : first ≤ next
  fresh : last.Fresh next
  others : ∀ caller, caller < first -> last.stage caller = c.stage caller
  results : calls.filterMap CallEvent.result? = events.filterMap SlotEvent.result?

/-- Whatever the callers before have done, a part of a history can happen from then on; if
it needs the lock, then only while nobody holds it. -/
def Schedules (needsLock : Prop) (slot : Slot α) (events : List (SlotEvent α))
    (final : Slot α) : Prop :=
  ∀ (c : Config α) first, c.slot = slot -> c.Fresh first ->
    (needsLock -> slot.strategy = .locked -> c.holder = none) ->
    ∃ last next calls, Plays c first events last next calls ∧ last.slot = final

namespace Schedules

variable {needsLock : Prop} {slot middle final : Slot α} {events more : List (SlotEvent α)}

theorem nil (slot : Slot α) : Schedules needsLock slot [] slot :=
  fun c first same fresh _ =>
    ⟨c, first, [], ⟨.start, rfl, Nat.le_refl _, fresh, fun _ _ => rfl, rfl⟩, same⟩

theorem append (before : Schedules needsLock slot events middle)
    (after : Schedules needsLock middle more final) :
    Schedules needsLock slot (events ++ more) final := by
  intro c first same fresh free
  rcases before c first same fresh free with ⟨between, second, calls, plays, there⟩
  have strategy : middle.strategy = slot.strategy := there ▸ same ▸ plays.run.strategy
  have free' : needsLock -> middle.strategy = .locked -> between.holder = none :=
    fun needs locked => plays.holder.trans (free needs (strategy.symm.trans locked))
  rcases after between second there plays.fresh free' with ⟨last, next, calls', plays', here⟩
  refine ⟨last, next, calls ++ calls', ⟨?_, ?_, ?_, plays'.fresh, ?_, ?_⟩, here⟩
  · exact plays.run.append plays'.run
  · exact plays'.holder.trans plays.holder
  · exact Nat.le_trans plays.order plays'.order
  · intro caller earlier
    exact (plays'.others caller (Nat.lt_of_lt_of_le earlier plays.order)).trans
      (plays.others caller earlier)
  · rw [List.filterMap_append, List.filterMap_append, plays.results, plays'.results]

/-- Nothing needs the lock of a lock-free slot. -/
theorem unlocked (lockFree : slot.strategy = .lockFree)
    (schedules : Schedules needsLock slot events final) : Schedules False slot events final :=
  fun c first same fresh _ =>
    schedules c first same fresh fun _ locked => absurd (locked.symm.trans lockFree) nofun

theorem seen (slot : Slot α) : Schedules needsLock slot [.seen] slot :=
  fun c first same fresh _ =>
    ⟨c, first, _, ⟨.single (.got c), rfl, Nat.le_refl _, fresh, fun _ _ => rfl, rfl⟩, same⟩

theorem overridden (slot : Slot α) (value : α) :
    Schedules needsLock slot [.overridden value] (slot.fill value) :=
  fun c first same fresh _ =>
    ⟨_, first, _, ⟨.single (.overridden c value), rfl, Nat.le_refl _, fresh, fun _ _ => rfl, rfl⟩,
      congrArg (Slot.fill value) same⟩

theorem found {value : α} (holds : slot.value = some value) :
    Schedules needsLock slot [.found value] slot := by
  rintro c first rfl fresh -
  have own := fresh first (Nat.le_refl _)
  have here : c.restrict first = ⟨c.slot, c.holder, .uncalled⟩ := by rw [← own.1]; rfl
  refine ⟨_, first + 1, _,
    ⟨(Acts.ready holds own.2).run here, rfl, Nat.le_succ _, ?_, ?_, rfl⟩, rfl⟩
  · intro caller later
    have untouched := fresh caller (Nat.le_of_succ_le later)
    exact ⟨(c.extend_stage_of_ne _ (Nat.ne_of_gt later)).trans untouched.1, untouched.2⟩
  · exact fun caller earlier => c.extend_stage_of_ne _ (Nat.ne_of_lt earlier)

/-- An initialization that runs its constructor needs the lock, and what happens inside the
constructor must do without it. -/
theorem init {during : Slot α} (vacant : slot.value = none)
    (inside : Schedules False slot.enter events during) (outcome : Except Abort α) :
    Schedules True slot (.entered :: events ++ [.settled outcome (during.settled outcome).1])
      (during.settled outcome).2 := by
  rintro c first rfl fresh free
  have own := fresh first (Nat.le_refl _)
  have here : c.restrict first = ⟨c.slot, c.holder, .uncalled⟩ := by rw [← own.1]; rfl
  rcases Acts.enter vacant (free trivial) own.2 with ⟨entering, held, lent, silent, enters⟩
  have entered := enters.run here
  have fresh' : (c.extend first ⟨c.slot.enter, held, .constructing⟩).Fresh (first + 1) := by
    intro caller later
    have untouched := fresh caller (Nat.le_of_succ_le later)
    refine ⟨(c.extend_stage_of_ne _ (Nat.ne_of_gt later)).trans untouched.1, ?_⟩
    rcases lent with ⟨same, -⟩ | ⟨same, -⟩
    · exact fun holds => untouched.2 (same ▸ holds)
    · exact fun holds => Nat.ne_of_gt later (Option.some.inj (holds.symm.trans same))
  rcases inside _ (first + 1) rfl fresh' False.elim with ⟨inner, next, calls, plays, rfl⟩
  have stays : inner.stage first = .constructing :=
    (plays.others first (Nat.lt_succ_self _)).trans (c.extend_stage_self first _)
  have here' : inner.restrict first = ⟨inner.slot, held, .constructing⟩ := by
    have holder : inner.holder = held := plays.holder
    rw [← stays, ← holder]
    rfl
  rcases Acts.settle inner.slot lent outcome with ⟨leaving, results, settles⟩
  refine ⟨_, next, _, ⟨(entered.append plays.run).append (settles.run here'), rfl, ?_, ?_, ?_, ?_⟩,
    rfl⟩
  · exact Nat.le_of_succ_le plays.order
  · intro caller later
    have beyond : first < caller := Nat.lt_of_lt_of_le plays.order later
    refine ⟨?_, (fresh caller (Nat.le_of_lt beyond)).2⟩
    exact (inner.extend_stage_of_ne _ (Nat.ne_of_gt beyond)).trans (plays.fresh caller later).1
  · intro caller earlier
    have same := plays.others caller (Nat.lt_succ_of_lt earlier)
    exact (inner.extend_stage_of_ne _ (Nat.ne_of_lt earlier)).trans
      (same.trans (c.extend_stage_of_ne _ (Nat.ne_of_lt earlier)))
  · simp only [List.filterMap_append, silent, plays.results, results, List.cons_append,
      List.filterMap_cons, SlotEvent.result?, List.nil_append, List.filterMap_nil]

theorem initRecord {inside : Slot α -> SlotRecord α (List (SlotAnswer α))}
    (outcome : Except Abort α)
    (within : Schedules False slot.enter (inside slot.enter).events (inside slot.enter).slot) :
    Schedules True slot (SlotMaker.initRecord inside outcome slot).events
      (SlotMaker.initRecord inside outcome slot).slot := by
  unfold SlotMaker.initRecord
  cases holds : slot.value with
  | some value => exact .found holds
  | none => exact .init holds within outcome

/-- Overlapping initializations.  The second one runs a constructor inside that of the first
only on a lock-free slot. -/
theorem overlapRecord {outer : Slot α -> SlotRecord α (List (SlotAnswer α))}
    (outcome : Except Abort α) {inner : Slot α -> SlotRecord α (List (SlotAnswer α))}
    (innerOutcome : Except Abort α)
    (keeps : (outer slot.enter).slot.strategy = slot.strategy)
    (within : Schedules False slot.enter (outer slot.enter).events (outer slot.enter).slot)
    (behind : ∀ free : Slot α, free.strategy = slot.strategy ->
      Schedules False free.enter (inner free.enter).events (inner free.enter).slot) :
    let record :=
      SlotMaker.overlapRecord outer outcome (SlotMaker.initRecord inner innerOutcome) slot
    Schedules True slot record.events record.slot := by
  unfold SlotMaker.overlapRecord
  cases holds : slot.value with
  | some value => exact .found holds
  | none =>
      have first := Schedules.init holds within outcome
      simp only
      split
      · next waits =>
          have kept := (settled_strategy (outer slot.enter).slot outcome).trans keeps
          have second := Schedules.initRecord innerOutcome (behind _ kept)
          have both := first.append second
          rw [List.append_assoc] at both
          exact both
      · next goes =>
          have inside : Schedules False (outer slot.enter).slot
              (SlotMaker.initRecord inner innerOutcome (outer slot.enter).slot).events
              (SlotMaker.initRecord inner innerOutcome (outer slot.enter).slot).slot := by
            have second := Schedules.initRecord innerOutcome (behind _ keeps)
            cases strategy : (outer slot.enter).slot.strategy with
            | lockFree => exact second.unlocked strategy
            | locked =>
                cases there : (outer slot.enter).slot.value with
                | none => exact absurd ⟨strategy, there ▸ rfl⟩ goes
                | some value =>
                    unfold SlotMaker.initRecord
                    rw [there]
                    exact .found there
          exact .init holds (within.append inside) outcome

end Schedules

end Slot

/-! ## Scripts -/

open Slot

theorem SlotStep.Quiet.schedules {step : SlotStep α} (quiet : step.Quiet) (slot : Slot α) :
    Schedules False slot (step.record slot).events (step.record slot).slot := by
  cases step with
  | get | state | inspect | info => exact .seen slot
  | override value => exact .overridden slot value
  | init maker => exact quiet.elim
  | overlap outer inner => exact quiet.elim

theorem SlotStep.allSchedules_of_quiet {steps : List (SlotStep α)}
    (quiet : ∀ step ∈ steps, step.Quiet) (slot : Slot α) :
    Schedules False slot (SlotStep.recordAll steps slot).events
      (SlotStep.recordAll steps slot).slot := by
  induction steps generalizing slot with
  | nil => exact .nil slot
  | cons step rest ih =>
      have first := (quiet step List.mem_cons_self).schedules slot
      exact first.append (ih (fun other later => quiet other (List.mem_cons_of_mem _ later)) _)

mutual

theorem SlotStep.schedules (step : SlotStep α) (slot : Slot α)
    (allowed : slot.strategy = .lockFree ∨ step.Plain) :
    Schedules True slot (step.record slot).events (step.record slot).slot := by
  cases step with
  | get | state | inspect | info => exact .seen slot
  | override value => exact .overridden slot value
  | init maker => exact .initRecord maker.outcome (maker.schedules slot.enter allowed)
  | overlap outer inner =>
      have outer_allowed := allowed.imp_right And.left
      have inner_allowed := allowed.imp_right And.right
      exact .overlapRecord outer.outcome inner.outcome (outer.records slot.enter).path.strategy
        (outer.schedules slot.enter outer_allowed)
        fun free same => inner.schedules free.enter (inner_allowed.imp_left same.trans)

/-- What a constructor does to the slot can happen while the lock is held. -/
theorem SlotMaker.schedules (maker : SlotMaker α) (slot : Slot α)
    (allowed : slot.strategy = .lockFree ∨ maker.Quiet) :
    Schedules False slot (maker.record slot).events (maker.record slot).slot := by
  cases maker with
  | mk during outcome =>
      rcases allowed with lockFree | quiet
      · exact (SlotStep.allSchedules during slot (.inl lockFree)).unlocked lockFree
      · exact SlotStep.allSchedules_of_quiet quiet slot

theorem SlotStep.allSchedules (steps : List (SlotStep α)) (slot : Slot α)
    (allowed : slot.strategy = .lockFree ∨ ∀ step ∈ steps, step.Plain) :
    Schedules True slot (SlotStep.recordAll steps slot).events
      (SlotStep.recordAll steps slot).slot := by
  cases steps with
  | nil => exact .nil slot
  | cons step rest =>
      have first := step.schedules slot
        (allowed.imp_right fun plain => plain step List.mem_cons_self)
      have keeps := (step.records slot).path.strategy
      have others := SlotStep.allSchedules rest (step.record slot).slot
        (allowed.imp keeps.trans fun plain other later =>
          plain other (List.mem_cons_of_mem _ later))
      exact first.append others

end

/-- Every script that a slot can run is an interleaving of callers: they return what the
initializations of the script return, and they leave the slot that the script leaves. -/
theorem SlotStep.runAll_scheduled (steps : List (SlotStep α)) (slot : Slot α)
    (allowed : slot.strategy = .lockFree ∨ ∀ step ∈ steps, step.Plain) :
    ∃ answers calls last, (SlotStep.runAll steps).Yields slot answers last.slot ∧
      Run (.idle slot) calls last ∧
      (calls.filterMap CallEvent.result?).Perm (SlotAnswer.allResults answers) := by
  have records := SlotStep.allRecords steps slot
  have fresh : (Config.idle slot).Fresh 0 := fun _ _ => ⟨rfl, nofun⟩
  rcases SlotStep.allSchedules steps slot allowed (.idle slot) 0 rfl fresh fun _ _ => rfl with
    ⟨last, _, calls, plays, there⟩
  exact ⟨_, calls, last, there ▸ records.yields, plays.run, plays.results ▸ records.returns⟩

end SecureSockets
