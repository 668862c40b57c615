import SecureSockets.Proofs.Slot.Cell
import SecureSockets.Proofs.Slot.Guarded

namespace SecureSockets

/-!
# When strategies make no difference

A locked slot and a lock-free one are initialized by different algorithms, and the difference
shows when a value is set while a constructor runs.  A constructor that only looks at the slot
leaves it as empty as it has found it, and then both algorithms come to the same: a value that
was built is published, and a failure or a panic publishes nothing.

A history of steps on the one slot is therefore carried over to the other, step by step, with
the same answers and the same log.  The slots differ in their strategies alone, and neither
their values nor their states tell them apart.  The locks are not looked at: a panic poisons
that of the locked slot, and this is never noticed.
-/

open Effect

variable {α : Type}

/-! ## Steps -/

namespace SlotStep

/-- The step looks at the slot and does nothing else. -/
inductive Looks : SlotStep α -> Prop where
  | get : Looks .get
  | state : Looks .state

/-- The step looks at the slot, sets its value, or initializes it by a constructor that
only looks at the slot before it ends. -/
inductive Harmless : SlotStep α -> Prop where
  | get : Harmless .get
  | state : Harmless .state
  | override (value : α) : Harmless (.override value)
  | init {during : List (SlotStep α)} (outcome : Except Abort α)
      (looks : ∀ step ∈ during, step.Looks) : Harmless (.init (.mk during outcome))

/-- Takes some steps in turn, and notes the value and the state of the slot after each. -/
def watch : List (SlotStep α) → Effect (GuardedSlot α) (List (SlotAnswer α × Option α × SlotState))
  | [] => pure []
  | step :: rest => do
    let answer ← step.runGuarded
    let slot := (← MonadState.get).slot
    let others ← watch rest
    pure ((answer, slot.value, slot.state) :: others)

end SlotStep

def Slot.under (strategy : InitStrategy) (slot : Slot α) : Slot α :=
  { slot with strategy }

/-! ## Constructors that look -/

section Looks

variable {slot : Slot α}

theorem SlotStep.Looks.answers {step : SlotStep α} (looks : step.Looks) (slot : Slot α)
    (log : Log) :
    ∃ answer, ∀ strategy, step.run.Answers (slot.under strategy, log) answer
      (slot.under strategy, log) := by
  cases looks with
  | get => exact ⟨.value slot.value, fun _ => rfl⟩
  | state => exact ⟨.state slot.state, fun _ => rfl⟩

/-- Looking leaves the slot alone, and sees the same under every strategy. -/
theorem SlotStep.Looks.all_answers {steps : List (SlotStep α)}
    (looks : ∀ step ∈ steps, step.Looks) (slot : Slot α) (log : Log) :
    ∃ answers, ∀ strategy, (SlotStep.runAll steps).Answers (slot.under strategy, log) answers
      (slot.under strategy, log) := by
  induction steps with
  | nil => exact ⟨[], fun _ => rfl⟩
  | cons step rest ih =>
      rcases List.forall_mem_cons.mp looks with ⟨first, others⟩
      rcases first.answers slot log with ⟨answer, looked⟩
      rcases ih others with ⟨answers, looked'⟩
      refine ⟨answer :: answers, fun strategy => ?_⟩
      apply bind_iff.mpr ⟨answer, _, looked strategy, ?_⟩
      exact bind_iff.mpr ⟨answers, _, looked' strategy, pure_iff.mpr ⟨rfl, rfl⟩⟩

theorem Slot.settle_under (vacant : slot.value = none) (outcome : Except Abort α) (log : Log) :
    ∃ (result : Except Abort α) (last : Slot α) (log' : Log), ∀ strategy,
      ((slot.under strategy).settle outcome).run log = ((result, last.under strategy), log') := by
  rcases slot with ⟨name, strategy, value, inFlight⟩
  cases vacant
  cases outcome with
  | error failure =>
      exact ⟨.error failure, ⟨name, strategy, none, inFlight - 1⟩, log, fun _ => rfl⟩
  | ok built =>
      refine ⟨.ok built, ⟨name, strategy, some built, inFlight - 1⟩,
        log ++ [⟨.debug, "Initialized default " ++ name⟩], fun other => ?_⟩
      cases other <;> rfl

end Looks

/-! ## Steps under every strategy -/

/-- On the slot the effect gives one answer, writes one log and leaves one slot, whatever
the strategy of the slot is. -/
def Uniform {β : Type} (effect : Effect (Slot α) β) (slot : Slot α) : Prop :=
  ∀ log, ∃ answer last log', ∀ strategy,
    effect.Answers (slot.under strategy, log) answer (Slot.under strategy last, log')

section Uniform

variable {during : List (SlotStep α)}

theorem initWith_uniform (looks : ∀ step ∈ during, step.Looks) (outcome : Except Abort α)
    (slot : Slot α) :
    Uniform (SlotMaker.initWith (SlotStep.runAll during) outcome) slot := by
  intro log
  cases holds : slot.value with
  | some value =>
      refine ⟨⟨.ok value, none⟩, slot, log, fun strategy => ?_⟩
      apply bind_iff.mpr
      exact ⟨_, _, SlotCell.whole.initWith_held (slot.under strategy, log) _ holds,
        pure_iff.mpr ⟨rfl, rfl⟩⟩
  | none =>
      rcases SlotStep.Looks.all_answers looks slot.enter log with ⟨inside, looked⟩
      have vacant : slot.enter.value = none := holds
      rcases Slot.settle_under vacant outcome log with ⟨result, last, log', settles⟩
      refine ⟨⟨result, some inside⟩, last, log', fun strategy => ?_⟩
      have ran : (SlotStep.runAll during >>= fun inside => pure (outcome, inside) :
          Effect (Slot α) _).Answers (slot.enter.under strategy, log) (outcome, inside)
            (slot.enter.under strategy, log) :=
        bind_iff.mpr ⟨inside, _, looked strategy, pure_iff.mpr ⟨rfl, rfl⟩⟩
      apply bind_iff.mpr
      exact ⟨_, _, SlotCell.whole.initWith_settled (slot.under strategy, log) holds ran
        (settles strategy), pure_iff.mpr ⟨rfl, rfl⟩⟩

theorem SlotStep.Harmless.uniform {step : SlotStep α} (harmless : step.Harmless) (slot : Slot α) :
    Uniform step.run slot := by
  intro log
  cases harmless with
  | get => exact ⟨.value slot.value, slot, log, fun _ => rfl⟩
  | state => exact ⟨.state slot.state, slot, log, fun _ => rfl⟩
  | override value =>
      refine ⟨.done, slot.fill value,
        (logged (slot, log) .debug ("Default " ++ slot.name ++ " overridden")).2,
        fun strategy => ?_⟩
      exact bind_iff.mpr ⟨(), _, SlotCell.whole.override_answers (slot.under strategy, log) value,
        pure_iff.mpr ⟨rfl, rfl⟩⟩
  | init outcome looks =>
      rcases initWith_uniform looks outcome slot log with ⟨answer, last, log', answers⟩
      refine ⟨.init answer, last, log', fun strategy => ?_⟩
      exact bind_iff.mpr ⟨answer, _, answers strategy, pure_iff.mpr ⟨rfl, rfl⟩⟩

end Uniform

/-! ## Histories behind locks -/

namespace GuardedSlot

/-- A harmless step is answered alike under every strategy and behind any lock. -/
theorem runGuarded_uniform {step : SlotStep α} (harmless : step.Harmless) (slot : Slot α)
    (log : Log) :
    ∃ answer last log', ∀ strategy lock, ∃ lock',
      step.runGuarded.Answers (⟨slot.under strategy, lock⟩, log) answer
        (⟨Slot.under strategy last, lock'⟩, log') := by
  rcases harmless.uniform slot log with ⟨answer, last, log', answers⟩
  refine ⟨answer, last, log', fun strategy lock => ?_⟩
  exact step.runGuarded_mirrors ⟨slot.under strategy, lock⟩ log _ _ _ (answers strategy)

/-- A history of harmless steps is answered alike, and each step of it leaves the slot with the
same value and in the same state. -/
theorem watch_uniform {steps : List (SlotStep α)} (harmless : ∀ step ∈ steps, step.Harmless)
    (slot : Slot α) (log : Log) :
    ∃ report last log', ∀ strategy lock, ∃ lock',
      (SlotStep.watch steps).Answers (⟨slot.under strategy, lock⟩, log) report
        (⟨Slot.under strategy last, lock'⟩, log') := by
  induction steps generalizing slot log with
  | nil => exact ⟨[], slot, log, fun strategy lock => ⟨lock, rfl⟩⟩
  | cons step rest ih =>
      rcases List.forall_mem_cons.mp harmless with ⟨first, others⟩
      rcases runGuarded_uniform first slot log with ⟨answer, next, log₁, taken⟩
      rcases ih others next log₁ with ⟨report, last, log', watched⟩
      refine ⟨(answer, next.value, next.state) :: report, last, log', fun strategy lock => ?_⟩
      rcases taken strategy lock with ⟨lock₁, taken⟩
      rcases watched strategy lock₁ with ⟨lock', watched⟩
      refine ⟨lock', bind_iff.mpr ⟨answer, _, taken, ?_⟩⟩
      apply bind_iff.mpr ⟨_, _, get_iff.mpr ⟨rfl, rfl⟩, ?_⟩
      exact bind_iff.mpr ⟨report, _, watched, pure_iff.mpr ⟨rfl, rfl⟩⟩

/-- A locked slot and a lock-free slot that start with the same value cannot be told apart by
steps whose constructors only look at the slot. -/
theorem strategies_alike (name : String) (value : Option α) (lock lock' : Lock Unit) (log : Log)
    (steps : List (SlotStep α)) (harmless : ∀ step ∈ steps, step.Harmless) :
    ∃ report last log' left left',
      (SlotStep.watch steps).Answers (⟨⟨name, .locked, value, 0⟩, lock⟩, log) report
          (⟨Slot.under .locked last, left⟩, log') ∧
        (SlotStep.watch steps).Answers (⟨⟨name, .lockFree, value, 0⟩, lock'⟩, log) report
          (⟨Slot.under .lockFree last, left'⟩, log') := by
  rcases watch_uniform harmless ⟨name, .locked, value, 0⟩ log with ⟨report, last, log', watched⟩
  rcases watched .locked lock with ⟨left, locked⟩
  rcases watched .lockFree lock' with ⟨left', lockFree⟩
  exact ⟨report, last, log', left, left', locked, lockFree⟩

/-- After a panic and a failure a constructor builds the value, and it is replaced; a locked
slot and a lock-free one report the same of it. -/
theorem retries_alike :
    let steps : List (SlotStep String) :=
      [.init (.mk [.state, .get] (.error .panic)),
        .init (.mk [] (.error (.failure (.constructionFailure "entropy")))),
        .init (.mk [.state] (.ok "built")), .override "set", .init (.mk [] (.ok "late"))]
    let report : List (SlotAnswer String × Option String × SlotState) :=
      [(.init ⟨.error .panic, some [.state .constructing, .value none]⟩, none, .empty),
        (.init ⟨.error (.failure (.constructionFailure "entropy")), some []⟩, none, .empty),
        (.init ⟨.ok "built", some [.state .constructing]⟩, some "built", .ready),
        (.done, some "set", .ready), (.init ⟨.ok "set", none⟩, some "set", .ready)]
    (∀ step ∈ steps, step.Harmless) ∧ ∃ last last',
      (SlotStep.watch steps).Answers (⟨.vacant "test" .locked, ⟨(), false⟩⟩, []) report last ∧
        (SlotStep.watch steps).Answers (⟨.vacant "test" .lockFree, ⟨(), false⟩⟩, []) report
          last' := by
  intro steps report
  have harmless : ∀ step ∈ steps, step.Harmless := by
    simp only [steps, List.forall_mem_cons]
    refine ⟨.init _ ?_, .init _ nofun, .init _ ?_, .override "set", .init _ nofun, nofun⟩
    · simp only [List.forall_mem_cons]
      exact ⟨.state, .get, nofun⟩
    · simp only [List.forall_mem_cons]
      exact ⟨.state, nofun⟩
  rcases strategies_alike "test" none ⟨(), false⟩ ⟨(), false⟩ [] steps harmless with
    ⟨report', last, log', left, left', locked, lockFree⟩
  have evaluated : ∃ last, (SlotStep.watch steps).Answers
      (⟨.vacant "test" .locked, ⟨(), false⟩⟩, []) report last := ⟨(_, _), rfl⟩
  rcases evaluated with ⟨last', evaluated⟩
  rcases evaluated.unique locked with ⟨same, -⟩
  exact ⟨harmless, last', _, evaluated, same ▸ lockFree⟩

end GuardedSlot

end SecureSockets
