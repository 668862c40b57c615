import SecureSockets.Proofs.Effect
import SecureSockets.Slot.Guarded

namespace SecureSockets

/-!
# Slots behind locks

A lock decides who may go on, but nothing is kept behind it.  A slot with its lock is
therefore seen through the slot alone: an effect mirrors another one on the slot if it
gives the same answers, writes the same log and leaves the same slot, whatever has happened
to the lock before and whatever it does to the lock itself.

Mirrors are closed under everything that steps on slots are made of, so that every script
is mirrored.  A poisoned lock changes none of the answers.
-/

open Effect

section Mirrors

variable {α β γ ρ : Type}

/-- On the slot of `guarded`, one effect does what the other one does on the slot alone.
An effect is followed from one lock to the next, so that each step starts from a certain
one. -/
def MirrorsAt (guarded : GuardedSlot α) (mirror : Effect (GuardedSlot α) β)
    (effect : Effect (Slot α) β) : Prop :=
  ∀ log value slot' log', effect.Answers (guarded.slot, log) value (slot', log') ->
    ∃ lock', mirror.Answers (guarded, log) value (⟨slot', lock'⟩, log')

def Mirrors (mirror : Effect (GuardedSlot α) β) (effect : Effect (Slot α) β) : Prop :=
  ∀ guarded, MirrorsAt guarded mirror effect

variable {guarded : GuardedSlot α} {mirror : Effect (GuardedSlot α) β}
  {effect : Effect (Slot α) β}

theorem MirrorsAt.of_pure (value : β) : MirrorsAt guarded (pure value) (pure value) := by
  intro log answer slot' log' answers
  rcases pure_iff.mp answers with ⟨rfl, same⟩
  cases same
  exact ⟨guarded.lock, pure_iff.mpr ⟨rfl, rfl⟩⟩

theorem MirrorsAt.of_bind {mirrorNext : β -> Effect (GuardedSlot α) γ}
    {next : β -> Effect (Slot α) γ} (first : MirrorsAt guarded mirror effect)
    (second : ∀ value, Mirrors (mirrorNext value) (next value)) :
    MirrorsAt guarded (mirror >>= mirrorNext) (effect >>= next) := by
  intro log value slot' log' answers
  rcases bind_iff.mp answers with ⟨middle, ⟨slot, between⟩, begins, ends⟩
  rcases first log middle slot between begins with ⟨lock, begins'⟩
  rcases second middle ⟨slot, lock⟩ between value slot' log' ends with ⟨lock', ends'⟩
  exact ⟨lock', bind_iff.mpr ⟨middle, _, begins', ends'⟩⟩

theorem MirrorsAt.of_get {mirrorNext : GuardedSlot α -> Effect (GuardedSlot α) γ}
    {next : Slot α -> Effect (Slot α) γ}
    (there : MirrorsAt guarded (mirrorNext guarded) (next guarded.slot)) :
    MirrorsAt guarded (get >>= mirrorNext) (get >>= next) := by
  intro log value slot' log' answers
  rcases bind_iff.mp answers with ⟨slot, between, looks, ends⟩
  rcases get_iff.mp looks with ⟨rfl, rfl⟩
  rcases there log value slot' log' ends with ⟨lock', ends'⟩
  exact ⟨lock', bind_iff.mpr ⟨guarded, _, get_iff.mpr ⟨rfl, rfl⟩, ends'⟩⟩

/-- A mirror may go on after it has answered, as long as nobody can tell. -/
theorem MirrorsAt.of_more {more : β -> Effect (GuardedSlot α) β}
    (first : MirrorsAt guarded mirror effect)
    (unseen : ∀ value, Mirrors (more value) (pure value)) :
    MirrorsAt guarded (mirror >>= more) effect := by
  intro log value slot' log' answers
  rcases first log value slot' log' answers with ⟨lock, begins⟩
  have stays : (pure value : Effect (Slot α) β).Answers (slot', log') value (slot', log') :=
    pure_iff.mpr ⟨rfl, rfl⟩
  rcases unseen value ⟨slot', lock⟩ log' value slot' log' stays with ⟨lock', ends⟩
  exact ⟨lock', bind_iff.mpr ⟨value, _, begins, ends⟩⟩

/-- A mirror may look around on its own. -/
theorem MirrorsAt.of_look {mirrorNext : GuardedSlot α -> Effect (GuardedSlot α) γ}
    {effect : Effect (Slot α) γ} (there : MirrorsAt guarded (mirrorNext guarded) effect) :
    MirrorsAt guarded (get >>= mirrorNext) effect := by
  intro log value slot' log' answers
  rcases there log value slot' log' answers with ⟨lock', ends'⟩
  exact ⟨lock', bind_iff.mpr ⟨guarded, _, get_iff.mpr ⟨rfl, rfl⟩, ends'⟩⟩

theorem MirrorsAt.of_modify {mirrorChange : GuardedSlot α -> GuardedSlot α}
    {change : Slot α -> Slot α} (same : (mirrorChange guarded).slot = change guarded.slot) :
    MirrorsAt guarded (modify mirrorChange) (modify change) := by
  intro log value slot' log' answers
  cases modify_iff.mp answers
  rw [← same]
  exact ⟨(mirrorChange guarded).lock, modify_iff.mpr rfl⟩

theorem MirrorsAt.of_lift (writes : Logged β) :
    MirrorsAt guarded (liftM writes) (liftM writes) := by
  intro log value slot' log' answers
  rcases lift_iff.mp answers with ⟨same, rfl⟩
  cases same
  exact ⟨guarded.lock, lift_iff.mpr ⟨rfl, rfl⟩⟩

end Mirrors

/-! ## Initializations -/

namespace GuardedSlot

variable {α ρ : Type} {mirror : Effect (GuardedSlot α) (Except Abort α × ρ)}
  {construct : Effect (Slot α) (Except Abort α × ρ)}

theorem cell_override_mirrors (value : α) :
    Mirrors (cell.override value) (SlotCell.whole.override value) := by
  intro guarded
  unfold SlotCell.override
  apply MirrorsAt.of_get
  apply MirrorsAt.of_bind (.of_lift _)
  intro slot guarded
  exact .of_modify rfl

theorem cell_initWith_mirrors (mirrors : Mirrors mirror construct) :
    Mirrors (cell.initWith mirror) (SlotCell.whole.initWith construct) := by
  intro guarded
  unfold SlotCell.initWith
  apply MirrorsAt.of_get
  have same : cell.read guarded = SlotCell.whole.read guarded.slot := rfl
  rw [same]
  cases (SlotCell.whole.read guarded.slot).value with
  | some value => exact .of_pure _
  | none =>
      apply MirrorsAt.of_bind (.of_modify rfl)
      intro _ entered
      apply MirrorsAt.of_bind (mirrors entered)
      rintro ⟨outcome, report⟩ during
      apply MirrorsAt.of_get
      apply MirrorsAt.of_bind (.of_lift _)
      rintro ⟨answer, slot⟩ settled
      apply MirrorsAt.of_bind (.of_modify rfl)
      exact fun _ _ => .of_pure _

/-- Poisoning the lock is invisible. -/
theorem poison_mirrors {β : Type} (value : β) :
    Mirrors (do
      modify fun guarded : GuardedSlot α => { guarded with lock := guarded.lock.poison }
      pure value) (pure value) := by
  intro guarded log answer slot' log' answers
  rcases pure_iff.mp answers with ⟨rfl, same⟩
  cases same
  refine ⟨guarded.lock.poison, bind_iff.mpr ⟨⟨⟩, _, modify_iff.mpr rfl, ?_⟩⟩
  exact pure_iff.mpr ⟨rfl, rfl⟩

theorem locking_mirrors {mirror : Effect (GuardedSlot α) (Except Abort α × Option ρ)}
    {init : Effect (Slot α) (Except Abort α × Option ρ)} (mirrors : Mirrors mirror init) :
    Mirrors (locking mirror) init := by
  intro guarded
  apply MirrorsAt.of_look
  apply MirrorsAt.of_more (mirrors guarded)
  rintro ⟨result, report⟩
  match result with
  | .ok value => exact fun _ => .of_pure _
  | .error (.failure error) => exact fun _ => .of_pure _
  | .error .panic => exact poison_mirrors _

/-- A slot is initialized behind its lock as it is without one. -/
theorem initWith_mirrors (mirrors : Mirrors mirror construct) :
    Mirrors (initWith mirror) (SlotCell.whole.initWith construct) := by
  rintro ⟨⟨name, strategy, value, inFlight⟩, lock⟩
  apply MirrorsAt.of_look
  cases value with
  | some value =>
      unfold SlotCell.initWith
      intro log answer slot' log' answers
      rcases bind_iff.mp answers with ⟨slot, between, looks, ends⟩
      rcases get_iff.mp looks with ⟨rfl, rfl⟩
      exact MirrorsAt.of_pure _ _ _ _ _ ends
  | none =>
      cases strategy with
      | lockFree => exact cell_initWith_mirrors mirrors _
      | locked => exact locking_mirrors (cell_initWith_mirrors mirrors) _

variable {answers' : Effect (GuardedSlot α) (List (SlotAnswer α))}
  {answers : Effect (Slot α) (List (SlotAnswer α))}

theorem initBy_mirrors (mirrors : Mirrors answers' answers) (outcome : Except Abort α) :
    Mirrors (initBy answers' outcome) (SlotMaker.initWith answers outcome) := by
  intro guarded
  apply MirrorsAt.of_bind
  · apply initWith_mirrors
    intro entered
    apply MirrorsAt.of_bind (mirrors entered)
    exact fun inside _ => .of_pure _
  · exact fun _ _ => .of_pure _

theorem overlap_mirrors {inner' : Effect (GuardedSlot α) (InitAnswer α (SlotAnswer α))}
    {inner : Effect (Slot α) (InitAnswer α (SlotAnswer α))} (mirrors : Mirrors answers' answers)
    (outcome : Except Abort α) (others : Mirrors inner' inner) :
    Mirrors (overlap answers' outcome inner') (SlotMaker.overlap answers outcome inner) := by
  intro guarded
  apply MirrorsAt.of_bind
  · apply initWith_mirrors
    intro entered
    apply MirrorsAt.of_bind (mirrors entered)
    intro inside during
    apply MirrorsAt.of_get
    by_cases waits : during.slot.strategy = .locked ∧ during.slot.value.isNone
    · simp only [waits, and_self, if_true]
      exact .of_pure _
    · simp only [waits, if_false]
      apply MirrorsAt.of_bind (others during)
      exact fun _ _ => .of_pure _
  · rintro ⟨result, report⟩ settled
    match report with
    | none => exact .of_pure _
    | some (inside, some answer) => exact .of_pure _
    | some (inside, none) =>
        apply MirrorsAt.of_bind (others settled)
        exact fun _ _ => .of_pure _

end GuardedSlot

/-! ## Scripts -/

theorem looks_mirrors {α : Type} (answer : Slot α -> SlotAnswer α) :
    Mirrors (do pure (answer (← get).slot)) (do pure (answer (← get))) :=
  fun _ => .of_get (.of_pure _)

mutual

theorem SlotStep.runGuarded_mirrors {α : Type} (step : SlotStep α) :
    Mirrors step.runGuarded step.run := by
  cases step with
  | get => exact looks_mirrors fun slot => .value slot.value
  | state => exact looks_mirrors fun slot => .state slot.state
  | inspect => exact looks_mirrors fun slot => .text slot.inspect
  | info => exact looks_mirrors fun slot => .info slot.name slot.strategy
  | override value =>
      intro guarded
      apply MirrorsAt.of_bind (GuardedSlot.cell_override_mirrors value guarded)
      exact fun _ _ => .of_pure _
  | init maker =>
      intro guarded
      have initializes := GuardedSlot.initBy_mirrors maker.answersGuarded_mirrors maker.outcome
      apply MirrorsAt.of_bind (initializes guarded)
      exact fun _ _ => .of_pure _
  | overlap outer inner =>
      have second := GuardedSlot.initBy_mirrors inner.answersGuarded_mirrors inner.outcome
      exact GuardedSlot.overlap_mirrors outer.answersGuarded_mirrors outer.outcome second

theorem SlotMaker.answersGuarded_mirrors {α : Type} (maker : SlotMaker α) :
    Mirrors maker.answersGuarded maker.answers := by
  cases maker with
  | mk during outcome => exact SlotStep.runAllGuarded_mirrors during

theorem SlotStep.runAllGuarded_mirrors {α : Type} (steps : List (SlotStep α)) :
    Mirrors (SlotStep.runAllGuarded steps) (SlotStep.runAll steps) := by
  cases steps with
  | nil => exact fun _ => .of_pure _
  | cons step rest =>
      intro guarded
      apply MirrorsAt.of_bind (step.runGuarded_mirrors guarded)
      intro answer between
      apply MirrorsAt.of_bind (SlotStep.runAllGuarded_mirrors rest between)
      exact fun _ _ => .of_pure _

end

end SecureSockets
