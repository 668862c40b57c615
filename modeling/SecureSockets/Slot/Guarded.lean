import SecureSockets.Lock
import SecureSockets.Slot.Script

namespace SecureSockets

/-!
Slots with their locks.  An initialization of a locked slot that finds no value takes the
lock, looks again, and holds the lock until it has published what its constructor built.
A constructor that panics meanwhile poisons the lock.  There is nothing behind the lock, so
a poisoned one is as good as any other.

Steps are taken on such a slot as they are on a slot alone, but for initializations.  A
constructor that holds the lock and initializes the empty slot again would wait for itself;
scripts are not meant to do that.
-/

structure GuardedSlot (α : Type) where
  slot : Slot α
  lock : Lock Unit := ⟨(), false⟩

namespace GuardedSlot

variable {α ρ : Type}

def cell : SlotCell (GuardedSlot α) α where
  read guarded := guarded.slot
  write slot guarded := { guarded with slot }

/-- Holds the lock during an initialization.  A poisoned lock is recovered, since there is
nothing behind it that a panic could have spoilt. -/
def locking (init : Effect (GuardedSlot α) (Except Abort α × Option ρ)) :
    Effect (GuardedSlot α) (Except Abort α × Option ρ) := do
  let () := (← get).lock.recover
  let (result, report) ← init
  match result with
  | .error .panic => do
    modify fun guarded => { guarded with lock := guarded.lock.poison }
    pure (result, report)
  | _ => pure (result, report)

/-- The value of a slot, built by a constructor if there is none.  That there is a value
is noticed without the lock, so a ready slot is read even while its lock is poisoned. -/
def initWith (construct : Effect (GuardedSlot α) (Except Abort α × ρ)) :
    Effect (GuardedSlot α) (Except Abort α × Option ρ) := do
  let slot := (← get).slot
  match slot.value, slot.strategy with
  | some value, _ => pure (.ok value, none)
  | none, .lockFree => cell.initWith construct
  | none, .locked => locking (cell.initWith construct)

def initBy (answers : Effect (GuardedSlot α) (List (SlotAnswer α))) (outcome : Except Abort α) :
    Effect (GuardedSlot α) (InitAnswer α (SlotAnswer α)) := do
  let (result, inside) ← initWith do
    let inside ← answers
    pure (outcome, inside)
  pure ⟨result, inside⟩

/-- Two initializations of one slot, the second one begun by another thread just before
the constructor of the first ends.  If the first holds the lock and the slot is still
empty, the second one waits for the lock. -/
def overlap (outer : Effect (GuardedSlot α) (List (SlotAnswer α)))
    (outerOutcome : Except Abort α) (inner : Effect (GuardedSlot α) (InitAnswer α (SlotAnswer α))) :
    Effect (GuardedSlot α) (SlotAnswer α) := do
  let (result, report) ← initWith do
    let inside ← outer
    let slot := (← get).slot
    if slot.strategy = .locked ∧ slot.value.isNone then
      pure (outerOutcome, (inside, none))
    else
      let answer ← inner
      pure (outerOutcome, (inside, some answer))
  match report with
  | none => pure (.overlap ⟨result, none⟩ none)
  | some (inside, some answer) => pure (.overlap ⟨result, some inside⟩ (some answer))
  | some (inside, none) =>
    let answer ← inner
    pure (.overlap ⟨result, some inside⟩ (some answer))

end GuardedSlot

mutual

def SlotStep.runGuarded {α : Type} : SlotStep α → Effect (GuardedSlot α) (SlotAnswer α)
  | .get => do pure (.value (← MonadState.get).slot.value)
  | .state => do pure (.state (← MonadState.get).slot.state)
  | .inspect => do pure (.text (← MonadState.get).slot.inspect)
  | .info => do
    let slot := (← MonadState.get).slot
    pure (.info slot.name slot.strategy)
  | .override value => do
    GuardedSlot.cell.override value
    pure .done
  | .init maker => do pure (.init (← GuardedSlot.initBy maker.answersGuarded maker.outcome))
  | .overlap outer inner =>
    GuardedSlot.overlap outer.answersGuarded outer.outcome
      (GuardedSlot.initBy inner.answersGuarded inner.outcome)

def SlotMaker.answersGuarded {α : Type} :
    SlotMaker α → Effect (GuardedSlot α) (List (SlotAnswer α))
  | .mk during _ => SlotStep.runAllGuarded during

def SlotStep.runAllGuarded {α : Type} :
    List (SlotStep α) → Effect (GuardedSlot α) (List (SlotAnswer α))
  | [] => pure []
  | step :: rest => do
    let answer ← step.runGuarded
    let answers ← SlotStep.runAllGuarded rest
    pure (answer :: answers)

end

end SecureSockets
