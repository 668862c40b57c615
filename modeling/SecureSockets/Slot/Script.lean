import SecureSockets.Error
import SecureSockets.Slot.Basic

namespace SecureSockets

/-!
Scripts of steps on one slot.  A constructor is given by the steps that it takes on the
slot itself and by how it ends, so that everything a constructor can do to its own slot
is described.  Two initializations can be made to overlap: the second one begins when
the constructor of the first is about to end.
-/

/-- How a constructor can fail.  A panic is told apart from a failure because it goes past
everything between the constructor and whoever asked for the value. -/
inductive Abort where
  | failure (error : Error)
  /-- The constructor unwinds without an answer. -/
  | panic
  deriving DecidableEq, Repr

mutual

/-- One step on a slot.  Steps and constructors refer to each other, so that what happens
inside a constructor is described in the same words as what happens outside. -/
inductive SlotStep (α : Type) where
  | get
  | state
  | inspect
  | info
  | override (value : α)
  | init (maker : SlotMaker α)
  | overlap (outer inner : SlotMaker α)

inductive SlotMaker (α : Type) where
  | mk (during : List (SlotStep α)) (outcome : Except Abort α)

end

instance {α : Type} : Inhabited (SlotStep α) := ⟨.get⟩

instance {α : Type} : Inhabited (SlotMaker α) := ⟨.mk [] (.error .panic)⟩

/-- The answer to an initialization: its result and, if the constructor ran, the answers
to the constructor's own steps. -/
structure InitAnswer (α ρ : Type) where
  result : Except Abort α
  inside : Option (List ρ)

inductive SlotAnswer (α : Type) where
  | value (value : Option α)
  | state (state : SlotState)
  | text (text : String)
  | info (name : String) (strategy : InitStrategy)
  | done
  | init (answer : InitAnswer α (SlotAnswer α))
  /-- The second answer is missing if the first constructor did not run. -/
  | overlap (outer : InitAnswer α (SlotAnswer α)) (inner : Option (InitAnswer α (SlotAnswer α)))

namespace SlotMaker

variable {α : Type}

def outcome : SlotMaker α → Except Abort α
  | mk _ outcome => outcome

def initWith (answers : Effect (Slot α) (List (SlotAnswer α))) (outcome : Except Abort α) :
    Effect (Slot α) (InitAnswer α (SlotAnswer α)) := do
  let (result, inside) ← SlotCell.whole.initWith do
    let inside ← answers
    pure (outcome, inside)
  pure ⟨result, inside⟩

/-- Two initializations of one slot, the second one begun by another thread just before
the constructor of the first ends.  On a locked slot that is still empty the second one
has to wait for the first. -/
def overlap (outer : Effect (Slot α) (List (SlotAnswer α))) (outerOutcome : Except Abort α)
    (inner : Effect (Slot α) (InitAnswer α (SlotAnswer α))) :
    Effect (Slot α) (SlotAnswer α) := do
  let (result, report) ← SlotCell.whole.initWith do
    let inside ← outer
    let slot ← get
    if slot.strategy = .locked ∧ slot.value.isNone then
      pure (outerOutcome, (inside, none))
    else
      let answer ← inner
      pure (outerOutcome, (inside, some answer))
  match report with
  | none => pure (.overlap ⟨result, none⟩ none)
  | some (inside, some answer) => pure (.overlap ⟨result, some inside⟩ (some answer))
  | some (inside, none) =>
    let answer ← inner
    pure (.overlap ⟨result, some inside⟩ (some answer))

end SlotMaker

mutual

def SlotStep.run {α : Type} : SlotStep α → Effect (Slot α) (SlotAnswer α)
  | .get => do pure (.value (← MonadState.get).value)
  | .state => do pure (.state (← MonadState.get).state)
  | .inspect => do pure (.text (← MonadState.get).inspect)
  | .info => do
    let slot ← MonadState.get
    pure (.info slot.name slot.strategy)
  | .override value => do
    SlotCell.whole.override value
    pure .done
  | .init maker => do pure (.init (← SlotMaker.initWith maker.answers maker.outcome))
  | .overlap outer inner =>
    SlotMaker.overlap outer.answers outer.outcome
      (SlotMaker.initWith inner.answers inner.outcome)

def SlotMaker.answers {α : Type} : SlotMaker α → Effect (Slot α) (List (SlotAnswer α))
  | .mk during _ => SlotStep.runAll during

def SlotStep.runAll {α : Type} : List (SlotStep α) → Effect (Slot α) (List (SlotAnswer α))
  | [] => pure []
  | step :: rest => do
    let answer ← step.run
    let answers ← SlotStep.runAll rest
    pure (answer :: answers)

end

end SecureSockets
