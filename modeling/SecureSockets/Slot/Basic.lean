import SecureSockets.Log
import SecureSockets.Text.Quoted

namespace SecureSockets

/-!
Slots for default values.  A slot starts empty and becomes ready the first time a
constructor succeeds; from then on only an explicit override changes its value.  A
constructor may use the slot itself while it runs, so initialization is described as
two moments, entering and settling, with the constructor's own steps in between.
-/

inductive InitStrategy where
  /-- One constructor runs at a time; what it builds is stored. -/
  | locked
  /-- Constructors may run at the same time; the first value published wins. -/
  | lockFree
  deriving DecidableEq, Repr

def InitStrategy.name : InitStrategy → String
  | locked => "Locked"
  | lockFree => "LockFree"

/-- What can be seen of a slot without its value.  A slot that has a value is ready even
while constructors are running. -/
inductive SlotState where
  | empty
  | constructing
  | ready
  deriving DecidableEq, Repr

def SlotState.name : SlotState → String
  | empty => "Empty"
  | constructing => "Constructing"
  | ready => "Ready"

/-- A slot for a default value.  Running constructors are counted rather than marked,
because several of them may run on a lock-free slot, and one inside another on any
slot. -/
structure Slot (α : Type) where
  name : String
  strategy : InitStrategy
  value : Option α := none
  /-- The number of constructors that are running. -/
  inFlight : Nat := 0

namespace Slot

variable {α φ : Type}

def vacant (name : String) (strategy : InitStrategy) : Slot α :=
  { name, strategy }

def filled (name : String) (strategy : InitStrategy) (value : α) : Slot α :=
  { name, strategy, value := some value }

def state (slot : Slot α) : SlotState :=
  if slot.value.isSome then .ready
  else if 0 < slot.inFlight then .constructing
  else .empty

def inspect (slot : Slot α) : String :=
  Text.record "DefaultSlot"
    [("name", Text.quoted slot.name), ("strategy", slot.strategy.name),
      ("state", slot.state.name)]

def enter (slot : Slot α) : Slot α :=
  { slot with inFlight := slot.inFlight + 1 }

/-- A constructor has ended, in whatever way; one that panics is counted off like any
other. -/
def exit (slot : Slot α) : Slot α :=
  { slot with inFlight := slot.inFlight - 1 }

def fill (value : α) (slot : Slot α) : Slot α :=
  { slot with value := some value }

/-- Offers the value of a constructor that has ended.  A locked slot stores it; a
lock-free slot stores it only if it is still empty, and answers the value that won. -/
def publish (value : α) (slot : Slot α) : Logged (α × Slot α) := do
  match slot.strategy, slot.value with
  | .lockFree, some winner =>
    writeLog .debug
      ("Lost initialization race for default " ++ slot.name ++ ", discarding candidate")
    pure (winner, slot)
  | _, _ =>
    writeLog .debug ("Initialized default " ++ slot.name)
    pure (value, slot.fill value)

/-- Ends an initialization with the outcome of its constructor.  A failure publishes
nothing, but counts the constructor off all the same. -/
def settle (outcome : Except φ α) (slot : Slot α) : Logged (Except φ α × Slot α) := do
  match outcome with
  | .error failure => pure (.error failure, slot.exit)
  | .ok value =>
    let (value, slot) ← publish value slot.exit
    pure (.ok value, slot)

/-- Replaces the value of a slot.  Constructors that are running are not told. -/
def override (value : α) (slot : Slot α) : Logged (Slot α) := do
  writeLog .debug ("Default " ++ slot.name ++ " overridden")
  pure (slot.fill value)

end Slot

/-- Where a slot is kept inside a larger state.  A constructor acts on the whole state and
may thereby reach its own slot, which a slot by itself could not express. -/
structure SlotCell (σ α : Type) where
  read : σ → Slot α
  write : Slot α → σ → σ

namespace SlotCell

variable {σ α φ ρ : Type}

def whole : SlotCell (Slot α) α where
  read slot := slot
  write slot _ := slot

def override (cell : SlotCell σ α) (value : α) : Effect σ Unit := do
  let slot ← (cell.read (← get)).override value
  modify (cell.write slot)

/-- The value of a slot, built by a constructor if there is none.  The slot is read again
when the constructor has ended, as it may have changed meanwhile.  The constructor gives a
report besides its outcome, which is the answer's second part if it ran. -/
def initWith (cell : SlotCell σ α) (construct : Effect σ (Except φ α × ρ)) :
    Effect σ (Except φ α × Option ρ) := do
  match (cell.read (← get)).value with
  | some value => pure (.ok value, none)
  | none =>
    modify fun s => cell.write (cell.read s).enter s
    let (outcome, report) ← construct
    let (answer, slot) ← (cell.read (← get)).settle outcome
    modify (cell.write slot)
    pure (answer, some report)

def getOrInit (cell : SlotCell σ α) (construct : Effect σ (Except φ α)) :
    Effect σ (Except φ α) := do
  let (answer, _) ← cell.initWith (construct >>= fun outcome => pure (outcome, ()))
  pure answer

end SlotCell

end SecureSockets
