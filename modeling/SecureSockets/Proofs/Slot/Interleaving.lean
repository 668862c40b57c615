import Mathlib.Data.List.Induction
import Mathlib.Logic.Function.Basic
import SecureSockets.Proofs.Slot.History

namespace SecureSockets.Slot

/-!
# Interleaved initializations

Initializations of one slot may overlap: on other threads, or inside the constructor of
another one.  A script shows a few such overlaps.  Here every initialization is a caller
that takes small steps of its own, and the steps of any number of callers may follow each
other in any order, with other threads looking at the slot and overriding it in between.

A caller first looks whether the slot holds a value.  If not, it runs its constructor and
offers the slot what that has built; a caller of a locked slot takes the lock before, looks
once more, and gives the lock back at the end.  What a step does to the slot is said by
the operations on slots, and a constructor may end in a value, a failure or a panic.

Each rule speaks of one caller, so what a step does is first said of a single caller
(`Act`) and only then of all of them (`Step`).
-/

/-- How far a caller has come. -/
inductive Stage (α : Type) where
  | uncalled
  /-- About to look whether the slot holds a value. -/
  | looking
  /-- Waits for the lock, having found nothing. -/
  | waiting
  /-- Holds the lock and is about to look again. -/
  | rechecking
  /-- About to run its constructor, having found nothing. -/
  | entering
  | constructing
  /-- The constructor has ended in a value, which has not been offered yet. -/
  | offering (built : α)
  /-- Knows what it will return, but may still hold the lock. -/
  | leaving (result : Except Abort α)
  | returned (result : Except Abort α)

/-- What can happen while callers initialize a slot. -/
inductive CallEvent (α : Type) where
  /-- Somebody asks for the value. -/
  | got (answer : Option α)
  | overridden (value : α)
  | called (caller : Nat)
  | found (caller : Nat) (value : α)
  | missed (caller : Nat)
  | locked (caller : Nat)
  | entered (caller : Nat)
  | ended (caller : Nat) (outcome : Except Abort α)
  /-- A caller has offered a value, and this is the value that won. -/
  | offered (caller : Nat) (winner : α)
  | unlocked (caller : Nat)
  | returned (caller : Nat) (result : Except Abort α)

def CallEvent.offer? {α : Type} : CallEvent α -> Option α
  | offered _ winner => some winner
  | _ => none

/-- What one caller deals with: the slot, the holder of the lock, and its own stage. -/
structure Local (α : Type) where
  slot : Slot α
  holder : Option Nat
  stage : Stage α

/-- A slot with all of its callers.  There is no bound on their number, and those that
never call stay as they are. -/
structure Config (α : Type) where
  slot : Slot α
  holder : Option Nat
  stage : Nat -> Stage α

namespace Config

variable {α : Type}

def idle (slot : Slot α) : Config α :=
  ⟨slot, none, fun _ => .uncalled⟩

def restrict (c : Config α) (caller : Nat) : Local α :=
  ⟨c.slot, c.holder, c.stage caller⟩

/-- The callers after one of them has acted. -/
def extend (c : Config α) (caller : Nat) (after : Local α) : Config α :=
  ⟨after.slot, after.holder, Function.update c.stage caller after.stage⟩

@[simp] theorem extend_stage_self (c : Config α) (caller : Nat) (after : Local α) :
    (c.extend caller after).stage caller = after.stage :=
  Function.update_self ..

theorem extend_stage_of_ne (c : Config α) {caller other : Nat} (after : Local α)
    (different : other ≠ caller) : (c.extend caller after).stage other = c.stage other :=
  Function.update_of_ne different ..

end Config

variable {α : Type}

/-- What a caller may do next.  The rules of the locked algorithm and of the lock-free one
are parted by the strategy only where the algorithms part. -/
inductive Act (caller : Nat) : Local α -> CallEvent α -> Local α -> Prop where
  | called (slot : Slot α) (holder : Option Nat) :
      Act caller ⟨slot, holder, .uncalled⟩ (.called caller) ⟨slot, holder, .looking⟩
  | found (slot : Slot α) (holder : Option Nat) (value : α) (holds : slot.value = some value) :
      Act caller ⟨slot, holder, .looking⟩ (.found caller value)
        ⟨slot, holder, .leaving (.ok value)⟩
  | missed (slot : Slot α) (holder : Option Nat) (vacant : slot.value = none)
      (lockFree : slot.strategy = .lockFree) :
      Act caller ⟨slot, holder, .looking⟩ (.missed caller) ⟨slot, holder, .entering⟩
  | queued (slot : Slot α) (holder : Option Nat) (vacant : slot.value = none)
      (locked : slot.strategy = .locked) :
      Act caller ⟨slot, holder, .looking⟩ (.missed caller) ⟨slot, holder, .waiting⟩
  | locked (slot : Slot α) :
      Act caller ⟨slot, none, .waiting⟩ (.locked caller) ⟨slot, some caller, .rechecking⟩
  | refound (slot : Slot α) (holder : Option Nat) (value : α)
      (holds : slot.value = some value) :
      Act caller ⟨slot, holder, .rechecking⟩ (.found caller value)
        ⟨slot, holder, .leaving (.ok value)⟩
  | remissed (slot : Slot α) (holder : Option Nat) (vacant : slot.value = none) :
      Act caller ⟨slot, holder, .rechecking⟩ (.missed caller) ⟨slot, holder, .entering⟩
  | entered (slot : Slot α) (holder : Option Nat) :
      Act caller ⟨slot, holder, .entering⟩ (.entered caller) ⟨slot.enter, holder, .constructing⟩
  | built (slot : Slot α) (holder : Option Nat) (value : α) :
      Act caller ⟨slot, holder, .constructing⟩ (.ended caller (.ok value))
        ⟨slot.exit, holder, .offering value⟩
  | failed (slot : Slot α) (holder : Option Nat) (failure : Abort) :
      Act caller ⟨slot, holder, .constructing⟩ (.ended caller (.error failure))
        ⟨slot.exit, holder, .leaving (.error failure)⟩
  | offered (slot : Slot α) (holder : Option Nat) (built : α) :
      Act caller ⟨slot, holder, .offering built⟩ (.offered caller (slot.published built).1)
        ⟨(slot.published built).2, holder, .leaving (.ok (slot.published built).1)⟩
  | unlocked (slot : Slot α) (result : Except Abort α) :
      Act caller ⟨slot, some caller, .leaving result⟩ (.unlocked caller)
        ⟨slot, none, .leaving result⟩
  | returned (slot : Slot α) (holder : Option Nat) (result : Except Abort α)
      (free : holder ≠ some caller) :
      Act caller ⟨slot, holder, .leaving result⟩ (.returned caller result)
        ⟨slot, holder, .returned result⟩

/-- What may happen next.  Reading and overriding are done without any lock, and so at any
time. -/
inductive Step : Config α -> CallEvent α -> Config α -> Prop where
  | got (c : Config α) : Step c (.got c.slot.value) c
  | overridden (c : Config α) (value : α) :
      Step c (.overridden value) { c with slot := c.slot.fill value }
  | acted {c : Config α} {caller : Nat} {event : CallEvent α} {after : Local α}
      (act : Act caller (c.restrict caller) event after) : Step c event (c.extend caller after)

inductive Run (start : Config α) : List (CallEvent α) -> Config α -> Prop where
  | start : Run start [] start
  | step {events : List (CallEvent α)} {c next : Config α} {event : CallEvent α}
      (run : Run start events c) (step : Step c event next) : Run start (events ++ [event]) next

namespace Run

variable {start c last : Config α} {events before after : List (CallEvent α)}
  {event : CallEvent α}

theorem single {next : Config α} (step : Step c event next) : Run c [event] next :=
  .step .start step

theorem append (first : Run start before c) (second : Run c after last) :
    Run start (before ++ after) last := by
  induction second with
  | start => simpa using first
  | step _ step ih => exact List.append_assoc .. ▸ ih.step step

theorem cons {next : Config α} (step : Step c event next) (run : Run next events last) :
    Run c (event :: events) last :=
  (single step).append run

theorem snoc_iff :
    Run start (before ++ [event]) last ↔ ∃ c, Run start before c ∧ Step c event last := by
  constructor
  · intro run
    generalize whole : before ++ [event] = events at run
    cases run with
    | start => simp at whole
    | step run step =>
        rcases List.append_inj' whole rfl with ⟨rfl, same⟩
        cases same
        exact ⟨_, run, step⟩
  · rintro ⟨c, run, step⟩
    exact run.step step

theorem split (run : Run start (before ++ after) last) :
    ∃ c, Run start before c ∧ Run c after last := by
  induction after using List.reverseRecOn generalizing last with
  | nil => exact ⟨last, by simpa using run, .start⟩
  | append_singleton after event ih =>
      rw [← List.append_assoc] at run
      rcases snoc_iff.mp run with ⟨c', run, step⟩
      rcases ih run with ⟨c, first, second⟩
      exact ⟨c, first, second.step step⟩

/-- The moment at which an event of a run happens. -/
theorem split_at (run : Run start (before ++ event :: after) last) :
    ∃ c next, Run start before c ∧ Step c event next ∧ Run next after last := by
  rw [List.append_cons] at run
  rcases run.split with ⟨next, first, second⟩
  rcases snoc_iff.mp first with ⟨c, first, step⟩
  exact ⟨c, next, first, step, second⟩

end Run

/-! ## A caller that is left alone -/

/-- What one caller may do while no other caller acts. -/
inductive Acts (caller : Nat) : Local α -> List (CallEvent α) -> Local α -> Prop where
  | done (here : Local α) : Acts caller here [] here
  | next {before middle after : Local α} {event : CallEvent α} {events : List (CallEvent α)}
      (act : Act caller before event middle) (acts : Acts caller middle events after) :
      Acts caller before (event :: events) after

namespace Config

theorem extend_restrict (c : Config α) (caller : Nat) (after : Local α) :
    (c.extend caller after).restrict caller = after := by
  simp [restrict, extend]

theorem extend_extend (c : Config α) (caller : Nat) (middle after : Local α) :
    (c.extend caller middle).extend caller after = c.extend caller after := by
  simp [extend]

theorem extend_self (c : Config α) (caller : Nat) : c.extend caller (c.restrict caller) = c := by
  simp [extend, restrict]

end Config

theorem Acts.run {c : Config α} {caller : Nat} {before after : Local α}
    {events : List (CallEvent α)} (acts : Acts caller before events after)
    (here : c.restrict caller = before) : Run c events (c.extend caller after) := by
  induction acts generalizing c with
  | done =>
      rw [← here, c.extend_self]
      exact .start
  | @next before middle after event events act _ ih =>
      have step : Step c event (c.extend caller middle) := .acted (here ▸ act)
      have rest := ih (c.extend_restrict caller middle)
      rw [c.extend_extend] at rest
      exact .cons step rest

theorem Run.act {start c : Config α} {events more : List (CallEvent α)} {after : Local α}
    (run : Run start events c) (caller : Nat) (acts : Acts caller (c.restrict caller) more after) :
    Run start (events ++ more) (c.extend caller after) :=
  run.append (acts.run rfl)

namespace Acts

variable {caller : Nat} {slot : Slot α} {holder : Option Nat}

/-- A call of a slot that holds a value. -/
theorem ready {value : α} (holds : slot.value = some value) (free : holder ≠ some caller) :
    Acts caller ⟨slot, holder, .uncalled⟩
      [.called caller, .found caller value, .returned caller (.ok value)]
      ⟨slot, holder, .returned (.ok value)⟩ :=
  .next (.called ..) (.next (.found _ _ value holds) (.next (.returned _ _ _ free) (.done _)))

/-- A call of an empty slot, up to the constructor. -/
theorem begin (vacant : slot.value = none) (lockFree : slot.strategy = .lockFree) :
    Acts caller ⟨slot, holder, .uncalled⟩
      [.called caller, .missed caller, .entered caller]
      ⟨slot.enter, holder, .constructing⟩ :=
  .next (.called ..) (.next (.missed _ _ vacant lockFree) (.next (.entered ..) (.done _)))

theorem beginLocked (vacant : slot.value = none) (locked : slot.strategy = .locked) :
    Acts caller ⟨slot, none, .uncalled⟩
      [.called caller, .missed caller, .locked caller, .missed caller, .entered caller]
      ⟨slot.enter, some caller, .constructing⟩ :=
  .next (.called ..) (.next (.queued _ _ vacant locked) (.next (.locked _)
    (.next (.remissed _ _ vacant) (.next (.entered ..) (.done _)))))

end Acts

end SecureSockets.Slot
