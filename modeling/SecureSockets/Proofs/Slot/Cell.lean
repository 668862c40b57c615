import SecureSockets.Proofs.Effect
import SecureSockets.Slot.Basic

namespace SecureSockets

/-!
# Initializations, wherever the slot is kept

A slot that holds a value gives it without further ado.  On an empty slot the constructor
runs while the slot counts it, and its end decides about the answer.  What the constructor
does to the rest of the state, or to the slot itself, is its own affair: the lemmas take
the state that it leaves as it is.
-/

open Effect

namespace SlotCell

variable {σ α φ ρ : Type} (cell : SlotCell σ α) (world : World σ) {during : World σ}

/-- A slot that holds a value gives it, and nothing else happens. -/
theorem initWith_held (construct : Effect σ (Except φ α × ρ)) {value : α}
    (holds : (cell.read world.1).value = some value) :
    (cell.initWith construct).Answers world (.ok value, none) world := by
  unfold initWith
  apply bind_iff.mpr
  refine ⟨world.1, world, get_iff.mpr ⟨rfl, rfl⟩, ?_⟩
  rw [holds]
  exact pure_iff.mpr ⟨rfl, rfl⟩

/-- An empty slot answers as its constructor ends, and is left as the end leaves it. -/
theorem initWith_settled {construct : Effect σ (Except φ α × ρ)} {outcome answer : Except φ α}
    {report : ρ} {slot : Slot α} {log : Log} (vacant : (cell.read world.1).value = none)
    (ran : construct.Answers (cell.write (cell.read world.1).enter world.1, world.2)
      (outcome, report) during)
    (settles : ((cell.read during.1).settle outcome).run during.2 = ((answer, slot), log)) :
    (cell.initWith construct).Answers world (answer, some report)
      (cell.write slot during.1, log) := by
  have stored : (liftM ((cell.read during.1).settle outcome) : Effect σ _).Answers during
      (answer, slot) (during.1, log) := by
    apply lift_iff.mpr
    rw [settles]
    exact ⟨rfl, rfl⟩
  unfold initWith
  apply bind_iff.mpr
  refine ⟨world.1, world, get_iff.mpr ⟨rfl, rfl⟩, ?_⟩
  rw [vacant]
  apply bind_iff.mpr
  refine ⟨⟨⟩, _, modify_iff.mpr rfl, ?_⟩
  apply bind_iff.mpr
  refine ⟨(outcome, report), during, ran, ?_⟩
  apply bind_iff.mpr
  refine ⟨during.1, during, get_iff.mpr ⟨rfl, rfl⟩, ?_⟩
  apply bind_iff.mpr
  refine ⟨(answer, slot), (during.1, log), stored, ?_⟩
  exact bind_iff.mpr ⟨⟨⟩, _, modify_iff.mpr rfl, pure_iff.mpr ⟨rfl, rfl⟩⟩

section GetOrInit

variable {construct : Effect σ (Except φ α)}

end GetOrInit

theorem override_answers (value : α) :
    (cell.override value).Answers world ()
      (logged (cell.write ((cell.read world.1).fill value) world.1, world.2) .debug
        ("Default " ++ (cell.read world.1).name ++ " overridden")) := by
  unfold SlotCell.override
  apply bind_iff.mpr
  refine ⟨world.1, world, get_iff.mpr ⟨rfl, rfl⟩, ?_⟩
  apply bind_iff.mpr
  refine ⟨(cell.read world.1).fill value, _, lift_iff.mpr ⟨rfl, rfl⟩, ?_⟩
  exact modify_iff.mpr rfl

end SlotCell

end SecureSockets
