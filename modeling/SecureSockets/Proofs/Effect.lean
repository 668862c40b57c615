import SecureSockets.Log

namespace SecureSockets

/-!
# What an effect answers

An effect takes the state of an application and the log as they are, and leaves both as
they are afterwards.  The relation here reads an effect as a question that is put to such
a world, and its lemmas take the questions of a longer effect apart.
-/

abbrev World (σ : Type) := σ × Log

namespace Effect

variable {σ β γ : Type}

/-- Put to a world, the effect answers a value and leaves another world. -/
def Answers (effect : Effect σ β) (world : World σ) (value : β) (world' : World σ) : Prop :=
  (effect.run world.1).run world.2 = ((value, world'.1), world'.2)

def logged (world : World σ) (severity : Severity) (message : String) : World σ :=
  (world.1, world.2 ++ [⟨severity, message⟩])

theorem exists_answer (effect : Effect σ β) (world : World σ) :
    ∃ value world', effect.Answers world value world' :=
  ⟨_, (_, _), rfl⟩

theorem Answers.unique {effect : Effect σ β} {world world' world'' : World σ} {value value' : β}
    (first : effect.Answers world value world') (second : effect.Answers world value' world'') :
    value = value' ∧ world' = world'' := by
  have same := first.symm.trans second
  rcases Prod.mk.inj same with ⟨answers, logs⟩
  rcases Prod.mk.inj answers with ⟨values, states⟩
  exact ⟨values, Prod.ext states logs⟩

theorem pure_iff {value value' : β} {world world' : World σ} :
    (pure value : Effect σ β).Answers world value' world' ↔ value' = value ∧ world' = world := by
  constructor
  · intro answers
    have same : (pure value : Effect σ β).Answers world value world := rfl
    exact answers.unique same
  · rintro ⟨rfl, rfl⟩
    rfl

theorem bind_iff {effect : Effect σ β} {next : β -> Effect σ γ} {value : γ}
    {world world' : World σ} :
    (effect >>= next).Answers world value world' ↔
      ∃ middle between, effect.Answers world middle between ∧
        (next middle).Answers between value world' := by
  constructor
  · intro answers
    rcases exists_answer effect world with ⟨middle, between, first⟩
    refine ⟨middle, between, first, ?_⟩
    unfold Answers at first answers ⊢
    rw [← answers]
    show _ = ((next ((effect.run world.1).run world.2).1.1).run
      ((effect.run world.1).run world.2).1.2).run ((effect.run world.1).run world.2).2
    rw [first]
  · rintro ⟨middle, between, first, second⟩
    unfold Answers at first second ⊢
    rw [← second]
    show ((next ((effect.run world.1).run world.2).1.1).run
      ((effect.run world.1).run world.2).1.2).run ((effect.run world.1).run world.2).2 = _
    rw [first]

theorem writeLog_iff {severity : Severity} {message : String} {world world' : World σ}
    {value : Unit} :
    (liftM (writeLog severity message) : Effect σ Unit).Answers world value world' ↔
      world' = logged world severity message := by
  have same : (liftM (writeLog severity message) : Effect σ Unit).Answers world ()
      (logged world severity message) := rfl
  constructor
  · exact fun answers => (answers.unique same).2
  · intro expected
    rw [expected]
    exact same

theorem get_iff {state : σ} {world world' : World σ} :
    (get : Effect σ σ).Answers world state world' ↔ state = world.1 ∧ world' = world := by
  have same : (get : Effect σ σ).Answers world world.1 world := rfl
  constructor
  · exact fun answers => answers.unique same
  · rintro ⟨rfl, rfl⟩
    exact same

theorem modify_iff {change : σ -> σ} {world world' : World σ} {value : PUnit} :
    (modify change : Effect σ PUnit).Answers world value world' ↔
      world' = (change world.1, world.2) := by
  have same : (modify change : Effect σ PUnit).Answers world ⟨⟩ (change world.1, world.2) := rfl
  constructor
  · exact fun answers => (answers.unique same).2
  · rintro rfl
    exact same

theorem lift_iff {effect : Logged β} {world world' : World σ} {value : β} :
    (liftM effect : Effect σ β).Answers world value world' ↔
      world' = (world.1, (effect.run world.2).2) ∧ value = (effect.run world.2).1 := by
  have same : (liftM effect : Effect σ β).Answers world (effect.run world.2).1
      (world.1, (effect.run world.2).2) := rfl
  constructor
  · exact fun answers => (answers.unique same).symm
  · rintro ⟨rfl, rfl⟩
    exact same

/-- An effect yields a value and a new state, whatever it writes to the log.  Records of
providers that were asked in vain must not count when two lists are compared. -/
def Yields (effect : Effect σ β) (state : σ) (value : β) (state' : σ) : Prop :=
  ∀ log, ∃ log', effect.Answers (state, log) value (state', log')

namespace Yields

variable {state state' state'' : σ}

theorem unique {effect : Effect σ β} {value value' : β} (first : effect.Yields state value state')
    (second : effect.Yields state value' state'') : value = value' ∧ state' = state'' := by
  rcases first [] with ⟨log, answers⟩
  rcases second [] with ⟨log', answers'⟩
  have same := answers.unique answers'
  exact ⟨same.1, (Prod.mk.inj same.2).1⟩

theorem of_pure (value : β) (state : σ) : (pure value : Effect σ β).Yields state value state :=
  fun log => ⟨log, rfl⟩

theorem of_bind {effect : Effect σ β} {next : β -> Effect σ γ} {value : β} {value' : γ}
    (first : effect.Yields state value state')
    (second : (next value).Yields state' value' state'') :
    (effect >>= next).Yields state value' state'' := by
  intro log
  rcases first log with ⟨log', answers⟩
  rcases second log' with ⟨log'', answers'⟩
  exact ⟨log'', bind_iff.mpr ⟨value, (state', log'), answers, answers'⟩⟩

theorem of_get (state : σ) : (get : Effect σ σ).Yields state state state :=
  fun log => ⟨log, rfl⟩

theorem of_modify (change : σ -> σ) (state : σ) :
    (modify change : Effect σ PUnit).Yields state ⟨⟩ (change state) :=
  fun log => ⟨log, rfl⟩

theorem of_set (next state : σ) : (set next : Effect σ PUnit).Yields state ⟨⟩ next :=
  fun log => ⟨log, rfl⟩

theorem of_lift (logged : Logged β) (state : σ) {value : β}
    (same : ∀ log, (logged.run log).1 = value) :
    (liftM logged : Effect σ β).Yields state value state := by
  intro log
  refine ⟨(logged.run log).2, ?_⟩
  rw [← same log]
  rfl

end Yields

/-- At a state, two effects yield the same value and the same new state, whatever either
of them writes to the log. -/
def AgreeAt (state : σ) (one other : Effect σ β) : Prop :=
  ∃ value state', one.Yields state value state' ∧ other.Yields state value state'

section AgreeAt

variable {state : σ} {one other third : Effect σ β}

theorem AgreeAt.symm (agree : AgreeAt state one other) : AgreeAt state other one := by
  rcases agree with ⟨value, state', first, second⟩
  exact ⟨value, state', second, first⟩

theorem AgreeAt.trans (agree : AgreeAt state one other) (agree' : AgreeAt state other third) :
    AgreeAt state one third := by
  rcases agree with ⟨value, state', first, middle⟩
  rcases agree' with ⟨value', state'', middle', last⟩
  rcases middle.unique middle' with ⟨rfl, rfl⟩
  exact ⟨value, state', first, last⟩

end AgreeAt

end Effect

end SecureSockets
