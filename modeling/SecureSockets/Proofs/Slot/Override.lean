import SecureSockets.Proofs.Slot.History

namespace SecureSockets.Slot

/-!
# What a ready slot keeps

A slot that holds a value is meant to keep it until the value is overridden.  A value can
arrive while a constructor is still running, and then the end of that constructor is the
moment of danger.  A lock-free slot compares before it stores, so the constructor loses.
A locked slot stores without looking, so that a value set in the meantime is lost to the
constructor.

No constructor begins to run on a slot that holds a value.  The only constructors that
can replace a value are therefore those that were already running when it arrived, and
they do so exactly if the slot is locked and they end in another value.
-/

variable {α : Type} {slot next middle last : Slot α} {event : SlotEvent α}
  {events before after : List (SlotEvent α)} {value : α}

/-! ## Single moves -/

theorem settled_strategy (slot : Slot α) (outcome : Except Abort α) :
    (slot.settled outcome).2.strategy = slot.strategy := by
  cases outcome with
  | error failure => rfl
  | ok value =>
      show (slot.exit.published value).2.strategy = slot.exit.strategy
      unfold published
      split <;> rfl

theorem Moves.strategy (moves : Moves slot event next) : next.strategy = slot.strategy := by
  cases moves with
  | settled outcome => exact settled_strategy slot outcome
  | _ => rfl

/-- A locked slot returns to a constructor what the constructor has built. -/
theorem settled_locked (locked : slot.strategy = .locked) (built : α) :
    slot.settled (.ok built) = (.ok built, slot.exit.fill built) := by
  have same : slot.exit.published built = (built, slot.exit.fill built) := by
    have strategy : slot.exit.strategy = .locked := locked
    simp only [published, strategy]
  simp only [settled, same]

/-- A lock-free slot that holds a value returns it to every constructor. -/
theorem settled_lockFree (lockFree : slot.strategy = .lockFree) (holds : slot.value = some value)
    (built : α) : slot.settled (.ok built) = (.ok value, slot.exit) := by
  have same : slot.exit.published built = (value, slot.exit) := by
    have strategy : slot.exit.strategy = .lockFree := lockFree
    have stays : slot.exit.value = some value := holds
    simp only [published, strategy, stays]
  simp only [settled, same]

/-- A move that neither overrides the value nor ends a constructor that has built another
one keeps the value, and returns nothing else. -/
theorem Moves.keeps (moves : Moves slot event next) (holds : slot.value = some value)
    (unset : ∀ other, event ≠ .overridden other)
    (agrees : slot.strategy = .locked -> ∀ built result, event = .settled (.ok built) result ->
      built = value) :
    next.value = some value ∧
      ∀ returned, event.result? = some (.ok returned) -> returned = value := by
  cases moves with
  | seen => exact ⟨holds, nofun⟩
  | overridden other => exact absurd rfl (unset other)
  | entered vacant => exact absurd (vacant.symm.trans holds) nofun
  | found other same =>
      refine ⟨holds, ?_⟩
      intro returned returns
      cases returns
      exact Option.some.inj (same.symm.trans holds)
  | settled outcome =>
      cases outcome with
      | error failure => exact ⟨holds, nofun⟩
      | ok built =>
          cases strategy : slot.strategy with
          | locked =>
              have same := agrees strategy built _ rfl
              rw [settled_locked strategy built, same]
              refine ⟨rfl, ?_⟩
              intro returned returns
              cases returns
              rfl
          | lockFree =>
              rw [settled_lockFree strategy holds built]
              refine ⟨holds, ?_⟩
              intro returned returns
              cases returns
              rfl

theorem Moves.isSome (moves : Moves slot event next) (holds : slot.value.isSome = true) :
    next.value.isSome = true := by
  cases moves with
  | overridden other => rfl
  | settled outcome =>
      cases outcome with
      | error failure => exact holds
      | ok built =>
          show (slot.exit.published built).2.value.isSome = true
          unfold published
          split
          · exact holds
          · rfl
  | _ => exact holds

/-! ## Paths -/

theorem Path.strategy (path : Path slot events last) : last.strategy = slot.strategy := by
  induction path with
  | nil => rfl
  | cons moves _ ih => exact ih.trans moves.strategy

theorem Path.no_entry (path : Path slot events last) (holds : slot.value.isSome = true) :
    SlotEvent.entered ∉ events := by
  induction path with
  | nil => exact List.not_mem_nil
  | cons moves _ ih =>
      intro enters
      rcases List.mem_cons.mp enters with first | later
      · subst first
        cases moves with
        | entered vacant =>
            rw [vacant] at holds
            cases holds
      · exact ih (moves.isSome holds) later

theorem Path.settled_result (path : Path slot events last) (locked : slot.strategy = .locked)
    {built : α} {result : Except Abort α} (ends : .settled (.ok built) result ∈ events) :
    result = .ok built := by
  induction path with
  | nil => cases ends
  | cons moves _ ih =>
      rcases List.mem_cons.mp ends with first | later
      · subst first
        cases moves with
        | settled => rw [settled_locked locked built]
      · exact ih (moves.strategy.trans locked) later

def Contested (value : α) (events : List (SlotEvent α)) : Prop :=
  ∃ built result, .settled (.ok built) result ∈ events ∧ built ≠ value

/-- Along the events that follow, the slot holds the value at every point, and every
initialization that succeeds returns it. -/
structure Keeps (slot : Slot α) (value : α) (events : List (SlotEvent α)) : Prop where
  holds : ∀ early late last, events = early ++ late -> Path slot early last ->
    last.value = some value
  returns : ∀ event returned, event ∈ events -> event.result? = some (.ok returned) ->
    returned = value

theorem Path.keeps (path : Path slot events last) (holds : slot.value = some value)
    (unset : ∀ other, .overridden other ∉ events)
    (agrees : ¬(slot.strategy = .locked ∧ Contested value events)) : Keeps slot value events := by
  induction path with
  | nil slot =>
      constructor
      · intro early late last split path
        rcases List.append_eq_nil_iff.mp split.symm with ⟨rfl, -⟩
        cases path
        exact holds
      · exact fun event returned within => absurd within List.not_mem_nil
  | @cons slot next last event events moves path ih =>
      have step := moves.keeps holds
        (fun other same => unset other (same ▸ List.mem_cons_self))
        (fun locked built result same => by
          apply Classical.byContradiction
          intro other
          exact agrees ⟨locked, built, result, same ▸ List.mem_cons_self, other⟩)
      have rest := ih step.1 (fun other within => unset other (List.mem_cons_of_mem _ within)) (by
        rintro ⟨locked, built, result, within, other⟩
        exact agrees ⟨moves.strategy.symm.trans locked, built, result,
          List.mem_cons_of_mem _ within, other⟩)
      constructor
      · intro early late last split first
        cases first with
        | nil => exact holds
        | cons moves' first =>
            rcases List.cons.inj split with ⟨rfl, rests⟩
            have same := Path.deterministic (.single moves') (.single moves)
            subst same
            exact rest.holds _ late last rests first
      · intro event' returned within returns
        rcases List.mem_cons.mp within with first | later
        · exact step.2 returned (first ▸ returns)
        · exact rest.returns event' returned later returns

/-! ## Runs -/

/-- From a point of a run at which the slot holds a value, and from which on the value is
not overridden, the value is kept exactly if the slot is lock-free or no constructor that
was running at that point ends in another value. -/
theorem keeps_iff (steps : List (SlotStep α)) (slot : Slot α)
    (split : (SlotStep.recordAll steps slot).events = before ++ after)
    (reached : Path slot before middle) (holds : middle.value = some value)
    (unset : ∀ other, .overridden other ∉ after) :
    Records (SlotStep.runAll steps) SlotAnswer.allResults slot (SlotStep.recordAll steps slot) ∧
      SlotEvent.entered ∉ after ∧
      (Keeps middle value after ↔ ¬(slot.strategy = .locked ∧ Contested value after)) := by
  have records := SlotStep.allRecords steps slot
  have path := records.path
  rw [split] at path
  rcases Path.append_iff.mp path with ⟨middle', reached', path⟩
  have same := reached'.deterministic reached
  subst same
  refine ⟨records, path.no_entry (holds ▸ rfl), ?_⟩
  rw [← reached.strategy]
  constructor
  · rintro keeps ⟨locked, built, result, ends, other⟩
    have result := path.settled_result locked ends
    subst result
    exact other (keeps.returns _ built ends rfl)
  · exact path.keeps holds unset

/-- A value that is set while a constructor runs outlives the panic of the constructor. -/
theorem keeps_after_panic :
    Keeps ((Slot.vacant "test" .locked).enter.fill "set") "set"
      [.settled (.error .panic) (.error .panic), .found "set"] := by
  have split : (SlotStep.recordAll
      [.init (.mk [.override "set"] (.error .panic)), .init (.mk [] (.ok "built"))]
      (Slot.vacant "test" .locked)).events =
      [.entered, .overridden "set"] ++
        [.settled (.error .panic) (.error .panic), .found "set"] := rfl
  have reached : Path (Slot.vacant "test" .locked) [.entered, .overridden "set"]
      ((Slot.vacant "test" .locked).enter.fill "set") :=
    .cons (.entered _ rfl) (.single (.overridden _ "set"))
  have run := keeps_iff _ _ split reached rfl (by simp)
  apply run.2.2.mpr
  rintro ⟨-, built, result, ends, -⟩
  simp at ends

/-- A value that is set while a constructor runs on a locked slot is lost when the
constructor ends, although nothing has overridden it. -/
theorem override_lost :
    ((SlotStep.runAll [.init (.mk [.override "set"] (.ok "built"))]).run
      (Slot.vacant "test" .locked) |>.run []).1.2.value = some "built" ∧
    ¬∀ (steps : List (SlotStep String)) (slot middle : Slot String)
      (before after : List (SlotEvent String)) (value : String),
      (SlotStep.recordAll steps slot).events = before ++ after -> Path slot before middle ->
      middle.value = some value -> (∀ other, .overridden other ∉ after) ->
      Keeps middle value after := by
  refine ⟨rfl, ?_⟩
  intro kept
  have keeps := kept [.init (.mk [.override "set"] (.ok "built"))] (Slot.vacant "test" .locked)
    ((Slot.vacant "test" .locked).enter.fill "set") [.entered, .overridden "set"]
    [.settled (.ok "built") (.ok "built")] "set" rfl
    (.cons (.entered _ rfl) (.single (.overridden _ "set"))) rfl (by simp)
  exact absurd (keeps.returns _ "built" List.mem_cons_self rfl) (by decide)

end SecureSockets.Slot
