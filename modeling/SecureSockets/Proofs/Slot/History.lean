import SecureSockets.Proofs.Slot.Cell
import SecureSockets.Slot.Script

namespace SecureSockets

/-!
# Histories of a slot

A script answers its steps, but it does not tell what happens to the slot in between:
steps of a constructor stand inside the answer to the initialization that ran it.  A
history is the list of everything that happens to the slot, in the order in which it
happens, so that a point of a run is a place in the history.

Each event is a move of the slot, and a history is a path of moves.  Recording a script
gives its history together with its answers, and the recording is shown to answer what
the script answers, to leave the slot that the script leaves, and to return from each
initialization what the answers say it returned.
-/

/-! ## Events -/

/-- What can happen to a slot.  Only overriding and settling can change its value, and
only they and the entering of a constructor change the slot at all. -/
inductive SlotEvent (α : Type) where
  /-- Something about the slot is looked up. -/
  | seen
  | overridden (value : α)
  /-- A constructor begins to run. -/
  | entered
  /-- An initialization finds a value and returns it. -/
  | found (value : α)
  /-- A constructor ends, and its initialization returns. -/
  | settled (outcome result : Except Abort α)

def SlotEvent.result? {α : Type} : SlotEvent α -> Option (Except Abort α)
  | found value => some (.ok value)
  | settled _ result => some result
  | _ => none

namespace Slot

variable {α : Type}

/-- The value that wins when a constructor offers its own, and the slot with it.  A locked
slot is written without another look at it. -/
def published (slot : Slot α) (value : α) : α × Slot α :=
  match slot.strategy, slot.value with
  | .lockFree, some winner => (winner, slot)
  | _, _ => (value, slot.fill value)

def settled (slot : Slot α) (outcome : Except Abort α) : Except Abort α × Slot α :=
  match outcome with
  | .error failure => (.error failure, slot.exit)
  | .ok value => (.ok (slot.exit.published value).1, (slot.exit.published value).2)

theorem settle_value (slot : Slot α) (outcome : Except Abort α) (log : Log) :
    ((slot.settle outcome).run log).1 = slot.settled outcome := by
  cases outcome with
  | error failure => rfl
  | ok value =>
      show ((slot.exit.publish value >>= _ : Logged _).run log).1 = _
      unfold publish settled published
      cases slot.exit.strategy with
      | locked => rfl
      | lockFree => cases slot.exit.value <;> rfl

/-- One move of a slot. -/
inductive Moves : Slot α -> SlotEvent α -> Slot α -> Prop where
  | seen (slot : Slot α) : Moves slot .seen slot
  | overridden (slot : Slot α) (value : α) : Moves slot (.overridden value) (slot.fill value)
  | entered (slot : Slot α) (vacant : slot.value = none) : Moves slot .entered slot.enter
  | found (slot : Slot α) (value : α) (holds : slot.value = some value) :
      Moves slot (.found value) slot
  | settled (slot : Slot α) (outcome : Except Abort α) :
      Moves slot (.settled outcome (slot.settled outcome).1) (slot.settled outcome).2

inductive Path : Slot α -> List (SlotEvent α) -> Slot α -> Prop where
  | nil (slot : Slot α) : Path slot [] slot
  | cons {slot next last : Slot α} {event : SlotEvent α} {events : List (SlotEvent α)}
      (moves : Moves slot event next) (path : Path next events last) :
      Path slot (event :: events) last

namespace Path

theorem single {slot next : Slot α} {event : SlotEvent α} (moves : Moves slot event next) :
    Path slot [event] next :=
  .cons moves (.nil next)

theorem append {slot middle last : Slot α} {before after : List (SlotEvent α)}
    (first : Path slot before middle) (second : Path middle after last) :
    Path slot (before ++ after) last := by
  induction first with
  | nil => exact second
  | cons moves _ ih => exact .cons moves (ih second)

theorem append_iff {slot last : Slot α} {before after : List (SlotEvent α)} :
    Path slot (before ++ after) last ↔
      ∃ middle, Path slot before middle ∧ Path middle after last := by
  constructor
  · intro path
    induction before generalizing slot with
    | nil => exact ⟨slot, .nil slot, path⟩
    | cons event before ih =>
        cases path with
        | cons moves path =>
            rcases ih path with ⟨middle, first, second⟩
            exact ⟨middle, .cons moves first, second⟩
  · rintro ⟨middle, first, second⟩
    exact first.append second

theorem deterministic {slot last last' : Slot α} {events : List (SlotEvent α)}
    (path : Path slot events last) (path' : Path slot events last') : last = last' := by
  induction path with
  | nil =>
      cases path'
      rfl
  | cons moves _ ih =>
      cases path' with
      | cons moves' path' =>
          apply ih
          cases moves <;> cases moves' <;> exact path'

end Path

end Slot

/-! ## Initializations -/

section Init

variable {α ρ : Type}

open Effect

theorem initWith_found {slot : Slot α} {value : α}
    (construct : Effect (Slot α) (Except Abort α × ρ)) (holds : slot.value = some value) :
    (SlotCell.whole.initWith construct).Yields slot (.ok value, none) slot :=
  fun log => ⟨log, SlotCell.whole.initWith_held (slot, log) construct holds⟩

theorem initWith_ran {slot during : Slot α} {outcome : Except Abort α} {report : ρ}
    {construct : Effect (Slot α) (Except Abort α × ρ)} (vacant : slot.value = none)
    (ran : construct.Yields slot.enter (outcome, report) during) :
    (SlotCell.whole.initWith construct).Yields slot
      ((during.settled outcome).1, some report) (during.settled outcome).2 := by
  intro log
  rcases ran log with ⟨log', answers⟩
  have settles : (during.settle outcome).run log' =
      (during.settled outcome, ((during.settle outcome).run log').2) :=
    Prod.ext (during.settle_value outcome log') rfl
  exact ⟨_, SlotCell.whole.initWith_settled (slot, log) vacant answers settles⟩

end Init

/-! ## Results in answers -/

mutual

/-- What the initializations in an answer returned.  Those inside a constructor stand
before the one that ran it, as they return first. -/
def SlotAnswer.results {α : Type} : SlotAnswer α -> List (Except Abort α)
  | .init answer => InitAnswer.results answer
  | .overlap outer none => InitAnswer.results outer
  | .overlap outer (some inner) => InitAnswer.results outer ++ InitAnswer.results inner
  | _ => []

def InitAnswer.results {α : Type} : InitAnswer α (SlotAnswer α) -> List (Except Abort α)
  | ⟨result, none⟩ => [result]
  | ⟨result, some inside⟩ => SlotAnswer.allResults inside ++ [result]

def SlotAnswer.allResults {α : Type} : List (SlotAnswer α) -> List (Except Abort α)
  | [] => []
  | answer :: answers => SlotAnswer.results answer ++ SlotAnswer.allResults answers

end

/-! ## Recording a script -/

/-- What was answered, what happened on the way, and what the slot is in the end. -/
structure SlotRecord (α β : Type) where
  answer : β
  events : List (SlotEvent α)
  slot : Slot α

namespace SlotMaker

variable {α : Type}

/-- The record of an initialization whose constructor takes steps as recorded. -/
def initRecord (inside : Slot α -> SlotRecord α (List (SlotAnswer α)))
    (outcome : Except Abort α) (slot : Slot α) : SlotRecord α (InitAnswer α (SlotAnswer α)) :=
  match slot.value with
  | some value => ⟨⟨.ok value, none⟩, [.found value], slot⟩
  | none =>
    let during := inside slot.enter
    let (result, last) := during.slot.settled outcome
    ⟨⟨result, some during.answer⟩, .entered :: during.events ++ [.settled outcome result], last⟩

/-- The record of two initializations, the second one begun when the constructor of the
first is about to end. -/
def overlapRecord (outer : Slot α -> SlotRecord α (List (SlotAnswer α)))
    (outcome : Except Abort α) (inner : Slot α -> SlotRecord α (InitAnswer α (SlotAnswer α)))
    (slot : Slot α) : SlotRecord α (SlotAnswer α) :=
  match slot.value with
  | some value => ⟨.overlap ⟨.ok value, none⟩ none, [.found value], slot⟩
  | none =>
    let during := outer slot.enter
    if during.slot.strategy = .locked ∧ during.slot.value.isNone then
      -- The second initialization waits until the first has returned.
      let (result, free) := during.slot.settled outcome
      let behind := inner free
      ⟨.overlap ⟨result, some during.answer⟩ (some behind.answer),
        .entered :: during.events ++ .settled outcome result :: behind.events, behind.slot⟩
    else
      let inside := inner during.slot
      let (result, last) := inside.slot.settled outcome
      ⟨.overlap ⟨result, some during.answer⟩ (some inside.answer),
        .entered :: during.events ++ inside.events ++ [.settled outcome result], last⟩

end SlotMaker

mutual

/-- The record of one step, by recursion over the steps of the constructors in it, as the
step itself is run. -/
def SlotStep.record {α : Type} : SlotStep α -> Slot α -> SlotRecord α (SlotAnswer α)
  | .get, slot => ⟨.value slot.value, [.seen], slot⟩
  | .state, slot => ⟨.state slot.state, [.seen], slot⟩
  | .inspect, slot => ⟨.text slot.inspect, [.seen], slot⟩
  | .info, slot => ⟨.info slot.name slot.strategy, [.seen], slot⟩
  | .override value, slot => ⟨.done, [.overridden value], slot.fill value⟩
  | .init maker, slot =>
    let record := SlotMaker.initRecord maker.record maker.outcome slot
    ⟨.init record.answer, record.events, record.slot⟩
  | .overlap outer inner, slot =>
    SlotMaker.overlapRecord outer.record outer.outcome
      (SlotMaker.initRecord inner.record inner.outcome) slot

def SlotMaker.record {α : Type} : SlotMaker α -> Slot α -> SlotRecord α (List (SlotAnswer α))
  | .mk during _, slot => SlotStep.recordAll during slot

def SlotStep.recordAll {α : Type} :
    List (SlotStep α) -> Slot α -> SlotRecord α (List (SlotAnswer α))
  | [], slot => ⟨[], [], slot⟩
  | step :: rest, slot =>
    let first := step.record slot
    let others := SlotStep.recordAll rest first.slot
    ⟨first.answer :: others.answer, first.events ++ others.events, others.slot⟩

end

/-- A record tells the truth about an effect: it has the effect's answer and its slot, its
events are a path of moves, and they return what the answer says was returned. -/
structure Records {α β : Type} (effect : Effect (Slot α) β)
    (results : β -> List (Except Abort α)) (slot : Slot α) (record : SlotRecord α β) : Prop where
  yields : effect.Yields slot record.answer record.slot
  path : slot.Path record.events record.slot
  returns : (record.events.filterMap SlotEvent.result?).Perm (results record.answer)

namespace Records

variable {α : Type}

/-- Looking something up is a single event that returns nothing. -/
theorem seen {answer : Slot α -> SlotAnswer α} (slot : Slot α)
    (nothing : (answer slot).results = []) :
    Records (do pure (answer (← get))) SlotAnswer.results slot ⟨answer slot, [.seen], slot⟩ where
  yields := .of_bind (.of_get slot) (.of_pure _ slot)
  path := .single (.seen slot)
  returns := by rw [nothing]; exact .nil

theorem overridden (value : α) (slot : Slot α) :
    Records (SlotStep.run (.override value)) SlotAnswer.results slot
      (SlotStep.record (.override value) slot) where
  yields := fun _ => ⟨_, rfl⟩
  path := .single (.overridden slot value)
  returns := .nil

theorem init {answers : Effect (Slot α) (List (SlotAnswer α))}
    {inside : Slot α -> SlotRecord α (List (SlotAnswer α))} (outcome : Except Abort α)
    (records : ∀ slot, Records answers SlotAnswer.allResults slot (inside slot)) (slot : Slot α) :
    Records (SlotMaker.initWith answers outcome) InitAnswer.results slot
      (SlotMaker.initRecord inside outcome slot) := by
  unfold SlotMaker.initRecord SlotMaker.initWith
  cases holds : slot.value with
  | some value =>
      constructor
      · exact .of_bind (initWith_found _ holds) (.of_pure _ slot)
      · exact .single (.found slot value holds)
      · exact .refl _
  | none =>
      have during := records slot.enter
      have construct : (answers >>= fun inside => pure (outcome, inside) : Effect _ _).Yields
          slot.enter (outcome, (inside slot.enter).answer) (inside slot.enter).slot :=
        .of_bind during.yields (.of_pure _ _)
      constructor
      · exact .of_bind (initWith_ran holds construct) (.of_pure _ _)
      · exact .cons (.entered slot holds) (during.path.append (.single (.settled _ outcome)))
      · simp only [List.cons_append, List.filterMap_cons, List.filterMap_append,
          SlotEvent.result?, InitAnswer.results]
        exact during.returns.append_right _

theorem overlap {outer : Effect (Slot α) (List (SlotAnswer α))}
    {inner : Effect (Slot α) (InitAnswer α (SlotAnswer α))}
    {first : Slot α -> SlotRecord α (List (SlotAnswer α))} (outcome : Except Abort α)
    {second : Slot α -> SlotRecord α (InitAnswer α (SlotAnswer α))}
    (outerRecords : ∀ slot, Records outer SlotAnswer.allResults slot (first slot))
    (innerRecords : ∀ slot, Records inner InitAnswer.results slot (second slot)) (slot : Slot α) :
    Records (SlotMaker.overlap outer outcome inner) SlotAnswer.results slot
      (SlotMaker.overlapRecord first outcome second slot) := by
  unfold SlotMaker.overlapRecord SlotMaker.overlap
  cases holds : slot.value with
  | some value =>
      constructor
      · exact .of_bind (initWith_found _ holds) (.of_pure _ slot)
      · exact .single (.found slot value holds)
      · exact .refl _
  | none =>
      have during := outerRecords slot.enter
      have started : slot.Moves .entered slot.enter := .entered slot holds
      simp only
      split
      · next waits =>
          let free := ((first slot.enter).slot.settled outcome).2
          have behind := innerRecords free
          constructor
          · apply Effect.Yields.of_bind
            · apply initWith_ran holds
              apply Effect.Yields.of_bind during.yields
              apply Effect.Yields.of_bind (.of_get _)
              rw [if_pos waits]
              exact .of_pure _ _
            · exact .of_bind behind.yields (.of_pure _ _)
          · exact .cons started (during.path.append (.cons (.settled _ outcome) behind.path))
          · simp only [List.cons_append, List.filterMap_cons, List.filterMap_append,
              SlotEvent.result?, SlotAnswer.results, InitAnswer.results, List.append_assoc]
            exact during.returns.append (behind.returns.cons _)
      · next free =>
          let at_end := (first slot.enter).slot
          have inside := innerRecords at_end
          constructor
          · apply Effect.Yields.of_bind
            · apply initWith_ran holds
              apply Effect.Yields.of_bind during.yields
              apply Effect.Yields.of_bind (.of_get _)
              rw [if_neg free]
              exact .of_bind inside.yields (.of_pure _ _)
            · exact .of_pure _ _
          · have constructed := during.path.append inside.path
            exact .cons started (constructed.append (.single (.settled _ outcome)))
          · simp only [List.cons_append, List.filterMap_cons, List.filterMap_append,
              SlotEvent.result?, SlotAnswer.results, InitAnswer.results, List.append_assoc]
            exact during.returns.append (List.perm_append_comm.trans (inside.returns.cons _))

end Records

mutual

/-- The record of a step tells the truth about the step. -/
theorem SlotStep.records {α : Type} (step : SlotStep α) (slot : Slot α) :
    Records step.run SlotAnswer.results slot (step.record slot) := by
  cases step with
  | get => exact .seen slot rfl
  | state => exact .seen slot rfl
  | inspect => exact .seen slot rfl
  | info => exact .seen slot rfl
  | override value => exact .overridden value slot
  | init maker =>
      have init := Records.init maker.outcome maker.records slot
      constructor
      · exact .of_bind init.yields (.of_pure _ _)
      · exact init.path
      · exact init.returns
  | overlap outer inner =>
      exact .overlap outer.outcome outer.records (Records.init inner.outcome inner.records) slot

theorem SlotMaker.records {α : Type} (maker : SlotMaker α) (slot : Slot α) :
    Records maker.answers SlotAnswer.allResults slot (maker.record slot) := by
  cases maker with
  | mk during outcome => exact SlotStep.allRecords during slot

theorem SlotStep.allRecords {α : Type} (steps : List (SlotStep α)) (slot : Slot α) :
    Records (SlotStep.runAll steps) SlotAnswer.allResults slot (SlotStep.recordAll steps slot) := by
  cases steps with
  | nil => exact ⟨.of_pure _ slot, .nil slot, .nil⟩
  | cons step rest =>
      have first := step.records slot
      have others := SlotStep.allRecords rest (step.record slot).slot
      constructor
      · exact .of_bind first.yields (.of_bind others.yields (.of_pure _ _))
      · exact first.path.append others.path
      · simp only [SlotStep.recordAll, List.filterMap_append, SlotAnswer.allResults]
        exact first.returns.append others.returns

end

end SecureSockets
