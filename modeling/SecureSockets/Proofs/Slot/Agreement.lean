import SecureSockets.Proofs.Slot.Interleaving
import SecureSockets.Proofs.Slot.Override

namespace SecureSockets.Slot

/-!
# Agreement of overlapping initializations

Whatever the order in which callers take their steps, they agree on the value.  What a
caller returns was the value of the slot at some moment of the call; and as long as
nobody overrides the value, there is only one value that anybody can see, the first one
that was offered to the slot.

A locked slot also keeps constructors apart.  The invariant behind this is that a caller
between its second look and its offer holds the lock.  Together with the second look it
keeps the slot empty until the offer, unless the value is overridden.
-/

variable {α : Type}

namespace Stage

def Building : Stage α -> Prop
  | entering | constructing | offering _ => True
  | _ => False

/-- The stages in which a caller of a locked slot must hold the lock.  A caller that
leaves may still hold it, but no longer needs to. -/
def Guarded : Stage α -> Prop
  | rechecking => True
  | stage => stage.Building

theorem Building.guarded {stage : Stage α} (building : stage.Building) : stage.Guarded := by
  cases stage <;> first | exact building | exact building.elim

end Stage

/-! ## Offers -/

theorem published_value {slot : Slot α} (vacant : slot.strategy = .locked -> slot.value = none)
    (built : α) :
    (slot.published built).2.value = slot.value.or (some (slot.published built).1) := by
  unfold published
  split
  · next winner _ holds => rw [holds]; rfl
  · next strategy =>
      have none : slot.value = none := by
        cases holds : slot.value with
        | none => rfl
        | some winner =>
            cases which : slot.strategy with
            | locked => exact holds ▸ vacant which
            | lockFree => exact absurd holds (strategy winner which)
      rw [none]
      rfl

theorem published_current (slot : Slot α) (built : α) :
    (slot.published built).2.value = some (slot.published built).1 := by
  unfold published
  split
  · next holds => exact holds
  · rfl

theorem published_strategy (slot : Slot α) (built : α) :
    (slot.published built).2.strategy = slot.strategy := by
  unfold published
  split <;> rfl

/-! ## What one caller does -/

namespace Act

variable {caller other : Nat} {before after : Local α} {event : CallEvent α}

theorem strategy (act : Act caller before event after) :
    after.slot.strategy = before.slot.strategy := by
  cases act with
  | offered slot _ built => exact published_strategy slot built
  | _ => rfl

/-- A caller changes the value of the slot only by offering another one. -/
theorem value (act : Act caller before event after)
    (vacant : before.slot.strategy = .locked -> before.stage.Building -> before.slot.value = none) :
    after.slot.value = before.slot.value.or event.offer? := by
  cases act with
  | offered slot _ built => exact published_value (fun locked => vacant locked trivial) built
  | _ => exact (Option.or_none ..).symm

theorem isSome (act : Act caller before event after) (holds : before.slot.value.isSome = true) :
    after.slot.value.isSome = true := by
  cases act with
  | offered slot _ built =>
      rw [published_current]
      rfl
  | _ => exact holds

/-- Taking the lock and giving it back are all that a caller does to it. -/
theorem holder (act : Act caller before event after) :
    after.holder = before.holder ∨ (before.holder = none ∧ after.holder = some caller) ∨
      (before.holder = some caller ∧ after.holder = none) := by
  cases act with
  | locked => exact Or.inr (Or.inl ⟨rfl, rfl⟩)
  | unlocked => exact Or.inr (Or.inr ⟨rfl, rfl⟩)
  | _ => exact Or.inl rfl

theorem holder_of_ne (act : Act caller before event after) (different : other ≠ caller)
    (holds : before.holder = some other) : after.holder = some other := by
  rcases act.holder with same | ⟨free, -⟩ | ⟨own, -⟩
  · exact same.trans holds
  · exact absurd (free.symm.trans holds) nofun
  · exact absurd (Option.some.inj (holds.symm.trans own)) different

/-- A caller of a locked slot enters the guarded stages with the lock and leaves them before
it gives the lock back. -/
theorem guarded (act : Act caller before event after) (locked : before.slot.strategy = .locked)
    (guards : before.stage.Guarded -> before.holder = some caller) (guarded : after.stage.Guarded) :
    after.holder = some caller := by
  cases act with
  | missed _ _ _ lockFree => exact absurd (locked.symm.trans lockFree) nofun
  | locked => rfl
  | remissed => exact guards trivial
  | entered => exact guards trivial
  | built => exact guards trivial
  | _ => exact guarded.elim

/-- A caller builds on after an empty second look. -/
theorem building (act : Act caller before event after) (building : after.stage.Building) :
    after.slot.value = before.slot.value ∧
      (before.stage.Building ∨ before.slot.value = none) := by
  cases act with
  | missed _ _ vacant => exact ⟨rfl, Or.inr vacant⟩
  | remissed _ _ vacant => exact ⟨rfl, Or.inr vacant⟩
  | entered => exact ⟨rfl, Or.inl trivial⟩
  | built => exact ⟨rfl, Or.inl trivial⟩
  | _ => exact building.elim

/-- A caller that knows the value to return has known it before, or sees it right now. -/
theorem leaving (act : Act caller before event after) {value : α}
    (leaves : after.stage = .leaving (.ok value)) :
    before.stage = .leaving (.ok value) ∨ after.slot.value = some value := by
  cases act with
  | found _ _ _ holds =>
      cases leaves
      exact Or.inr holds
  | refound _ _ _ holds =>
      cases leaves
      exact Or.inr holds
  | offered slot _ built =>
      cases leaves
      exact Or.inr (published_current slot built)
  | unlocked => exact Or.inl leaves
  | _ => cases leaves

theorem failing (act : Act caller before event after) {failure : Abort}
    (leaves : after.stage = .leaving (.error failure)) :
    before.stage = .leaving (.error failure) ∨ event = .ended caller (.error failure) := by
  cases act with
  | failed =>
      cases leaves
      exact Or.inr rfl
  | unlocked => exact Or.inl leaves
  | _ => cases leaves

theorem begun (act : Act caller before event after) :
    before.stage ≠ .uncalled ∨ event = .called caller := by
  cases act with
  | called => exact Or.inr rfl
  | _ => exact Or.inl nofun

theorem offering (act : Act caller before event after) {built : α}
    (offers : before.stage = .offering built) : after.slot.value.isSome = true := by
  cases act with
  | offered slot _ built =>
      rw [published_current]
      rfl
  | _ => cases offers

end Act

/-! ## What a step does -/

/-- What a step is to one caller: an act of its own, or something that leaves it where it
is and does not take the lock from it. -/
inductive Concerns (caller : Nat) (c : Config α) (event : CallEvent α) (next : Config α) :
    Prop where
  | acts (act : Act caller (c.restrict caller) event (next.restrict caller))
  | aside (same : next.stage caller = c.stage caller)
      (keeps : c.holder = some caller -> next.holder = some caller)

namespace Step

variable {c next : Config α} {event : CallEvent α}

theorem concerns (step : Step c event next) (caller : Nat) : Concerns caller c event next := by
  cases step with
  | got => exact .aside rfl id
  | overridden => exact .aside rfl id
  | @acted actor _ after act =>
      by_cases same : caller = actor
      · subst same
        exact .acts (by rw [c.extend_restrict]; exact act)
      · exact .aside (c.extend_stage_of_ne after same) (act.holder_of_ne same)

theorem strategy (step : Step c event next) : next.slot.strategy = c.slot.strategy := by
  cases step with
  | acted act => exact act.strategy
  | _ => rfl

theorem isSome (step : Step c event next) (holds : c.slot.value.isSome = true) :
    next.slot.value.isSome = true := by
  cases step with
  | got => exact holds
  | overridden => rfl
  | acted act => exact act.isSome holds

theorem value (step : Step c event next) (unset : ∀ value, event ≠ .overridden value)
    (vacant : c.slot.strategy = .locked -> ∀ caller, (c.stage caller).Building ->
      c.slot.value = none) :
    next.slot.value = c.slot.value.or event.offer? := by
  cases step with
  | got => exact (Option.or_none ..).symm
  | overridden value => exact absurd rfl (unset value)
  | @acted actor _ after act => exact act.value fun locked => vacant locked actor

theorem got_value {answer : Option α} (step : Step c (.got answer) next) :
    answer = c.slot.value := by
  cases step with
  | got => rfl
  | @acted actor _ after act =>
      generalize c.restrict actor = before at act
      cases act

theorem returned_stage {caller : Nat} {result : Except Abort α}
    (step : Step c (.returned caller result) next) : c.stage caller = .leaving result := by
  cases step with
  | @acted actor _ after act =>
      generalize here : c.restrict actor = before at act
      cases act with
      | returned => exact congrArg Local.stage here

theorem ended_before {caller : Nat} {outcome : Except Abort α}
    (step : Step c (.ended caller outcome) next) : c.stage caller = .constructing := by
  cases step with
  | @acted actor _ after act =>
      generalize here : c.restrict actor = before at act
      cases act with
      | built => exact congrArg Local.stage here
      | failed => exact congrArg Local.stage here

theorem entered_stage {caller : Nat} (step : Step c (.entered caller) next) :
    c.stage caller = .entering := by
  cases step with
  | @acted actor _ after act =>
      generalize here : c.restrict actor = before at act
      cases act with
      | entered => exact congrArg Local.stage here

theorem ended_stage {caller : Nat} {built : α} (step : Step c (.ended caller (.ok built)) next) :
    next.stage caller = .offering built := by
  cases step with
  | @acted actor _ after act =>
      generalize c.restrict actor = before at act
      cases act with
      | built => simp

theorem offered_stage {caller : Nat} {winner : α} (step : Step c (.offered caller winner) next) :
    (c.stage caller).Building ∧ ¬(next.stage caller).Building := by
  cases step with
  | @acted actor _ after act =>
      generalize here : c.restrict actor = before at act
      cases act with
      | offered slot holder built =>
          have stage : c.stage caller = .offering built := congrArg Local.stage here
          rw [stage, Config.extend_stage_self]
          exact ⟨trivial, id⟩

end Step

/-! ## What a run does -/

namespace Run

variable {slot : Slot α} {start c last : Config α} {events before after : List (CallEvent α)}

theorem strategy (run : Run start events last) :
    last.slot.strategy = start.slot.strategy := by
  induction run with
  | start => rfl
  | step _ step ih => exact step.strategy.trans ih

/-- A slot never goes from holding a value to being empty. -/
theorem isSome (run : Run start events last) (holds : start.slot.value.isSome = true) :
    last.slot.value.isSome = true := by
  induction run with
  | start => exact holds
  | step _ step ih => exact step.isSome ih

/-- On a locked slot the callers in a guarded stage hold the lock, so there is only one. -/
theorem guarded (run : Run (.idle slot) events last) (locked : slot.strategy = .locked)
    (caller : Nat) (guarded : (last.stage caller).Guarded) : last.holder = some caller := by
  induction run with
  | start => exact guarded.elim
  | @step _ c next _ run step ih =>
      cases step.concerns caller with
      | acts act => exact act.guarded (run.strategy.trans locked) ih guarded
      | aside same keeps => exact keeps (ih (same ▸ guarded))

theorem guarded_unique (run : Run (.idle slot) events last) (locked : slot.strategy = .locked)
    {first second : Nat} (one : (last.stage first).Guarded)
    (other : (last.stage second).Guarded) : first = second :=
  Option.some.inj
    ((run.guarded locked first one).symm.trans (run.guarded locked second other))

/-- What holds of a run that overrides nothing.  The slot holds the value that it started
with, or else the first one that was offered; a caller of a locked slot that is about to
offer one finds it empty. -/
structure Undisturbed (slot : Slot α) (events : List (CallEvent α)) (c : Config α) : Prop where
  vacant : c.slot.strategy = .locked -> ∀ caller, (c.stage caller).Building ->
    c.slot.value = none
  value : c.slot.value = slot.value.or (events.findSome? CallEvent.offer?)
  known : ∀ caller value, c.stage caller = .leaving (.ok value) -> c.slot.value = some value

theorem undisturbed (run : Run (.idle slot) events last)
    (unset : ∀ value, .overridden value ∉ events) : Undisturbed slot events last := by
  induction run with
  | start => exact ⟨fun _ _ => False.elim, (Option.or_none ..).symm, nofun⟩
  | @step events c next event run step ih =>
      have earlier := ih fun value within => unset value (List.mem_append_left _ within)
      have changes := step.value
        (fun value same => unset value (same ▸ List.mem_append_right _ List.mem_cons_self))
        earlier.vacant
      constructor
      · intro locked caller building
        have strategy := step.strategy.symm.trans locked
        have start := run.strategy.symm.trans strategy
        cases step.concerns caller with
        | acts act =>
            have builds := act.building building
            rcases builds.2 with already | empty
            · exact builds.1.trans (earlier.vacant strategy caller already)
            · exact builds.1.trans empty
        | aside same keeps =>
            have already : (c.stage caller).Building := same ▸ building
            rw [changes, earlier.vacant strategy caller already, Option.none_or]
            -- An offer would come from another caller that holds the lock.
            cases event with
            | offered actor winner =>
                have offers := step.offered_stage
                have one := run.guarded_unique start already.guarded offers.1.guarded
                exact absurd (one ▸ building) offers.2
            | _ => rfl
      · rw [changes, earlier.value, Option.or_assoc, List.findSome?_append]
        cases event <;> rfl
      · intro caller value leaves
        have before : c.stage caller = .leaving (.ok value) -> next.slot.value = some value := by
          intro already
          rw [changes, earlier.known caller value already]
          rfl
        cases step.concerns caller with
        | acts act => exact (act.leaving leaves).elim before id
        | aside same _ => exact before (same ▸ leaves)

/-- A run that overrides nothing has been undisturbed at every moment. -/
theorem undisturbed_before (run : Run (.idle slot) before c)
    (unset : ∀ value, .overridden value ∉ before ++ after) : Undisturbed slot before c :=
  run.undisturbed fun value within => unset value (List.mem_append_left _ within)

/-- Once a constructor has ended in a value, the slot holds a value or is about to be
offered one. -/
theorem succeeded (run : Run start events last) {caller : Nat} {built : α}
    (ended : .ended caller (.ok built) ∈ events) :
    last.slot.value.isSome = true ∨ ∃ caller built, last.stage caller = .offering built := by
  induction run with
  | start => cases ended
  | @step events c next event run step ih =>
      rcases List.mem_append.mp ended with earlier | now
      · rcases ih earlier with holds | ⟨actor, value, offers⟩
        · exact Or.inl (step.isSome holds)
        · cases step.concerns actor with
          | acts act => exact Or.inl (act.offering offers)
          | aside same _ => exact Or.inr ⟨actor, value, same.trans offers⟩
      · cases List.mem_singleton.mp now
        exact Or.inr ⟨caller, built, step.ended_stage⟩

/-- A failure that a caller returns is that of its own constructor. -/
theorem failed (run : Run (.idle slot) events last) {caller : Nat} {failure : Abort}
    (leaves : last.stage caller = .leaving (.error failure)) :
    .ended caller (.error failure) ∈ events := by
  induction run with
  | start => cases leaves
  | @step events c next event run step ih =>
      cases step.concerns caller with
      | acts act =>
          rcases act.failing leaves with already | now
          · exact List.mem_append_left _ (ih already)
          · exact now ▸ List.mem_append_right _ List.mem_cons_self
      | aside same _ => exact List.mem_append_left _ (ih (same ▸ leaves))

/-- Once a constructor of a locked slot has ended in a value, no caller runs one any more,
unless the value is overridden. -/
theorem quiet (run : Run (.idle slot) events last) (locked : slot.strategy = .locked)
    (unset : ∀ value, .overridden value ∉ events) {caller : Nat} {built : α}
    (ended : .ended caller (.ok built) ∈ events) (other : Nat) :
    last.stage other ≠ .entering ∧ last.stage other ≠ .constructing := by
  have none (building : (last.stage other).Building) : last.slot.value = none :=
    (run.undisturbed unset).vacant (run.strategy.trans locked) other building
  have busy : last.stage other = .entering ∨ last.stage other = .constructing -> False := by
    intro busy
    have building : (last.stage other).Building := by
      rcases busy with enters | constructs
      · exact enters ▸ trivial
      · exact constructs ▸ trivial
    rcases run.succeeded ended with holds | ⟨actor, value, offers⟩
    · rw [none building] at holds
      cases holds
    · have offering : (last.stage actor).Building := offers ▸ trivial
      have one := run.guarded_unique locked offering.guarded building.guarded
      rw [← one, offers] at busy
      exact busy.elim nofun nofun
  exact ⟨fun enters => busy (Or.inl enters), fun constructs => busy (Or.inr constructs)⟩

theorem called_mem (run : Run (.idle slot) events last) {caller : Nat}
    (begun : last.stage caller ≠ .uncalled) : .called caller ∈ events := by
  induction run with
  | start => exact absurd rfl begun
  | @step events c next event run step ih =>
      cases step.concerns caller with
      | acts act =>
          rcases act.begun with earlier | now
          · exact List.mem_append_left _ (ih earlier)
          · exact now ▸ List.mem_append_right _ List.mem_cons_self
      | aside same _ => exact List.mem_append_left _ (ih (same ▸ begun))

/-- A value that a caller is about to return was the value of the slot at some moment since
the caller began. -/
theorem seen (run : Run (.idle slot) events last) {caller : Nat} {value : α}
    (leaves : last.stage caller = .leaving (.ok value)) :
    ∃ before early late moment, events = before ++ .called caller :: early ++ late ∧
      Run (.idle slot) (before ++ .called caller :: early) moment ∧
      moment.slot.value = some value ∧ Run moment late last := by
  induction run with
  | start => cases leaves
  | @step events c next event run step ih =>
      have earlier (already : c.stage caller = .leaving (.ok value)) :
          ∃ before early late moment,
            events ++ [event] = before ++ .called caller :: early ++ late ∧
            Run (.idle slot) (before ++ .called caller :: early) moment ∧
            moment.slot.value = some value ∧ Run moment late next := by
        rcases ih already with ⟨before, early, late, moment, whole, reached, holds, rest⟩
        refine ⟨before, early, late ++ [event], moment, ?_, reached, holds, rest.step step⟩
        rw [whole, List.append_assoc]
      cases step.concerns caller with
      | aside same _ => exact earlier (same ▸ leaves)
      | acts act =>
          rcases act.leaving leaves with already | holds
          · exact earlier already
          · -- The value is seen right now, so this is the moment.
            have run := run.step step
            have begun : .called caller ∈ events ++ [event] :=
              run.called_mem (leaves ▸ nofun)
            rcases List.append_of_mem begun with ⟨before, early, whole⟩
            exact ⟨before, early, [], next, by simpa using whole, whole ▸ run, holds, .start⟩

end Run

/-! ## Agreement -/

/-- The value that everybody sees in a run that overrides nothing: the one that the slot
started with, or else the first one that was offered. -/
def firstValue (slot : Slot α) (events : List (CallEvent α)) : Option α :=
  slot.value.or (events.findSome? CallEvent.offer?)

theorem firstValue_append {slot : Slot α} {before after : List (CallEvent α)} {value : α}
    (first : firstValue slot before = some value) :
    firstValue slot (before ++ after) = some value := by
  unfold firstValue at first ⊢
  rw [List.findSome?_append, ← Option.or_assoc, first]
  rfl

/-- What the callers of a slot can rely on, however their steps are interleaved. -/
structure Agrees (slot : Slot α) (events : List (CallEvent α)) (last : Config α) : Prop where
  /-- The slot has never gone from holding a value to being empty. -/
  stays_filled : ∀ before after c, events = before ++ after -> Run (.idle slot) before c ->
    Run c after last -> c.slot.value.isSome -> last.slot.value.isSome
  /-- What a caller has returned was the value of the slot at a moment of the call. -/
  was_current : ∀ caller value, .returned caller (.ok value) ∈ events ->
    ∃ before early late after moment,
      events =
        before ++ .called caller :: early ++ (late ++ .returned caller (.ok value) :: after) ∧
      Run (.idle slot) (before ++ .called caller :: early) moment ∧
      moment.slot.value = some value ∧
      Run moment (late ++ .returned caller (.ok value) :: after) last
  /-- If nobody overrides the value, everybody sees the same one. -/
  single : (∀ value, .overridden value ∉ events) ->
    last.slot.value = firstValue slot events ∧
    ∀ value, (.got (some value) ∈ events ∨ ∃ caller, .returned caller (.ok value) ∈ events) ->
      firstValue slot events = some value
  /-- A locked slot runs one constructor at a time. -/
  one_at_a_time : slot.strategy = .locked -> ∀ one other,
    last.stage one = .constructing -> last.stage other = .constructing -> one = other
  /-- If nobody overrides the value, the first constructor of a locked slot that ends in a
  value is the last one that runs. -/
  last_constructor : slot.strategy = .locked -> (∀ value, .overridden value ∉ events) ->
    ∀ before after caller built, events = before ++ .ended caller (.ok built) :: after ->
      ∀ other, .entered other ∉ after ∧ ∀ outcome, .ended other outcome ∉ after
  /-- A failure goes to the caller whose constructor has failed. -/
  own_failure : ∀ caller failure, .returned caller (.error failure) ∈ events ->
    .ended caller (.error failure) ∈ events

/-- A caller that returns has known its result just before. -/
theorem Run.leaving_of_returned {start last : Config α} {events : List (CallEvent α)}
    (run : Run start events last) {caller : Nat} {result : Except Abort α}
    (returns : .returned caller result ∈ events) :
    ∃ before after c, events = before ++ .returned caller result :: after ∧
      Run start before c ∧ c.stage caller = .leaving result ∧
      Run c (.returned caller result :: after) last := by
  rcases List.append_of_mem returns with ⟨before, after, rfl⟩
  rcases run.split_at with ⟨c, next, first, step, second⟩
  exact ⟨before, after, c, rfl, first, step.returned_stage, .cons step second⟩

/-- The callers of a slot can rely on this whatever the slot starts with, however many of
them there are and whatever their constructors do. -/
theorem overlapping_agree {slot : Slot α} {events : List (CallEvent α)} {last : Config α}
    (run : Run (.idle slot) events last) : Agrees slot events last where
  stays_filled := fun _ _ _ _ _ rest holds => rest.isSome holds
  was_current := by
    intro caller value returns
    rcases run.leaving_of_returned returns with ⟨until', after, c, rfl, first, leaves, rest⟩
    rcases first.seen leaves with ⟨before, early, late, moment, rfl, reached, holds, later⟩
    refine ⟨before, early, late, after, moment, ?_, reached, holds, later.append rest⟩
    rw [List.append_assoc (before ++ _)]
  single := by
    intro unset
    refine ⟨(run.undisturbed unset).value, ?_⟩
    rintro value (got | ⟨caller, returns⟩)
    · rcases List.append_of_mem got with ⟨before, after, rfl⟩
      rcases run.split_at with ⟨c, next, first, step, -⟩
      have early := first.undisturbed_before unset
      exact firstValue_append (early.value.symm.trans step.got_value.symm)
    · rcases run.leaving_of_returned returns with ⟨before, after, c, rfl, first, leaves, -⟩
      have early := first.undisturbed_before unset
      exact firstValue_append (early.value.symm.trans (early.known caller value leaves))
  one_at_a_time := by
    intro locked one other constructs constructs'
    have here : (last.stage one).Building := constructs ▸ trivial
    have there : (last.stage other).Building := constructs' ▸ trivial
    exact run.guarded_unique locked here.guarded there.guarded
  last_constructor := by
    rintro locked unset before after caller built rfl other
    have still (event : CallEvent α) (within : event ∈ after) : ∃ c next, Step c event next ∧
        c.stage other ≠ .entering ∧ c.stage other ≠ .constructing := by
      rcases List.append_of_mem within with ⟨middle, rest, rfl⟩
      rw [List.append_cons, ← List.append_assoc] at run unset
      rcases run.split_at with ⟨c, next, first, step, -⟩
      have ended : .ended caller (.ok built) ∈ before ++ [.ended caller (.ok built)] ++ middle := by
        simp
      refine ⟨c, next, step, first.quiet locked ?_ ended other⟩
      exact fun value within => unset value (List.mem_append_left _ within)
    constructor
    · intro enters
      rcases still _ enters with ⟨c, next, step, notEntering, -⟩
      exact notEntering step.entered_stage
    · intro outcome ends
      rcases still _ ends with ⟨c, next, step, -, notConstructing⟩
      exact notConstructing step.ended_before
  own_failure := by
    intro caller failure returns
    rcases run.leaving_of_returned returns with ⟨before, after, c, rfl, first, leaves, -⟩
    exact List.mem_append_left _ (first.failed leaves)

/-- Two callers of a lock-free slot, of which the second one is faster. -/
def contest : List (CallEvent String) :=
  [.called 0, .missed 0, .entered 0] ++ [.called 1, .missed 1, .entered 1] ++
    [.ended 1 (.ok "b"), .offered 1 "b"] ++ [.got (some "b")] ++
    [.ended 0 (.ok "a"), .offered 0 "b", .returned 0 (.ok "b")] ++ [.returned 1 (.ok "b")]

/-- Two callers of a locked slot, of which the first one fails. -/
def retry : List (CallEvent String) :=
  [.called 0, .missed 0, .locked 0, .missed 0, .entered 0] ++ [.called 1, .missed 1] ++
    [.ended 0 (.error .panic), .unlocked 0, .returned 0 (.error .panic)] ++
    [.locked 1, .missed 1, .entered 1, .ended 1 (.ok "b"), .offered 1 "b", .unlocked 1,
      .returned 1 (.ok "b")]

theorem contest_run : ∃ last, Run (.idle (Slot.vacant "test" .lockFree)) contest last := by
  have idle : Run (.idle (Slot.vacant (α := String) "test" .lockFree)) [] _ := .start
  have first := idle.act 0 (.begin rfl rfl)
  have second := first.act 1 (.begin rfl rfl)
  have faster := second.act 1 (.next (.built _ _ "b") (.next (.offered ..) (.done _)))
  have got := faster.step (.got _)
  have slower := got.act 0 (.next (.built _ _ "a")
    (.next (.offered ..) (.next (.returned _ _ _ nofun) (.done _))))
  exact ⟨_, slower.act 1 (.next (.returned _ _ _ nofun) (.done _))⟩

theorem retry_run : ∃ last, Run (.idle (Slot.vacant "test" .locked)) retry last := by
  have idle : Run (.idle (Slot.vacant (α := String) "test" .locked)) [] _ := .start
  have first := idle.act 0 (.beginLocked rfl rfl)
  have second := first.act 1 (.next (.called ..) (.next (.queued _ _ rfl rfl) (.done _)))
  have fails := second.act 0 (.next (.failed _ _ .panic)
    (.next (.unlocked ..) (.next (.returned _ _ _ nofun) (.done _))))
  exact ⟨_, fails.act 1 (.next (.locked _) (.next (.remissed _ _ rfl) (.next (.entered ..)
    (.next (.built _ _ "b") (.next (.offered ..) (.next (.unlocked ..)
      (.next (.returned _ _ _ nofun) (.done _))))))))⟩

theorem agree_contest_retry :
    (∃ last, Run (.idle (Slot.vacant "test" .lockFree)) contest last ∧
      Agrees (Slot.vacant "test" .lockFree) contest last) ∧
    ∃ last, Run (.idle (Slot.vacant "test" .locked)) retry last ∧
      Agrees (Slot.vacant "test" .locked) retry last := by
  rcases contest_run with ⟨last, contested⟩
  rcases retry_run with ⟨last', retried⟩
  exact ⟨⟨last, contested, overlapping_agree contested⟩, last', retried, overlapping_agree retried⟩

end SecureSockets.Slot
