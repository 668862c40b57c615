import SecureSockets.Proofs.Session.AllOrNothing

namespace SecureSockets.Session

/-!
# Parameters as a view of an engine

Exporting reads a record of parameters off an engine, and applying writes one back.  The
two are written separately, and they are not the inverse of each other on the nose: an
absent list leaves the engine's own list alone, client authentication is written even by
a record without an opinion about it, and the rest of a record never reaches an engine.

What makes them a view all the same is that a successful call has a plain effect on what
can be read off the engine.  The effect is `written`, a function of the record and of the
readings before the call, and the three laws are facts about that function: writing what
was read changes nothing, reading what was written gives the record completed by the
engine's own lists, and of two records written in turn the later one is laid over the
earlier one.
-/

open ConfigurableEngine Effect

/-! ## Readings -/

/-- Everything that can be read off an engine.  Two engines with the same readings are not
told apart by the laws, whatever else they hold. -/
structure Readings where
  supportedSuites : List String
  suites : List String
  supportedProtocols : List String
  protocols : List String
  need : Bool
  want : Bool
  clientMode : Bool
  sessionCreation : Bool
  peerHost : Option String
  peerPort : Option Nat

variable {ε κ : Type} [ConfigurableEngine ε]

def readings (engine : ε) : Readings where
  supportedSuites := supportedCipherSuites engine
  suites := enabledCipherSuites engine
  supportedProtocols := supportedProtocols engine
  protocols := enabledProtocols engine
  need := needClientAuth engine
  want := wantClientAuth engine
  clientMode := useClientMode engine
  sessionCreation := enableSessionCreation engine
  peerHost := peerHost engine
  peerPort := peerPort engine

namespace Readings

def withAuth (readings : Readings) (auth : ClientAuth) : Readings :=
  { readings with need := auth == .required, want := auth == .requested }

/-- The readings once a record of parameters has been written. -/
def written (readings : Readings) (parameters : Parameters κ) : Readings :=
  { readings with
    suites := parameters.cipherSuites.getD readings.suites
    protocols := parameters.protocols.getD readings.protocols }.withAuth parameters.clientAuth

/-- The record of parameters that some readings describe. -/
def exported (readings : Readings) : Parameters κ :=
  { cipherSuites := some readings.suites
    protocols := some readings.protocols
    needClientAuth := readings.need
    wantClientAuth := !readings.need && readings.want }

end Readings

theorem exportParameters_eq (engine : ε) :
    (exportParameters engine : Parameters κ) = (readings engine).exported :=
  rfl

/-! ## Records laid over each other -/

namespace Parameters

/-- The second record, with the lists of the first one where the second has none.
Everything else is decided by the second record alone, as it is in an engine. -/
def overlaid (under above : Parameters κ) : Parameters κ :=
  { above with
    cipherSuites := above.cipherSuites.or under.cipherSuites
    protocols := above.protocols.or under.protocols }

/-- What remains of a record in an engine: its lists, completed by those that the engine
had, and its treatment of client authentication by a single flag. -/
def completed (parameters : Parameters κ) (suites protocols : List String) : Parameters κ :=
  { cipherSuites := some (parameters.cipherSuites.getD suites)
    protocols := some (parameters.protocols.getD protocols)
    needClientAuth := parameters.clientAuth == .required
    wantClientAuth := parameters.clientAuth == .requested }

theorem completed_clientAuth (parameters : Parameters κ) (suites protocols : List String) :
    (parameters.completed suites protocols).clientAuth = parameters.clientAuth := by
  unfold completed clientAuth
  cases ClientAuth.ofFlags parameters.needClientAuth parameters.wantClientAuth <;> rfl

theorem completed_exclusive (parameters : Parameters κ) (suites protocols : List String) :
    ¬((parameters.completed suites protocols).needClientAuth ∧
      (parameters.completed suites protocols).wantClientAuth) := by
  simp only [completed, beq_iff_eq]
  rintro ⟨required, requested⟩
  exact absurd (required.symm.trans requested) nofun

end Parameters

namespace Readings

theorem exported_written (readings : Readings) (parameters : Parameters κ) :
    (readings.written parameters).exported =
      parameters.completed readings.suites readings.protocols := by
  unfold exported written withAuth Parameters.completed
  cases parameters.clientAuth <;> rfl

/-- Writing what has been read changes nothing, unless both flags were set. -/
theorem written_exported (readings : Readings) (exclusive : ¬(readings.need ∧ readings.want)) :
    readings.written (readings.exported : Parameters κ) = readings := by
  rcases readings with ⟨_, suites, _, protocols, need, want, _, _, _, _⟩
  cases need <;> cases want
  case true.true => exact absurd ⟨rfl, rfl⟩ exclusive
  all_goals rfl

theorem written_written (readings : Readings) (under above : Parameters κ) :
    (readings.written under).written above = readings.written (under.overlaid above) := by
  have lists (first second : Option (List String)) (own : List String) :
      second.getD (first.getD own) = (second.or first).getD own := by
    cases second <;> rfl
  simp only [written, withAuth, lists]
  rfl

end Readings

/-! ## Engines that can be viewed -/

/-- The engines that the setter calls of successful applications can lead to. -/
inductive Configured (start : ε) : ε -> Prop where
  | start : Configured start start
  | cipherSuites {engine : ε} (configured : Configured start engine) (suites : List String)
      (accepts : (setEnabledCipherSuites suites engine).1 = .ok ()) :
      Configured start (setEnabledCipherSuites suites engine).2
  | protocols {engine : ε} (configured : Configured start engine) (protocols : List String)
      (accepts : (setEnabledProtocols protocols engine).1 = .ok ()) :
      Configured start (setEnabledProtocols protocols engine).2
  | need {engine : ε} (configured : Configured start engine) (need : Bool) :
      Configured start (setNeedClientAuth need engine)
  | want {engine : ε} (configured : Configured start engine) (want : Bool) :
      Configured start (setWantClientAuth want engine)

/-- What is asked of an engine.  A setter of lists that accepts changes its own list and
nothing else; whether it accepts depends on the list alone, and it accepts the list that
is enabled already; each of the two flags is set as asked, clears the other one and
touches nothing else; and the engine does not start with both flags. -/
structure Viewable (start : ε) : Prop where
  suites_set : ∀ engine suites, Configured start engine ->
    (setEnabledCipherSuites suites engine).1 = .ok () ->
    readings (setEnabledCipherSuites suites engine).2 =
      { readings engine with suites := suites }
  suites_stable : ∀ engine suites, Configured start engine ->
    ((setEnabledCipherSuites suites engine).1 = .ok () ↔
      (setEnabledCipherSuites suites start).1 = .ok ())
  suites_current : (setEnabledCipherSuites (enabledCipherSuites start) start).1 = .ok ()
  protocols_set : ∀ engine protocols, Configured start engine ->
    (setEnabledProtocols protocols engine).1 = .ok () ->
    readings (setEnabledProtocols protocols engine).2 =
      { readings engine with protocols := protocols }
  protocols_stable : ∀ engine protocols, Configured start engine ->
    ((setEnabledProtocols protocols engine).1 = .ok () ↔
      (setEnabledProtocols protocols start).1 = .ok ())
  protocols_current : (setEnabledProtocols (enabledProtocols start) start).1 = .ok ()
  need_set : ∀ engine need, Configured start engine ->
    readings (setNeedClientAuth need engine) =
      { readings engine with need := need, want := false }
  want_set : ∀ engine want, Configured start engine ->
    readings (setWantClientAuth want engine) =
      { readings engine with want := want, need := false }
  exclusive : ¬(needClientAuth start ∧ wantClientAuth start)

structure Accepts (engine : ε) (parameters : Parameters κ) : Prop where
  suites : ∀ suites, parameters.cipherSuites = some suites ->
    (setEnabledCipherSuites suites engine).1 = .ok ()
  protocols : ∀ protocols, parameters.protocols = some protocols ->
    (setEnabledProtocols protocols engine).1 = .ok ()

/-! ## A successful call -/

def withProtocols (parameters : Parameters κ) (start : ε) : ε :=
  match parameters.protocols with
  | none => start
  | some protocols => (setEnabledProtocols protocols start).2

/-- The engine behind a call in which nothing is refused. -/
def applied (parameters : Parameters κ) (start : ε) : ε :=
  applyClientAuth parameters.clientAuth (withProtocols parameters (withSuites parameters start))

/-- The setting of the protocols ends with an answer, and refuses or not. -/
theorem protocolsStep (parameters : Parameters κ) (engine : ε) :
    (∃ refusal protocols, parameters.protocols = some protocols ∧
      (setEnabledProtocols protocols engine).1 = .error refusal ∧
      (applyProtocols parameters.protocols).Yields engine (.error refusal)
        (withProtocols parameters engine)) ∨
    ((∀ protocols, parameters.protocols = some protocols ->
        (setEnabledProtocols protocols engine).1 = .ok ()) ∧
      (applyProtocols parameters.protocols).Yields engine (.ok ())
        (withProtocols parameters engine)) := by
  unfold withProtocols
  cases present : parameters.protocols with
  | none => exact Or.inr ⟨nofun, applyProtocols_none engine⟩
  | some protocols =>
      have yields := applyProtocols_some protocols engine
      cases outcome : (setEnabledProtocols protocols engine).1 with
      | error refusal =>
          rw [outcome] at yields
          exact Or.inl ⟨refusal, protocols, rfl, outcome, yields⟩
      | ok _ =>
          rw [outcome] at yields
          refine Or.inr ⟨?_, yields⟩
          intro protocols' same
          cases same
          exact outcome

theorem restores (refusal : Error) (previous : Option (List String)) (engine : ε) :
    ∃ restored, (restoreCipherSuites refusal previous).Yields engine () restored := by
  cases previous with
  | none => exact ⟨engine, restoreCipherSuites_none refusal engine⟩
  | some suites => exact ⟨_, restoreCipherSuites_some refusal suites engine⟩

theorem SuitesStep.accepts {parameters : Parameters κ} {start : ε}
    {previous : Option (List String)} (step : SuitesStep parameters start (.ok previous))
    (suites : List String) (selected : parameters.cipherSuites = some suites) :
    (setEnabledCipherSuites suites start).1 = .ok () := by
  cases step with
  | absent missing => exact absurd (missing.symm.trans selected) nofun
  | accepted suites' present accepts =>
      cases present.symm.trans selected
      exact accepts

/-- A call succeeds exactly if nothing is refused, and then it leaves the engine to which
the setters have been applied in turn. -/
theorem applyParameters_ok_iff (parameters : Parameters κ) (start last : ε) :
    (applyParameters parameters).Yields start (.ok ()) last ↔
      (∀ suites, parameters.cipherSuites = some suites ->
        (setEnabledCipherSuites suites start).1 = .ok ()) ∧
      (∀ protocols, parameters.protocols = some protocols ->
        (setEnabledProtocols protocols (withSuites parameters start)).1 = .ok ()) ∧
      last = applied parameters start := by
  rcases suitesStep parameters start with ⟨answer, first, step⟩
  cases answer with
  | error refusal =>
      have fails : (applyParameters parameters).Yields start (.error refusal)
          (withSuites parameters start) := .of_bind first (.of_pure _ _)
      constructor
      · intro succeeds
        exact absurd (Yields.unique succeeds fails).1 nofun
      · rintro ⟨accepts, -, -⟩
        cases step with
        | refused suites _ present refuses =>
            exact absurd (refuses.symm.trans (accepts suites present)) nofun
  | ok previous =>
      rcases protocolsStep parameters (withSuites parameters start) with
        ⟨refusal, protocols, present, refuses, second⟩ | ⟨accepts, second⟩
      · rcases restores refusal previous (withProtocols parameters (withSuites parameters start))
          with ⟨restored, third⟩
        have fails : (applyParameters parameters).Yields start (.error refusal) restored :=
          .of_bind first (.of_bind second (.of_bind third (.of_pure _ _)))
        constructor
        · intro succeeds
          exact absurd (Yields.unique succeeds fails).1 nofun
        · rintro ⟨-, accepts, -⟩
          exact absurd (refuses.symm.trans (accepts protocols present)) nofun
      · have succeeds : (applyParameters parameters).Yields start (.ok ())
            (applied parameters start) :=
          .of_bind first (.of_bind second (.of_bind (.of_modify _ _) (.of_pure _ _)))
        constructor
        · intro succeeds'
          exact ⟨step.accepts, accepts, (Yields.unique succeeds' succeeds).2⟩
        · rintro ⟨-, -, rfl⟩
          exact succeeds

/-! ## The laws -/

namespace Viewable

variable {start engine last : ε}

theorem suites_accepted (viewable : Viewable start) (configured : Configured start engine)
    {parameters : Parameters κ} (accepts : Accepts start parameters) (suites : List String)
    (present : parameters.cipherSuites = some suites) :
    (setEnabledCipherSuites suites engine).1 = .ok () :=
  (viewable.suites_stable engine suites configured).mpr (accepts.suites suites present)

theorem withSuites_configured (configured : Configured start engine) (parameters : Parameters κ)
    (accepts : ∀ suites, parameters.cipherSuites = some suites ->
      (setEnabledCipherSuites suites engine).1 = .ok ()) :
    Configured start (withSuites parameters engine) := by
  unfold withSuites
  cases present : parameters.cipherSuites with
  | none => exact configured
  | some suites => exact .cipherSuites configured suites (accepts suites present)

theorem withSuites_readings (viewable : Viewable start) (configured : Configured start engine)
    (parameters : Parameters κ)
    (accepts : ∀ suites, parameters.cipherSuites = some suites ->
      (setEnabledCipherSuites suites engine).1 = .ok ()) :
    readings (withSuites parameters engine) =
      { readings engine with suites := parameters.cipherSuites.getD (readings engine).suites } := by
  unfold withSuites
  cases present : parameters.cipherSuites with
  | none => rfl
  | some suites => exact viewable.suites_set engine suites configured (accepts suites present)

theorem withProtocols_configured (configured : Configured start engine)
    (parameters : Parameters κ)
    (accepts : ∀ protocols, parameters.protocols = some protocols ->
      (setEnabledProtocols protocols engine).1 = .ok ()) :
    Configured start (withProtocols parameters engine) := by
  unfold withProtocols
  cases present : parameters.protocols with
  | none => exact configured
  | some protocols => exact .protocols configured protocols (accepts protocols present)

theorem withProtocols_readings (viewable : Viewable start) (configured : Configured start engine)
    (parameters : Parameters κ)
    (accepts : ∀ protocols, parameters.protocols = some protocols ->
      (setEnabledProtocols protocols engine).1 = .ok ()) :
    readings (withProtocols parameters engine) =
      { readings engine with
        protocols := parameters.protocols.getD (readings engine).protocols } := by
  unfold withProtocols
  cases present : parameters.protocols with
  | none => rfl
  | some protocols =>
      exact viewable.protocols_set engine protocols configured (accepts protocols present)

theorem applyClientAuth_configured (configured : Configured start engine) (auth : ClientAuth) :
    Configured start (applyClientAuth auth engine) := by
  cases auth with
  | none => exact .want configured false
  | requested => exact .want configured true
  | required => exact .need configured true

theorem applyClientAuth_readings (viewable : Viewable start)
    (configured : Configured start engine) (auth : ClientAuth) :
    readings (applyClientAuth auth engine) = (readings engine).withAuth auth := by
  cases auth with
  | none => exact viewable.want_set engine false configured
  | requested => exact viewable.want_set engine true configured
  | required => exact viewable.need_set engine true configured

/-- On an engine that can be viewed, a call succeeds exactly if the engine accepts the lists
of the record, and then the record has been written. -/
theorem applies (viewable : Viewable start) (configured : Configured start engine)
    {parameters : Parameters κ} (accepts : Accepts start parameters) :
    ∃ last, (applyParameters parameters).Yields engine (.ok ()) last := by
  have suites := viewable.suites_accepted configured accepts
  refine ⟨_, (applyParameters_ok_iff parameters engine _).mpr ⟨suites, ?_, rfl⟩⟩
  intro protocols present
  have reached := withSuites_configured configured parameters suites
  exact (viewable.protocols_stable _ protocols reached).mpr (accepts.protocols protocols present)

theorem of_applies (viewable : Viewable start) (configured : Configured start engine)
    {parameters : Parameters κ}
    (succeeds : (applyParameters parameters).Yields engine (.ok ()) last) :
    Accepts start parameters ∧ Configured start last ∧
      readings last = (readings engine).written parameters := by
  rcases (applyParameters_ok_iff parameters engine last).mp succeeds with
    ⟨suites, protocols, rfl⟩
  have reached := withSuites_configured configured parameters suites
  have beyond := withProtocols_configured reached parameters protocols
  refine ⟨⟨?_, ?_⟩, applyClientAuth_configured beyond _, ?_⟩
  · intro list present
    exact (viewable.suites_stable engine list configured).mp (suites list present)
  · intro list present
    exact (viewable.protocols_stable _ list reached).mp (protocols list present)
  · unfold applied
    rw [viewable.applyClientAuth_readings beyond,
      viewable.withProtocols_readings reached _ protocols,
      viewable.withSuites_readings configured _ suites]
    rfl

end Viewable

theorem Accepts.exported {start : ε} (viewable : Viewable start) :
    Accepts start (exportParameters start : Parameters κ) where
  suites := by
    intro suites present
    cases present
    exact viewable.suites_current
  protocols := by
    intro protocols present
    cases present
    exact viewable.protocols_current

theorem Accepts.overlaid {start : ε} {under above : Parameters κ} (first : Accepts start under)
    (second : Accepts start above) : Accepts start (under.overlaid above) where
  suites := by
    intro suites present
    rcases Option.or_eq_some_iff.mp present with own | ⟨-, below⟩
    · exact second.suites suites own
    · exact first.suites suites below
  protocols := by
    intro protocols present
    rcases Option.or_eq_some_iff.mp present with own | ⟨-, below⟩
    · exact second.protocols protocols own
    · exact first.protocols protocols below

/-- The laws of a view, for engines as they can be read. -/
structure View (κ : Type) (start : ε) : Prop where
  /-- Applying what has been exported succeeds and changes nothing. -/
  get_put : ∃ last,
    (applyParameters (exportParameters start : Parameters κ)).Yields start (.ok ()) last ∧
      readings last = readings start
  /-- Exporting after a successful application gives the record that was applied, completed
  by the lists of the engine and stripped of what engines do not keep. -/
  put_get : ∀ (parameters : Parameters κ) last,
    (applyParameters parameters).Yields start (.ok ()) last ->
      exportParameters last =
        parameters.completed (enabledCipherSuites start) (enabledProtocols start) ∧
      (exportParameters last : Parameters κ).clientAuth = parameters.clientAuth ∧
      ¬((exportParameters last : Parameters κ).needClientAuth ∧
        (exportParameters last : Parameters κ).wantClientAuth)
  /-- Two successful applications come to the same as one of the second record laid over
  the first. -/
  put_put : ∀ (under above : Parameters κ) middle last,
    (applyParameters under).Yields start (.ok ()) middle ->
    (applyParameters above).Yields middle (.ok ()) last ->
      ∃ last', (applyParameters (under.overlaid above)).Yields start (.ok ()) last' ∧
        readings last' = readings last

/-- Exporting and applying are a view of every engine that keeps the rules. -/
theorem export_apply_view {start : ε} (viewable : Viewable start) : View κ start where
  get_put := by
    rcases viewable.applies .start (Accepts.exported (κ := κ) viewable) with ⟨last, succeeds⟩
    refine ⟨last, succeeds, ?_⟩
    rw [(viewable.of_applies .start succeeds).2.2, exportParameters_eq]
    exact Readings.written_exported _ viewable.exclusive
  put_get := by
    intro parameters last succeeds
    have exported : exportParameters last =
        parameters.completed (enabledCipherSuites start) (enabledProtocols start) := by
      rw [exportParameters_eq, (viewable.of_applies .start succeeds).2.2]
      exact Readings.exported_written _ parameters
    rw [exported]
    exact ⟨rfl, parameters.completed_clientAuth _ _, parameters.completed_exclusive _ _⟩
  put_put := by
    intro under above middle last first second
    rcases viewable.of_applies .start first with ⟨acceptsUnder, reached, written⟩
    rcases viewable.of_applies reached second with ⟨acceptsOver, -, overwritten⟩
    rcases viewable.applies .start (acceptsUnder.overlaid acceptsOver) with ⟨last', succeeds⟩
    refine ⟨last', succeeds, ?_⟩
    rw [(viewable.of_applies .start succeeds).2.2, overwritten, written]
    exact (Readings.written_written _ under above).symm

/-! ## A simulated engine -/

open Simulation

theorem setSuites_ok_iff (suites : List String) (engine : Engine)
    (unlimited : engine.suiteSetsLeft = none) :
    (Engine.setSuites suites engine).1 = .ok () ↔
      suites.find? (!engine.supportedSuites.contains ·) = none := by
  unfold Engine.setSuites
  simp only [Engine.record, unlimited, reduceCtorEq, if_false]
  cases suites.find? (!engine.supportedSuites.contains ·) with
  | none => simp
  | some suite => simp [Engine.refuse]

theorem setProtocols_ok_iff (protocols : List String) (engine : Engine) :
    (Engine.setProtocols protocols engine).1 = .ok () ↔
      protocols.find? (!engine.supportedProtocols.contains ·) = none := by
  unfold Engine.setProtocols
  simp only [Engine.record]
  cases protocols.find? (!engine.supportedProtocols.contains ·) with
  | none => simp
  | some protocol => simp [Engine.refuse]

/-- No call that applies parameters changes what a simulated engine supports, or begins to
count. -/
theorem simulated_configured {start engine : Engine} (unlimited : start.suiteSetsLeft = none)
    (configured : Configured start engine) :
    engine.supportedSuites = start.supportedSuites ∧
      engine.supportedProtocols = start.supportedProtocols ∧ engine.suiteSetsLeft = none := by
  induction configured with
  | start => exact ⟨rfl, rfl, unlimited⟩
  | @cipherSuites engine _ suites accepts ih =>
      change (Engine.setSuites suites engine).1 = _ at accepts
      change (Engine.setSuites suites engine).2.supportedSuites = _ ∧
        (Engine.setSuites suites engine).2.supportedProtocols = _ ∧
        (Engine.setSuites suites engine).2.suiteSetsLeft = none
      rcases setSuites_cases suites engine with ⟨refusal, refused⟩ | accepted
      · rw [refused] at accepts
        cases accepts
      · rw [accepted, ih.2.2]
        exact ⟨ih.1, ih.2.1, rfl⟩
  | @protocols engine _ protocols accepts ih =>
      change (Engine.setProtocols protocols engine).1 = _ at accepts
      change (Engine.setProtocols protocols engine).2.supportedSuites = _ ∧
        (Engine.setProtocols protocols engine).2.supportedProtocols = _ ∧
        (Engine.setProtocols protocols engine).2.suiteSetsLeft = none
      rcases setProtocols_cases protocols engine with ⟨refusal, refused⟩ | accepted
      · rw [refused] at accepts
        cases accepts
      · rw [accepted]
        exact ih
  | need _ _ ih => exact ih
  | want _ _ ih => exact ih

/-- A simulated engine that does not count can be viewed if it supports what it has enabled
and does not start with both flags. -/
theorem simulated_viewable (start : Engine) (unlimited : start.suiteSetsLeft = none)
    (suites : start.suites.find? (!start.supportedSuites.contains ·) = none)
    (protocols : start.protocols.find? (!start.supportedProtocols.contains ·) = none)
    (exclusive : ¬(start.need ∧ start.want)) : Viewable start where
  suites_set := by
    intro engine list _ accepts
    change (Engine.setSuites list engine).1 = _ at accepts
    change readings (Engine.setSuites list engine).2 = _
    rcases setSuites_cases list engine with ⟨_, refused⟩ | accepted
    · rw [refused] at accepts
      cases accepts
    · rw [accepted]
      rfl
  suites_stable := by
    intro engine list configured
    have kept := simulated_configured unlimited configured
    have here := setSuites_ok_iff list engine kept.2.2
    rw [kept.1] at here
    exact here.trans (setSuites_ok_iff list start unlimited).symm
  suites_current := (setSuites_ok_iff start.suites start unlimited).mpr suites
  protocols_set := by
    intro engine list _ accepts
    change (Engine.setProtocols list engine).1 = _ at accepts
    change readings (Engine.setProtocols list engine).2 = _
    rcases setProtocols_cases list engine with ⟨_, refused⟩ | accepted
    · rw [refused] at accepts
      cases accepts
    · rw [accepted]
      rfl
  protocols_stable := by
    intro engine list configured
    have kept := simulated_configured unlimited configured
    have here := setProtocols_ok_iff list engine
    rw [kept.2.1] at here
    exact here.trans (setProtocols_ok_iff list start).symm
  protocols_current := (setProtocols_ok_iff start.protocols start).mpr protocols
  need_set := fun _ _ _ => rfl
  want_set := fun _ _ _ => rfl
  exclusive := exclusive

/-- An engine that asks its clients for certificates, has a peer and has only one
suite. -/
def askingEngine : Engine :=
  { suites := ["TLS_AES_256_GCM_SHA384"], want := true, peer := some ⟨"www.example.com", 443⟩ }

theorem view_simulated :
    Viewable askingEngine ∧ View Unit askingEngine := by
  have viewable := simulated_viewable askingEngine rfl (by decide) (by decide) (by decide)
  exact ⟨viewable, export_apply_view viewable⟩

end SecureSockets.Session
