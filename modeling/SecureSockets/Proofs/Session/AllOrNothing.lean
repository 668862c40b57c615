import SecureSockets.Proofs.Effect
import SecureSockets.Session.Reconcile
import SecureSockets.Simulation.Engine

namespace SecureSockets.Session

/-!
# Applying parameters, all or nothing

Applying a record of parameters takes up to three setter calls, and either of the first
two may be refused.  A refusal must not leave a part of the record behind, so the cipher
suites are restored when the protocols are refused, by another call that may be refused.

What makes this work is asked of the engine, as far as a call can get to it: that a
refused setter changes no setting, that an accepted one sets its own list and nothing
else, and that the engine takes back the cipher suites that it had enabled.  An engine
may keep a record of the calls or anything else besides its settings.

The record of parameters is a value that is read, so it is the same afterwards.
-/

open ConfigurableEngine Effect

/-- The settings of an engine that a half-applied record would show in.  What an engine
supports cannot be set, and its peer is not part of a record. -/
structure Settings where
  cipherSuites : List String
  protocols : List String
  need : Bool
  want : Bool
  clientMode : Bool
  sessionCreation : Bool

def Settings.apartFromAuth (settings : Settings) : Settings :=
  { settings with need := false, want := false }

variable {ε κ : Type} [ConfigurableEngine ε]

def settings (engine : ε) : Settings where
  cipherSuites := enabledCipherSuites engine
  protocols := enabledProtocols engine
  need := needClientAuth engine
  want := wantClientAuth engine
  clientMode := useClientMode engine
  sessionCreation := enableSessionCreation engine

/-- The engines that calls of the two setters of lists can lead to.  Refused calls are
among them, since an application goes on from one when it restores the cipher suites. -/
inductive Reached (start : ε) : ε -> Prop where
  | start : Reached start start
  | cipherSuites {engine : ε} (reached : Reached start engine) (suites : List String) :
      Reached start (setEnabledCipherSuites suites engine).2
  | protocols {engine : ε} (reached : Reached start engine) (protocols : List String) :
      Reached start (setEnabledProtocols protocols engine).2

/-- What is asked of an engine, from the beginning of a call on.  Nothing is asked of
engines that the call cannot get to, and nothing about what lies outside the settings. -/
structure Lawful (start : ε) : Prop where
  suites_refused : ∀ engine suites refusal, Reached start engine ->
    (setEnabledCipherSuites suites engine).1 = .error refusal ->
    settings (setEnabledCipherSuites suites engine).2 = settings engine
  suites_accepted : ∀ engine suites, Reached start engine ->
    (setEnabledCipherSuites suites engine).1 = .ok () ->
    settings (setEnabledCipherSuites suites engine).2 =
      { settings engine with cipherSuites := suites }
  protocols_refused : ∀ engine protocols refusal, Reached start engine ->
    (setEnabledProtocols protocols engine).1 = .error refusal ->
    settings (setEnabledProtocols protocols engine).2 = settings engine
  protocols_accepted : ∀ engine protocols, Reached start engine ->
    (setEnabledProtocols protocols engine).1 = .ok () ->
    settings (setEnabledProtocols protocols engine).2 =
      { settings engine with protocols := protocols }
  suites_taken_back : ∀ engine, Reached start engine ->
    (setEnabledCipherSuites (enabledCipherSuites start) engine).1 = .ok ()
  need_apart : ∀ engine need, Reached start engine ->
    (settings (setNeedClientAuth need engine)).apartFromAuth = (settings engine).apartFromAuth
  want_apart : ∀ engine want, Reached start engine ->
    (settings (setWantClientAuth want engine)).apartFromAuth = (settings engine).apartFromAuth

def withSuites (parameters : Parameters κ) (start : ε) : ε :=
  match parameters.cipherSuites with
  | none => start
  | some suites => (setEnabledCipherSuites suites start).2

/-- A refusal is that of the first setter that refuses.  What the restoring call answers
is never reported. -/
inductive FirstRefusal (parameters : Parameters κ) (start : ε) : Error -> Prop where
  | cipherSuites {suites : List String} {refusal : Error}
      (present : parameters.cipherSuites = some suites)
      (refused : (setEnabledCipherSuites suites start).1 = .error refusal) :
      FirstRefusal parameters start refusal
  | protocols {protocols : List String} {refusal : Error}
      (accepted : ∀ suites, parameters.cipherSuites = some suites ->
        (setEnabledCipherSuites suites start).1 = .ok ())
      (present : parameters.protocols = some protocols)
      (refused : (setEnabledProtocols protocols (withSuites parameters start)).1 = .error refusal) :
      FirstRefusal parameters start refusal

/-- Either nothing has changed, and the answer is the first refusal; or each list that is
present has been installed, and nothing besides client authentication has changed. -/
inductive AllOrNothing (parameters : Parameters κ) (start : ε) :
    Except Error Unit -> ε -> Prop where
  | nothing {refusal : Error} {last : ε} (first : FirstRefusal parameters start refusal)
      (unchanged : settings last = settings start) :
      AllOrNothing parameters start (.error refusal) last
  | all {last : ε}
      (installed : (settings last).apartFromAuth =
        { (settings start).apartFromAuth with
          cipherSuites := parameters.cipherSuites.getD (enabledCipherSuites start)
          protocols := parameters.protocols.getD (enabledProtocols start) }) :
      AllOrNothing parameters start (.ok ()) last

/-! ## The steps of a call -/

theorem applyCipherSuites_none (engine : ε) :
    (applyCipherSuites none).Yields engine (.ok none) engine :=
  .of_pure _ engine

theorem applyCipherSuites_some (suites : List String) (engine : ε) :
    (applyCipherSuites (some suites)).Yields engine
      ((setEnabledCipherSuites suites engine).1.map fun _ => some (enabledCipherSuites engine))
      (setEnabledCipherSuites suites engine).2 := by
  unfold applyCipherSuites
  apply Yields.of_bind (.of_get engine)
  exact .of_bind (.of_set _ engine) (.of_pure _ _)

theorem applyProtocols_none (engine : ε) :
    (applyProtocols none).Yields engine (.ok ()) engine :=
  .of_pure _ engine

theorem applyProtocols_some (protocols : List String) (engine : ε) :
    (applyProtocols (some protocols)).Yields engine
      (setEnabledProtocols protocols engine).1 (setEnabledProtocols protocols engine).2 := by
  unfold applyProtocols
  apply Yields.of_bind (.of_get engine)
  exact .of_bind (.of_set _ engine) (.of_pure _ _)

theorem restoreCipherSuites_none (refusal : Error) (engine : ε) :
    (restoreCipherSuites refusal none).Yields engine () engine :=
  .of_pure _ engine

theorem restoreCipherSuites_some (refusal : Error) (previous : List String) (engine : ε) :
    (restoreCipherSuites refusal (some previous)).Yields engine ()
      (setEnabledCipherSuites previous engine).2 := by
  unfold restoreCipherSuites
  apply Yields.of_bind (.of_lift _ engine fun _ => rfl)
  apply Yields.of_bind (.of_get engine)
  apply Yields.of_bind (.of_set _ engine)
  split
  · exact .of_pure _ _
  · exact .of_lift _ _ fun _ => rfl

theorem applyClientAuth_apart {start engine : ε} (lawful : Lawful start)
    (reached : Reached start engine) (auth : ClientAuth) :
    (settings (applyClientAuth auth engine)).apartFromAuth = (settings engine).apartFromAuth := by
  cases auth with
  | none => exact lawful.want_apart engine false reached
  | requested => exact lawful.want_apart engine true reached
  | required => exact lawful.need_apart engine true reached

/-! ## The call -/

/-- What the attempt to set the cipher suites comes to.  An attempt that is made and
succeeds hands on the list that was enabled before. -/
inductive SuitesStep (parameters : Parameters κ) (start : ε) :
    Except Error (Option (List String)) -> Prop where
  | absent (missing : parameters.cipherSuites = none) : SuitesStep parameters start (.ok none)
  | accepted (suites : List String) (present : parameters.cipherSuites = some suites)
      (accepts : (setEnabledCipherSuites suites start).1 = .ok ()) :
      SuitesStep parameters start (.ok (some (enabledCipherSuites start)))
  | refused (suites : List String) (refusal : Error)
      (present : parameters.cipherSuites = some suites)
      (refuses : (setEnabledCipherSuites suites start).1 = .error refusal) :
      SuitesStep parameters start (.error refusal)

theorem suitesStep (parameters : Parameters κ) (start : ε) :
    ∃ answer, (applyCipherSuites parameters.cipherSuites).Yields start answer
        (withSuites parameters start) ∧ SuitesStep parameters start answer := by
  unfold withSuites
  cases present : parameters.cipherSuites with
  | none => exact ⟨_, applyCipherSuites_none start, .absent present⟩
  | some suites =>
      have yields := applyCipherSuites_some suites start
      cases outcome : (setEnabledCipherSuites suites start).1 with
      | error refusal =>
          rw [outcome] at yields
          exact ⟨_, yields, .refused suites refusal present outcome⟩
      | ok _ =>
          rw [outcome] at yields
          exact ⟨_, yields, .accepted suites present outcome⟩

theorem reached_withSuites (parameters : Parameters κ) (start : ε) :
    Reached start (withSuites parameters start) := by
  unfold withSuites
  cases parameters.cipherSuites with
  | none => exact .start
  | some suites => exact .cipherSuites .start suites

/-- Once no cipher suites have been refused, the settings are the old ones with those
cipher suites. -/
theorem SuitesStep.settings {parameters : Parameters κ} {start : ε}
    {previous : Option (List String)} (lawful : Lawful start)
    (step : SuitesStep parameters start (.ok previous)) :
    Session.settings (withSuites parameters start) =
      { Session.settings start with
        cipherSuites := parameters.cipherSuites.getD (enabledCipherSuites start) } := by
  unfold withSuites
  cases step with
  | absent missing =>
      rw [missing]
      rfl
  | accepted suites present accepts =>
      rw [present]
      exact lawful.suites_accepted start suites .start accepts

/-- Restoring the cipher suites undoes setting them. -/
theorem SuitesStep.restored {parameters : Parameters κ} {start engine : ε}
    {previous : Option (List String)} (lawful : Lawful start)
    (step : SuitesStep parameters start (.ok previous)) (reached : Reached start engine)
    (same : Session.settings engine = Session.settings (withSuites parameters start))
    (refusal : Error) :
    ∃ last, (restoreCipherSuites refusal previous).Yields engine () last ∧
      Session.settings last = Session.settings start := by
  have changed := same.trans (step.settings lawful)
  cases step with
  | absent missing =>
      refine ⟨engine, restoreCipherSuites_none refusal engine, ?_⟩
      rw [changed, missing]
      rfl
  | accepted suites present accepts =>
      refine ⟨_, restoreCipherSuites_some refusal _ engine, ?_⟩
      have back := lawful.suites_accepted engine (enabledCipherSuites start) reached
        (lawful.suites_taken_back engine reached)
      rw [back, changed]
      rfl

/-- Client authentication is written last, when the lists have been installed. -/
theorem AllOrNothing.of_installed {start engine : ε} (lawful : Lawful start)
    (reached : Reached start engine) (parameters : Parameters κ)
    (installed : Session.settings engine =
      { Session.settings start with
        cipherSuites := parameters.cipherSuites.getD (enabledCipherSuites start)
        protocols := parameters.protocols.getD (enabledProtocols start) }) :
    AllOrNothing parameters start (.ok ()) (applyClientAuth parameters.clientAuth engine) := by
  apply AllOrNothing.all
  rw [applyClientAuth_apart lawful reached, installed]
  rfl

/-- Every call ends, and a lawful engine has then taken all of the parameters or nothing
of them. -/
theorem applyParameters_allOrNothing {start : ε} (lawful : Lawful start)
    (parameters : Parameters κ) :
    ∃ outcome last, (applyParameters parameters).Yields start outcome last ∧
      AllOrNothing parameters start outcome last := by
  rcases suitesStep parameters start with ⟨answer, yields, step⟩
  have reached := reached_withSuites parameters start
  cases answer with
  | error refusal =>
      refine ⟨.error refusal, _, .of_bind yields (.of_pure _ _), ?_⟩
      cases step with
      | refused suites _ present refuses =>
          apply AllOrNothing.nothing (.cipherSuites present refuses)
          simp only [withSuites, present]
          exact lawful.suites_refused start suites refusal .start refuses
  | ok previous =>
      have accepted : ∀ suites, parameters.cipherSuites = some suites ->
          (setEnabledCipherSuites suites start).1 = .ok () := by
        intro suites selected
        cases step with
        | absent missing => exact absurd (missing.symm.trans selected) nofun
        | accepted suites' present accepts =>
            cases present.symm.trans selected
            exact accepts
      cases present : parameters.protocols with
      | none =>
          refine ⟨.ok (), applyClientAuth parameters.clientAuth
            (withSuites parameters start), ?_, ?_⟩
          · apply Yields.of_bind yields
            apply Yields.of_bind (present ▸ applyProtocols_none _)
            exact .of_bind (.of_modify _ _) (.of_pure _ _)
          · apply AllOrNothing.of_installed lawful reached
            rw [step.settings lawful, present]
            rfl
      | some protocols =>
          have written := applyProtocols_some protocols (withSuites parameters start)
          have beyond : Reached start _ := .protocols reached protocols
          cases set : (setEnabledProtocols protocols (withSuites parameters start)).1 with
          | error refusal =>
              have same := lawful.protocols_refused _ protocols refusal reached set
              rcases step.restored lawful beyond same refusal with ⟨last, restores, unchanged⟩
              have first : FirstRefusal parameters start refusal := .protocols accepted present set
              refine ⟨.error refusal, last, ?_, .nothing first unchanged⟩
              apply Yields.of_bind yields
              apply Yields.of_bind (present ▸ set ▸ written)
              exact .of_bind restores (.of_pure _ _)
          | ok _ =>
              have installed := lawful.protocols_accepted _ protocols reached set
              refine ⟨.ok (), applyClientAuth parameters.clientAuth
                (setEnabledProtocols protocols (withSuites parameters start)).2, ?_, ?_⟩
              · apply Yields.of_bind yields
                apply Yields.of_bind (present ▸ set ▸ written)
                exact .of_bind (.of_modify _ _) (.of_pure _ _)
              · apply AllOrNothing.of_installed lawful beyond
                rw [installed, step.settings lawful, present]
                rfl

/-! ## A simulated engine -/

open Simulation

/-- A simulated engine writes the call down, and refuses the suites or installs them. -/
theorem setSuites_cases (suites : List String) (engine : Engine) :
    (∃ refusal, Engine.setSuites suites engine =
      (.error refusal, engine.record "suites" (",".intercalate suites))) ∨
    Engine.setSuites suites engine =
      (.ok (), { engine.record "suites" (",".intercalate suites) with
        suites := suites
        suiteSetsLeft := engine.suiteSetsLeft.map (· - 1) }) := by
  unfold Engine.setSuites
  dsimp only
  split
  · exact Or.inl ⟨_, rfl⟩
  · split
    · exact Or.inl ⟨_, rfl⟩
    · exact Or.inr rfl

theorem setProtocols_cases (protocols : List String) (engine : Engine) :
    (∃ refusal, Engine.setProtocols protocols engine =
      (.error refusal, engine.record "protocols" (",".intercalate protocols))) ∨
    Engine.setProtocols protocols engine =
      (.ok (), { engine.record "protocols" (",".intercalate protocols) with
        protocols := protocols }) := by
  unfold Engine.setProtocols
  dsimp only
  split
  · exact Or.inl ⟨_, rfl⟩
  · exact Or.inr rfl

/-- Neither setter of lists changes what a simulated engine supports, or begins to count. -/
theorem simulated_reached {start engine : Engine} (unlimited : start.suiteSetsLeft = none)
    (reached : Reached start engine) :
    engine.supportedSuites = start.supportedSuites ∧ engine.suiteSetsLeft = none := by
  induction reached with
  | start => exact ⟨rfl, unlimited⟩
  | @cipherSuites engine _ suites ih =>
      change (Engine.setSuites suites engine).2.supportedSuites = _ ∧
        (Engine.setSuites suites engine).2.suiteSetsLeft = none
      rcases setSuites_cases suites engine with ⟨refusal, refused⟩ | accepted
      · rw [refused]
        exact ih
      · rw [accepted, ih.2]
        exact ⟨ih.1, rfl⟩
  | @protocols engine _ protocols ih =>
      change (Engine.setProtocols protocols engine).2.supportedSuites = _ ∧
        (Engine.setProtocols protocols engine).2.suiteSetsLeft = none
      rcases setProtocols_cases protocols engine with ⟨refusal, refused⟩ | accepted
      · rw [refused]
        exact ih
      · rw [accepted]
        exact ih

/-- A simulated engine that does not count is lawful if it supports what it has enabled. -/
theorem simulated_lawful (start : Engine) (unlimited : start.suiteSetsLeft = none)
    (supported : ∀ suite ∈ start.suites, suite ∈ start.supportedSuites) : Lawful start where
  suites_refused := by
    intro engine suites refusal _ refuses
    change (Engine.setSuites suites engine).1 = _ at refuses
    change settings (Engine.setSuites suites engine).2 = _
    rcases setSuites_cases suites engine with ⟨_, refused⟩ | accepted
    · rw [refused]
      rfl
    · rw [accepted] at refuses
      cases refuses
  suites_accepted := by
    intro engine suites _ accepts
    change (Engine.setSuites suites engine).1 = _ at accepts
    change settings (Engine.setSuites suites engine).2 = _
    rcases setSuites_cases suites engine with ⟨_, refused⟩ | accepted
    · rw [refused] at accepts
      cases accepts
    · rw [accepted]
      rfl
  protocols_refused := by
    intro engine protocols refusal _ refuses
    change (Engine.setProtocols protocols engine).1 = _ at refuses
    change settings (Engine.setProtocols protocols engine).2 = _
    rcases setProtocols_cases protocols engine with ⟨_, refused⟩ | accepted
    · rw [refused]
      rfl
    · rw [accepted] at refuses
      cases refuses
  protocols_accepted := by
    intro engine protocols _ accepts
    change (Engine.setProtocols protocols engine).1 = _ at accepts
    change settings (Engine.setProtocols protocols engine).2 = _
    rcases setProtocols_cases protocols engine with ⟨_, refused⟩ | accepted
    · rw [refused] at accepts
      cases accepts
    · rw [accepted]
      rfl
  suites_taken_back := by
    intro engine reached
    have kept := simulated_reached unlimited reached
    have known : start.suites.find? (!engine.supportedSuites.contains ·) = none := by
      rw [kept.1]
      simpa using supported
    change (Engine.setSuites start.suites engine).1 = _
    unfold Engine.setSuites
    simp only [Engine.record, kept.2, reduceCtorEq, if_false, known]
  need_apart := fun _ _ _ => rfl
  want_apart := fun _ _ _ => rfl

/-- A record with cipher suites that the simulated engine accepts and protocols that it
refuses. -/
def refusedParameters : Parameters Unit :=
  .ofSuitesAndProtocols ["TLS_AES_256_GCM_SHA384"] ["SSLv3"]

theorem allOrNothing_simulated :
    Lawful ({} : Engine) ∧
      ∃ outcome last, (applyParameters refusedParameters).Yields ({} : Engine) outcome last ∧
        AllOrNothing refusedParameters ({} : Engine) outcome last := by
  have lawful := simulated_lawful {} rfl (by decide)
  exact ⟨lawful, applyParameters_allOrNothing lawful refusedParameters⟩

end SecureSockets.Session
