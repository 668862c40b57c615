import SecureSockets.Proofs.Session.AllOrNothing
import SecureSockets.Run

namespace SecureSockets.Session

/-!
# The setter calls of an application

An engine may do anything when one of its setters is called, so two applications of the same
record that end alike need not be alike.  What is said here is which setters are called, with
which arguments and in which order, for engines of any behaviour: nothing is asked of the
engine, and its answers may depend on all that happened to it before.

The calls of an effect are found by putting it to an engine that is watched.  A watched engine
behaves like the engine inside and keeps a list besides.  Each step of an application is shown
to do the same to both engines, up to the list, and to make certain calls; the calls of the
whole are then put together from those of the steps.
-/

open ConfigurableEngine Effect

/-- A call of a setter.  All six setters of an engine are here, although an application
uses four of them, so that it can be said which ones are never called. -/
inductive SetterCall where
  | cipherSuites (suites : List String)
  | protocols (protocols : List String)
  | needClientAuth (need : Bool)
  | wantClientAuth (want : Bool)
  | clientMode (clientMode : Bool)
  | sessionCreation (enabled : Bool)
  deriving DecidableEq, Repr

variable {ε κ : Type} [ConfigurableEngine ε]

def SetterCall.perform : SetterCall -> ε -> Except Error Unit × ε
  | .cipherSuites list, engine => setEnabledCipherSuites list engine
  | .protocols list, engine => setEnabledProtocols list engine
  | .needClientAuth flag, engine => (.ok (), setNeedClientAuth flag engine)
  | .wantClientAuth flag, engine => (.ok (), setWantClientAuth flag engine)
  | .clientMode flag, engine => setUseClientMode flag engine
  | .sessionCreation flag, engine => (.ok (), setEnableSessionCreation flag engine)

def afterCalls (calls : List SetterCall) (engine : ε) : ε :=
  (serveAll SetterCall.perform calls engine).2

/-- None of some calls is refused.  Each call is put to the engine that the calls before
it have left. -/
def Accepted (calls : List SetterCall) (engine : ε) : Prop :=
  ∀ answer ∈ (serveAll SetterCall.perform calls engine).1, answer = .ok ()

theorem afterCalls_append (first second : List SetterCall) (engine : ε) :
    afterCalls (first ++ second) engine = afterCalls second (afterCalls first engine) := by
  rw [afterCalls, serveAll_append]
  rfl

theorem Accepted.append {first second : List SetterCall} {engine : ε}
    (accepted : Accepted first engine) (accepted' : Accepted second (afterCalls first engine)) :
    Accepted (first ++ second) engine := by
  unfold Accepted
  rw [serveAll_append]
  exact List.forall_mem_append.mpr ⟨accepted, accepted'⟩

theorem accepted_singleton {call : SetterCall} {engine : ε}
    (accepts : (call.perform engine).1 = .ok ()) : Accepted [call] engine :=
  List.forall_mem_singleton.mpr accepts

/-! ## Watched engines -/

/-- An engine, and the calls of its setters so far.  It behaves like the engine inside,
and no engine can know that it is watched. -/
structure Watched (ε : Type) where
  engine : ε
  calls : List SetterCall

namespace Watched

/-- Makes a call and writes it down. -/
def note (call : SetterCall) (watched : Watched ε) : Except Error Unit × Watched ε :=
  ((call.perform watched.engine).1,
    ⟨(call.perform watched.engine).2, watched.calls ++ [call]⟩)

instance : ConfigurableEngine (Watched ε) where
  supportedCipherSuites watched := supportedCipherSuites watched.engine
  enabledCipherSuites watched := enabledCipherSuites watched.engine
  setEnabledCipherSuites suites := note (.cipherSuites suites)
  supportedProtocols watched := supportedProtocols watched.engine
  enabledProtocols watched := enabledProtocols watched.engine
  setEnabledProtocols protocols := note (.protocols protocols)
  needClientAuth watched := needClientAuth watched.engine
  setNeedClientAuth need watched := (watched.note (.needClientAuth need)).2
  wantClientAuth watched := wantClientAuth watched.engine
  setWantClientAuth want watched := (watched.note (.wantClientAuth want)).2
  useClientMode watched := useClientMode watched.engine
  setUseClientMode clientMode := note (.clientMode clientMode)
  enableSessionCreation watched := enableSessionCreation watched.engine
  setEnableSessionCreation enabled watched := (watched.note (.sessionCreation enabled)).2
  peerHost watched := peerHost watched.engine
  peerPort watched := peerPort watched.engine

end Watched

/-- An effect answers a value after some calls, whether or not the engine is watched.
Nothing that an effect of any engine can read tells it that it is watched. -/
structure Makes {β : Type} (bare : Effect ε β) (watched : Effect (Watched ε) β) (engine : ε)
    (value : β) (calls : List SetterCall) : Prop where
  yields : bare.Yields engine value (afterCalls calls engine)
  noted : ∀ before, watched.Yields ⟨engine, before⟩ value
    ⟨afterCalls calls engine, before ++ calls⟩

namespace Makes

variable {β γ : Type} {engine : ε}

theorem of_pure (value : β) (engine : ε) : Makes (pure value) (pure value) engine value [] where
  yields := .of_pure value engine
  noted := by
    intro before
    rw [List.append_nil]
    exact .of_pure value _

theorem of_bind {bare : Effect ε β} {watched : Effect (Watched ε) β} {value : β}
    {first second : List SetterCall} {next : β -> Effect ε γ}
    {next' : β -> Effect (Watched ε) γ} {value' : γ}
    (makes : Makes bare watched engine value first)
    (makes' : Makes (next value) (next' value) (afterCalls first engine) value' second) :
    Makes (bare >>= next) (watched >>= next') engine value' (first ++ second) := by
  constructor
  · rw [afterCalls_append]
    exact .of_bind makes.yields makes'.yields
  · intro before
    rw [afterCalls_append, ← List.append_assoc]
    exact .of_bind (makes.noted before) (makes'.noted (before ++ first))

/-- An effect that only answers afterwards adds no calls. -/
theorem then_answer {bare : Effect ε β} {watched : Effect (Watched ε) β} {value : β}
    {calls : List SetterCall} {next : β -> Effect ε γ} {next' : β -> Effect (Watched ε) γ}
    {answer : γ} (makes : Makes bare watched engine value calls)
    (answers : next value = pure answer) (answers' : next' value = pure answer) :
    Makes (bare >>= next) (watched >>= next') engine answer calls := by
  have ended : Makes (next value) (next' value) (afterCalls calls engine) answer [] := by
    rw [answers, answers']
    exact .of_pure answer _
  have whole := makes.of_bind ended
  rwa [List.append_nil] at whole

end Makes

/-! ## The steps of an application -/

section Steps

variable (parameters : Parameters κ) (start engine : ε)

def suitesCalls : List SetterCall :=
  parameters.cipherSuites.toList.map .cipherSuites

def protocolsCalls : List SetterCall :=
  parameters.protocols.toList.map .protocols

/-- The calls that go back to the cipher suites of an engine, if a record replaces
them. -/
def restoringCalls : List SetterCall :=
  parameters.cipherSuites.toList.map fun _ => .cipherSuites (enabledCipherSuites start)

/-- The call for client authentication.  Without a need or a wish the engine's wish is
cleared. -/
def authCall : SetterCall :=
  if parameters.needClientAuth then .needClientAuth true
  else if parameters.wantClientAuth then .wantClientAuth true
  else .wantClientAuth false

/-- The cipher suites are refused, or there is nothing to refuse. -/
theorem makes_suites :
    (∃ suites refusal, parameters.cipherSuites = some suites ∧
      ((SetterCall.cipherSuites suites).perform start).1 = .error refusal ∧
      Makes (applyCipherSuites parameters.cipherSuites)
        (applyCipherSuites parameters.cipherSuites) start (.error refusal)
        [.cipherSuites suites]) ∨
    (Accepted (suitesCalls parameters) start ∧
      Makes (applyCipherSuites parameters.cipherSuites)
        (applyCipherSuites parameters.cipherSuites) start
        (.ok (parameters.cipherSuites.map fun _ => enabledCipherSuites start))
        (suitesCalls parameters)) := by
  unfold suitesCalls
  cases parameters.cipherSuites with
  | none => exact Or.inr ⟨List.forall_mem_nil _, .of_pure _ start⟩
  | some suites =>
      have makes : Makes (applyCipherSuites (some suites)) (applyCipherSuites (some suites)) start
          ((setEnabledCipherSuites suites start).1.map fun _ => some (enabledCipherSuites start))
          [.cipherSuites suites] :=
        ⟨applyCipherSuites_some suites start,
          fun before => applyCipherSuites_some suites (⟨start, before⟩ : Watched ε)⟩
      cases outcome : (setEnabledCipherSuites suites start).1 with
      | error refusal =>
          rw [outcome] at makes
          exact Or.inl ⟨suites, refusal, rfl, outcome, makes⟩
      | ok _ =>
          rw [outcome] at makes
          exact Or.inr ⟨accepted_singleton outcome, makes⟩

theorem makes_protocols :
    (∃ protocols refusal, parameters.protocols = some protocols ∧
      ((SetterCall.protocols protocols).perform engine).1 = .error refusal ∧
      Makes (applyProtocols parameters.protocols) (applyProtocols parameters.protocols) engine
        (.error refusal) [.protocols protocols]) ∨
    (Accepted (protocolsCalls parameters) engine ∧
      Makes (applyProtocols parameters.protocols) (applyProtocols parameters.protocols) engine
        (.ok ()) (protocolsCalls parameters)) := by
  unfold protocolsCalls
  cases parameters.protocols with
  | none => exact Or.inr ⟨List.forall_mem_nil _, .of_pure _ engine⟩
  | some protocols =>
      have makes : Makes (applyProtocols (some protocols)) (applyProtocols (some protocols)) engine
          (setEnabledProtocols protocols engine).1 [.protocols protocols] :=
        ⟨applyProtocols_some protocols engine,
          fun before => applyProtocols_some protocols (⟨engine, before⟩ : Watched ε)⟩
      cases outcome : (setEnabledProtocols protocols engine).1 with
      | error refusal =>
          rw [outcome] at makes
          exact Or.inl ⟨protocols, refusal, rfl, outcome, makes⟩
      | ok _ =>
          rw [outcome] at makes
          exact Or.inr ⟨accepted_singleton outcome, makes⟩

/-- Going back to the cipher suites makes its call whatever that call is answered. -/
theorem makes_restoring (refusal : Error) :
    Makes (restoreCipherSuites refusal
        (parameters.cipherSuites.map fun _ => enabledCipherSuites start))
      (restoreCipherSuites refusal
        (parameters.cipherSuites.map fun _ => enabledCipherSuites start))
      engine () (restoringCalls parameters start) := by
  unfold restoringCalls
  cases parameters.cipherSuites with
  | none => exact .of_pure _ engine
  | some suites =>
      exact ⟨restoreCipherSuites_some refusal _ engine,
        fun before => restoreCipherSuites_some refusal _ (⟨engine, before⟩ : Watched ε)⟩

theorem makes_auth :
    Makes (modify (applyClientAuth parameters.clientAuth))
      (modify (applyClientAuth parameters.clientAuth)) engine ⟨⟩ [authCall parameters] := by
  have performs : ∀ before : List SetterCall,
      applyClientAuth parameters.clientAuth engine = afterCalls [authCall parameters] engine ∧
      applyClientAuth parameters.clientAuth (⟨engine, before⟩ : Watched ε) =
        ⟨afterCalls [authCall parameters] engine, before ++ [authCall parameters]⟩ := by
    intro before
    unfold Parameters.clientAuth ClientAuth.ofFlags authCall
    cases parameters.needClientAuth
    · cases parameters.wantClientAuth <;> exact ⟨rfl, rfl⟩
    · exact ⟨rfl, rfl⟩
  constructor
  · rw [← (performs []).1]
    exact .of_modify _ engine
  · intro before
    rw [← (performs before).2]
    exact .of_modify _ _

end Steps

/-! ## The whole application -/

/-- The calls that applying a record to an engine is documented to make, and the outcome.
A refusal while the cipher suites are restored changes neither. -/
inductive Documented (parameters : Parameters κ) (start : ε) :
    List SetterCall -> Except Error Unit -> Prop where
  | suitesRefused {suites : List String} {refusal : Error}
      (present : parameters.cipherSuites = some suites)
      (refused : ((SetterCall.cipherSuites suites).perform start).1 = .error refusal) :
      Documented parameters start [.cipherSuites suites] (.error refusal)
  | protocolsRefused {protocols : List String} {refusal : Error}
      (accepted : Accepted (suitesCalls parameters) start)
      (present : parameters.protocols = some protocols)
      (refused : ((SetterCall.protocols protocols).perform
        (afterCalls (suitesCalls parameters) start)).1 = .error refusal) :
      Documented parameters start
        (suitesCalls parameters ++ .protocols protocols :: restoringCalls parameters start)
        (.error refusal)
  | nothingRefused
      (accepted : Accepted (suitesCalls parameters ++ protocolsCalls parameters) start) :
      Documented parameters start
        (suitesCalls parameters ++ protocolsCalls parameters ++ [authCall parameters]) (.ok ())

/-- Neither the mode nor session creation is ever touched. -/
theorem Documented.apart {parameters : Parameters κ} {start : ε} {calls : List SetterCall}
    {outcome : Except Error Unit} (documented : Documented parameters start calls outcome) :
    (∀ clientMode, .clientMode clientMode ∉ calls) ∧
      ∀ enabled, .sessionCreation enabled ∉ calls := by
  have auth_apart : (∀ clientMode, .clientMode clientMode ≠ authCall parameters) ∧
      ∀ enabled, .sessionCreation enabled ≠ authCall parameters := by
    unfold authCall
    cases parameters.needClientAuth <;> cases parameters.wantClientAuth <;> simp
  cases documented with
  | suitesRefused => simp
  | protocolsRefused => simp [suitesCalls, restoringCalls]
  | nothingRefused => simp [suitesCalls, protocolsCalls, auth_apart]

theorem exists_documented (parameters : Parameters κ) (start : ε) :
    ∃ calls outcome, Documented parameters start calls outcome ∧
      Makes (applyParameters parameters) (applyParameters parameters) start outcome calls := by
  rcases makes_suites parameters start with
    ⟨suites, refusal, present, refused, first⟩ | ⟨accepted, first⟩
  · exact ⟨_, _, .suitesRefused present refused, first.then_answer rfl rfl⟩
  · rcases makes_protocols parameters (afterCalls (suitesCalls parameters) start) with
      ⟨protocols, refusal, present, refused, second⟩ | ⟨accepted', second⟩
    · refine ⟨_, _, .protocolsRefused accepted present refused, ?_⟩
      have third := makes_restoring parameters start
        (afterCalls [.protocols protocols] (afterCalls (suitesCalls parameters) start)) refusal
      exact first.of_bind (second.of_bind (third.then_answer rfl rfl))
    · refine ⟨_, _, .nothingRefused (accepted.append accepted'), ?_⟩
      have third := makes_auth parameters
        (afterCalls (protocolsCalls parameters) (afterCalls (suitesCalls parameters) start))
      rw [List.append_assoc]
      exact first.of_bind (second.of_bind (third.then_answer rfl rfl))

/-- Applying a record makes the documented calls and no others, on every engine: these are
the calls that a watched engine writes down, and the engine is left as they leave it. -/
theorem applyParameters_makes_documented (parameters : Parameters κ) (start : ε) :
    ∃ calls outcome, Documented parameters start calls outcome ∧
      (applyParameters parameters).Yields (⟨start, []⟩ : Watched ε) outcome
        ⟨afterCalls calls start, calls⟩ ∧
      (applyParameters parameters).Yields start outcome (afterCalls calls start) ∧
      (∀ clientMode, .clientMode clientMode ∉ calls) ∧
      ∀ enabled, .sessionCreation enabled ∉ calls := by
  rcases exists_documented parameters start with ⟨calls, outcome, documented, makes⟩
  exact ⟨calls, outcome, documented, makes.noted [], makes.yields, documented.apart⟩

/-- The engine lets its cipher suites be set once, so that going back is refused as well. -/
example :
    let start : Watched Simulation.Engine := ⟨{ suiteSetsLeft := some 1 }, []⟩
    let parameters : Parameters Unit :=
      .ofSuitesAndProtocols ["TLS_AES_256_GCM_SHA384"] ["SSLv3"]
    ((((applyParameters parameters).run start).run []).1.2).calls =
      [.cipherSuites ["TLS_AES_256_GCM_SHA384"], .protocols ["SSLv3"],
        .cipherSuites ["TLS_AES_128_GCM_SHA256", "TLS_AES_256_GCM_SHA384"]] := by
  decide

end SecureSockets.Session
