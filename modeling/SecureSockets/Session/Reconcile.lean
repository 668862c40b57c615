import SecureSockets.Session.Engine
import SecureSockets.Session.Parameters

namespace SecureSockets.Session

/-!
Session parameters and engines.  Exporting reads the enabled lists and the treatment of
client authentication from an engine.  Applying writes back what the parameters have an
opinion on, except that client authentication is always written: without a need or a
wish, the engine's wish is cleared.
-/

open ConfigurableEngine

variable {ε κ : Type} [ConfigurableEngine ε]

/-- The parameters that describe an engine.  Both lists are explicit even when they are
empty, since an engine always has an opinion about them. -/
def exportParameters (engine : ε) : Parameters κ :=
  { cipherSuites := some (enabledCipherSuites engine)
    protocols := some (enabledProtocols engine)
    needClientAuth := needClientAuth engine
    wantClientAuth := !needClientAuth engine && wantClientAuth engine }

/-- Writes a treatment of client authentication.  One setter call is enough, as each
setter is expected to clear what the other one has set. -/
def applyClientAuth (auth : ClientAuth) (engine : ε) : ε :=
  match auth with
  | .required => setNeedClientAuth true engine
  | .requested => setWantClientAuth true engine
  | .none => setWantClientAuth false engine

/-- Sets the cipher suites that a list selects.  The answer is the list to go back to,
which has to be read before the engine is asked to replace it. -/
def applyCipherSuites (suites : Option (List String)) :
    Effect ε (Except Error (Option (List String))) := do
  match suites with
  | none => pure (.ok none)
  | some suites =>
    let engine ← get
    let previous := enabledCipherSuites engine
    let (outcome, engine) := setEnabledCipherSuites suites engine
    set engine
    pure (outcome.map fun _ => some previous)

/-- Goes back to the cipher suites from before a refusal.  The engine may refuse these as
well; nothing more can be done then, and the second refusal only appears in the log. -/
def restoreCipherSuites (refusal : Error) (previous : Option (List String)) :
    Effect ε Unit := do
  match previous with
  | none => pure ()
  | some previous =>
    writeLog .warn
      ("Protocol list rejected (" ++ refusal.message ++ "), restoring previous cipher suites")
    let (outcome, engine) := setEnabledCipherSuites previous (← get)
    set engine
    match outcome with
    | .ok _ => pure ()
    | .error error => writeLog .warn ("Failed to restore cipher suites: " ++ error.message)

def applyProtocols (protocols : Option (List String)) : Effect ε (Except Error Unit) := do
  match protocols with
  | none => pure (.ok ())
  | some protocols =>
    let (outcome, engine) := setEnabledProtocols protocols (← get)
    set engine
    pure outcome

/-- Writes parameters to an engine.  When the protocols are refused, replaced cipher
suites are restored, and the refusal is the answer whether or not that succeeds. -/
def applyParameters (parameters : Parameters κ) : Effect ε (Except Error Unit) := do
  match ← applyCipherSuites parameters.cipherSuites with
  | .error refusal => pure (.error refusal)
  | .ok previous =>
    match ← applyProtocols parameters.protocols with
    | .error refusal => do
      restoreCipherSuites refusal previous
      pure (.error refusal)
    | .ok _ => do
      modify (applyClientAuth parameters.clientAuth)
      pure (.ok ())

end SecureSockets.Session
