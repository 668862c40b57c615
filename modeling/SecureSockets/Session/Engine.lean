import SecureSockets.Error
import SecureSockets.Session.ClientAuth

namespace SecureSockets.Session

/-!
Engines: what carries out a handshake, seen through the settings that session
parameters speak of.  An engine is a state with readers and setters; a setter that may
refuse its argument returns the state that the attempt leaves behind.
-/

/-- The settings of engines whose states have type `ε`.  No law relates the setters to the
readers: an engine may ignore what it is told, and whoever needs more than that says
so. -/
class ConfigurableEngine (ε : Type) where
  supportedCipherSuites : ε → List String
  enabledCipherSuites : ε → List String
  setEnabledCipherSuites : List String → ε → Except Error Unit × ε
  supportedProtocols : ε → List String
  enabledProtocols : ε → List String
  setEnabledProtocols : List String → ε → Except Error Unit × ε
  needClientAuth : ε → Bool
  /-- Setting the need is expected to clear the wish. -/
  setNeedClientAuth : Bool → ε → ε
  wantClientAuth : ε → Bool
  /-- Setting the wish is expected to clear the need. -/
  setWantClientAuth : Bool → ε → ε
  useClientMode : ε → Bool
  setUseClientMode : Bool → ε → Except Error Unit × ε
  enableSessionCreation : ε → Bool
  setEnableSessionCreation : Bool → ε → ε
  /-- The host at the other end, where the engine knows it. -/
  peerHost : ε → Option String := fun _ => none
  peerPort : ε → Option Nat := fun _ => none

namespace ConfigurableEngine

variable {ε : Type} [ConfigurableEngine ε]

def clientAuth (engine : ε) : ClientAuth :=
  .ofFlags (needClientAuth engine) (wantClientAuth engine)

end ConfigurableEngine

end SecureSockets.Session
