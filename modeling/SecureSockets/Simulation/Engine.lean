import SecureSockets.Context.Platform
import SecureSockets.Session.Engine

namespace SecureSockets.Simulation

/-!
A simulated engine.  It accepts the cipher suites and protocols that it supports, keeps
the need and the wish for client authentication apart, and records every setter call.
It can be told to stop accepting cipher suites, and to hold on to its role.
-/

open Session

/-- The cipher suites and protocols that simulated objects support unless told
otherwise. -/
def commonSuites : List String :=
  ["TLS_AES_128_GCM_SHA256", "TLS_AES_256_GCM_SHA384", "TLS_CHACHA20_POLY1305_SHA256"]

def commonProtocols : List String := ["TLSv1.2", "TLSv1.3"]

/-- A simulated engine.  Its setters can be made to refuse at a chosen moment, which is
how the ways of failing between two setter calls are reached. -/
structure Engine where
  suites : List String := commonSuites.take 2
  supportedSuites : List String := commonSuites
  protocols : List String := commonProtocols
  supportedProtocols : List String := commonProtocols
  need : Bool := false
  want : Bool := false
  clientMode : Bool := false
  sessionCreation : Bool := true
  /-- Whether the role can no longer be changed. -/
  roleFixed : Bool := false
  /-- How many more lists of cipher suites are accepted, if there is a limit. -/
  suiteSetsLeft : Option Nat := none
  /-- Whether the engine keeps its peer to itself. -/
  bare : Bool := false
  peer : Option Peer := none
  /-- The setter calls so far. -/
  calls : List String := []
  deriving DecidableEq, Repr

namespace Engine

def record (setter argument : String) (engine : Engine) : Engine :=
  { engine with calls := engine.calls ++ [Text.wrapped setter argument] }

def refuse (reason : String) (engine : Engine) : Except Error Unit × Engine :=
  (.error (.invalidArgument reason), engine)

def setSuites (suites : List String) (engine : Engine) : Except Error Unit × Engine :=
  let engine := engine.record "suites" (",".intercalate suites)
  if engine.suiteSetsLeft = some 0 then engine.refuse "cipher suites are frozen"
  else
    match suites.find? (!engine.supportedSuites.contains ·) with
    | some suite => engine.refuse ("unsupported cipher suite " ++ suite)
    | none =>
      (.ok (), { engine with
        suites := suites
        suiteSetsLeft := engine.suiteSetsLeft.map (· - 1) })

def setProtocols (protocols : List String) (engine : Engine) : Except Error Unit × Engine :=
  let engine := engine.record "protocols" (",".intercalate protocols)
  match protocols.find? (!engine.supportedProtocols.contains ·) with
  | some protocol => engine.refuse ("unsupported protocol " ++ protocol)
  | none => (.ok (), { engine with protocols := protocols })

def setNeed (need : Bool) (engine : Engine) : Engine :=
  { engine.record "need" (toString need) with need := need, want := false }

def setWant (want : Bool) (engine : Engine) : Engine :=
  { engine.record "want" (toString want) with want := want, need := false }

def setClientMode (clientMode : Bool) (engine : Engine) : Except Error Unit × Engine :=
  let engine := engine.record "client_mode" (toString clientMode)
  if engine.roleFixed ∧ clientMode ≠ engine.clientMode then
    engine.refuse "cannot change the role after the handshake started"
  else
    (.ok (), { engine with clientMode := clientMode })

def setSessionCreation (enabled : Bool) (engine : Engine) : Engine :=
  { engine.record "session_creation" (toString enabled) with sessionCreation := enabled }

def visiblePeer (engine : Engine) : Option Peer :=
  if engine.bare then none else engine.peer

instance : ConfigurableEngine Engine where
  supportedCipherSuites := Engine.supportedSuites
  enabledCipherSuites := Engine.suites
  setEnabledCipherSuites := setSuites
  supportedProtocols := Engine.supportedProtocols
  enabledProtocols := Engine.protocols
  setEnabledProtocols := setProtocols
  needClientAuth := Engine.need
  setNeedClientAuth := setNeed
  wantClientAuth := Engine.want
  setWantClientAuth := setWant
  useClientMode := Engine.clientMode
  setUseClientMode := setClientMode
  enableSessionCreation := Engine.sessionCreation
  setEnableSessionCreation := setSessionCreation
  peerHost engine := engine.visiblePeer.map (·.host)
  peerPort engine := engine.visiblePeer.map (·.port)

end Engine

end SecureSockets.Simulation
