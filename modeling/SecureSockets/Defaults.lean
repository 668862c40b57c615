import SecureSockets.Context.HostnameVerifier
import SecureSockets.Context.ManagerFactory
import SecureSockets.Context.SecurityContext

namespace SecureSockets

/-!
Security defaults: a context, a socket factory and a hostname verifier for whoever does
not choose one.  Each is kept in a slot and built when it is first asked for, unless it
was set before.  The registry is an argument of the operations that resolve a service,
so they see it as it is at that moment.
-/

/-- Each default has a slot of its own, and the strategy of the slot is fixed by the
configuration when the defaults are made. -/
structure Defaults (P : Platform) where
  config : Config
  context : Slot (SecurityContext P)
  socketFactory : Slot P.SocketFactory
  hostnameVerifier : Slot HostnameVerifier

namespace Defaults

variable {P : Platform}

def ofConfig (config : Config) : Defaults P where
  config := config
  context := .vacant "security context" config.contextStrategy
  socketFactory := .vacant "socket factory" config.socketFactoryStrategy
  hostnameVerifier := .vacant "hostname verifier" config.verifierStrategy

def standard : Defaults P :=
  ofConfig Config.standard

/-- Defaults under a configuration, which has to be valid: a blank protocol would
otherwise surface only when the default context is first asked for. -/
def create (config : Config) : Except Error (Defaults P) :=
  match config.validate with
  | .ok _ => .ok (ofConfig config)
  | .error fault => .error fault.toError

/-- Defaults together with the state of the platform.  Building a default asks providers,
and what these do to the platform's state has to outlast the building. -/
abbrev World (P : Platform) := Defaults P × P.State

def contextCell : SlotCell (World P) (SecurityContext P) where
  read world := world.1.context
  write slot world := ({ world.1 with context := slot }, world.2)

def socketFactoryCell : SlotCell (World P) P.SocketFactory where
  read world := world.1.socketFactory
  write slot world := ({ world.1 with socketFactory := slot }, world.2)

def verifierCell : SlotCell (World P) HostnameVerifier where
  read world := world.1.hostnameVerifier
  write slot world := ({ world.1 with hostnameVerifier := slot }, world.2)

/-- Acts on the state of the platform alone, and leaves the defaults as they are. -/
def onPlatform {α : Type} (action : Effect P.State α) : Effect (World P) α := do
  let (defaults, state) ← get
  let (answer, state) ← (action.run state : Logged _)
  set (defaults, state)
  pure answer

/-- The default context; the configured protocol is resolved if there is none yet.  The
registry is read at that moment, and a failure leaves the slot empty for the next
caller. -/
def defaultContext (registry : P.Registry) :
    Effect (World P) (Except Error (SecurityContext P)) := do
  let protocol := (← get).1.config.defaultContextProtocol
  contextCell.getOrInit (onPlatform (SecurityContext.resolve registry (some protocol) .any))

def setDefaultContext (context : SecurityContext P) : Effect (World P) Unit :=
  contextCell.override context

def takeSocketFactory (registry : P.Registry) :
    Effect (World P) (Except Error P.SocketFactory) := do
  match ← defaultContext registry with
  | .error error => pure (.error error)
  | .ok context => onPlatform context.socketFactory

/-- The default socket factory.  Building it may build the default context on the way, so
that one request can fill two slots. -/
def defaultSocketFactory (registry : P.Registry) :
    Effect (World P) (Except Error P.SocketFactory) :=
  socketFactoryCell.getOrInit (takeSocketFactory registry)

def setDefaultSocketFactory (factory : P.SocketFactory) : Effect (World P) Unit :=
  socketFactoryCell.override factory

def defaultHostnameVerifier : Effect (World P) (Except Error HostnameVerifier) :=
  verifierCell.getOrInit (pure (.ok HostnameVerifier.rejectAll))

def setDefaultHostnameVerifier (verifier : HostnameVerifier) : Effect (World P) Unit :=
  verifierCell.override verifier

/-- A manager factory of the configured algorithm.  It is resolved anew for each request,
and kept in no slot. -/
def defaultManagerFactory (defaults : Defaults P) (kind : ManagerKind)
    (registry : P.Registry) : Effect P.State (Except Error (ManagerFactory P)) :=
  ManagerFactory.resolve kind registry (some (kind.defaultAlgorithm defaults.config)) .any

def inspect (defaults : Defaults P) : String :=
  Text.openRecord "SecurityDefaults"
    [("config", defaults.config.inspect), ("context", defaults.context.state.name),
      ("socket_factory", defaults.socketFactory.state.name),
      ("hostname_verifier", defaults.hostnameVerifier.state.name)]

end Defaults

/-! What an application asks of its defaults, and what it does in between. -/

inductive DefaultsRequest (P : Platform) where
  | context
  | setContext (context : SecurityContext P)
  | socketFactory
  | setSocketFactory (factory : P.SocketFactory)
  | hostnameVerifier
  | setHostnameVerifier (verifier : HostnameVerifier)
  /-- The registry is edited; this is what it is afterwards. -/
  | editRegistry (registry : P.Registry)
  /-- The application acts on its own state. -/
  | act (action : Effect P.State Unit)

inductive DefaultsAnswer (P : Platform) where
  | context (outcome : Except Error (SecurityContext P))
  | socketFactory (outcome : Except Error P.SocketFactory)
  | hostnameVerifier (outcome : Except Error HostnameVerifier)
  | done

def DefaultsRequest.registryAfter {P : Platform} (registry : P.Registry) :
    DefaultsRequest P → P.Registry
  | .editRegistry edited => edited
  | _ => registry

namespace Defaults

variable {P : Platform}

def serve (registry : P.Registry) : DefaultsRequest P → Effect (World P) (DefaultsAnswer P)
  | .context => do pure (.context (← defaultContext registry))
  | .setContext context => do
    setDefaultContext context
    pure .done
  | .socketFactory => do pure (.socketFactory (← defaultSocketFactory registry))
  | .setSocketFactory factory => do
    setDefaultSocketFactory factory
    pure .done
  | .hostnameVerifier => do pure (.hostnameVerifier (← defaultHostnameVerifier))
  | .setHostnameVerifier verifier => do
    setDefaultHostnameVerifier verifier
    pure .done
  | .editRegistry _ => pure .done
  | .act action => do
    onPlatform action
    pure .done

/-- Serves some requests in turn.  Each sees the registry as the edits before it have left
it, not as it was when the defaults were made. -/
def serveAll (registry : P.Registry) :
    List (DefaultsRequest P) → Effect (World P) (List (DefaultsAnswer P))
  | [] => pure []
  | request :: rest => do
    let answer ← serve registry request
    let answers ← serveAll (request.registryAfter registry) rest
    pure (answer :: answers)

end Defaults

end SecureSockets
