import SecureSockets.Context.Platform
import SecureSockets.WellKnown

namespace SecureSockets

/-!
Security contexts.  A security context is a resolved context service: the platform's
context together with the protocol and the provider that it was resolved with.
-/

structure SecurityContext (P : Platform) where
  context : P.Context
  provider : P.Provider
  protocol : String

namespace SecurityContext

variable {P : Platform}

/-- Resolves the context of a protocol, which is the algorithm that context services are
registered under. -/
def resolve (registry : P.Registry) (protocol : Option String) (selector : P.Selector) :
    Effect P.State (Except Error (SecurityContext P)) := do
  match ← SecureSockets.resolve registry ServiceType.context protocol selector with
  | .error error => pure (.error error)
  | .ok service =>
    pure ((service.intoParts ServiceInstance.asContext?).map fun (context, provider, protocol) =>
      ⟨context, provider, protocol⟩)

def init (security : SecurityContext P) (keyManagers trustManagers : List P.Manager) :
    Effect P.State (Except Error Unit) := do
  writeLog .debug
    ("Initializing " ++ security.protocol ++ " context from provider " ++
      security.provider.name ++ " (" ++ toString keyManagers.length ++ " key, " ++
      toString trustManagers.length ++ " trust managers)")
  P.initContext security.context keyManagers trustManagers

def socketFactory (security : SecurityContext P) :
    Effect P.State (Except Error P.SocketFactory) :=
  P.socketFactory security.context

def serverSocketFactory (security : SecurityContext P) :
    Effect P.State (Except Error P.SocketFactory) :=
  P.serverSocketFactory security.context

def createEngine (security : SecurityContext P) (peer : Option Peer) :
    Effect P.State (Except Error P.Engine) :=
  P.createEngine security.context peer

def defaultParameters (security : SecurityContext P) :
    Effect P.State (Session.Parameters P.Constraints) :=
  P.defaultParameters security.context

def supportedParameters (security : SecurityContext P) :
    Effect P.State (Session.Parameters P.Constraints) :=
  P.supportedParameters security.context

def inspect (security : SecurityContext P) : String :=
  Text.openRecord "SecurityContext"
    [("protocol", Text.quoted security.protocol),
      ("provider", Text.quoted security.provider.name)]

end SecurityContext

end SecureSockets
