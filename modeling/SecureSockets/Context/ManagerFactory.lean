import SecureSockets.Config.Basic
import SecureSockets.Context.Platform

namespace SecureSockets

/-!
Manager factories.  Factories of key managers and of trust managers are resolved in the
same way, each under a service type of its own and with a default algorithm of its own.
-/

/-- Key managers and trust managers differ in names only.  What is said of one kind is
therefore said of both, with the kind as a parameter. -/
inductive ManagerKind where
  | key
  | trust
  deriving DecidableEq, Repr

namespace ManagerKind

def name : ManagerKind → String
  | key => "Key"
  | trust => "Trust"

def serviceType : ManagerKind → String
  | key => ServiceType.keyManagerFactory
  | trust => ServiceType.trustManagerFactory

def facade : ManagerKind → String
  | key => "KeyManagerFactory"
  | trust => "TrustManagerFactory"

/-- The algorithm that a configuration chooses for a kind. -/
def defaultAlgorithm (config : Config) : ManagerKind → String
  | key => config.effectiveKeyManagerAlgorithm
  | trust => config.effectiveTrustManagerAlgorithm

end ManagerKind

/-- A factory of managers, with the provider and the algorithm that it was resolved with.
Both are kept because they cannot be recovered from the platform's own factory. -/
structure ManagerFactory (P : Platform) where
  kind : ManagerKind
  factory : P.ManagerFactory
  provider : P.Provider
  algorithm : String

namespace ManagerFactory

variable {P : Platform}

/-- Resolves the factory of an algorithm.  A provider that registered something else under
the service type is at fault, and no other provider is tried in its place. -/
def resolve (kind : ManagerKind) (registry : P.Registry) (algorithm : Option String)
    (selector : P.Selector) : Effect P.State (Except Error (ManagerFactory P)) := do
  match ← SecureSockets.resolve registry kind.serviceType algorithm selector with
  | .error error => pure (.error error)
  | .ok service =>
    pure ((service.intoParts ServiceInstance.asManagerFactory?).map
      fun (factory, provider, algorithm) => ⟨kind, factory, provider, algorithm⟩)

def init (managers : ManagerFactory P) (builders : KeyStoreBuilders P.KeyStoreBuilder) :
    Effect P.State (Except Error Unit) :=
  P.initManagers managers.factory builders

def managers (factory : ManagerFactory P) : Effect P.State (Except Error (List P.Manager)) :=
  P.managers factory.factory

def inspect (managers : ManagerFactory P) : String :=
  Text.wrapped managers.kind.facade
    (Text.openRecord "ManagerFactory"
      [("kind", managers.kind.name), ("algorithm", Text.quoted managers.algorithm),
        ("provider", Text.quoted managers.provider.name)])

end ManagerFactory

end SecureSockets
