import SecureSockets.Provider.Resolve
import SecureSockets.Session.Parameters

namespace SecureSockets

/-!
What an application plugs in.  A platform names the types of its objects and says how
each of them is used; the objects themselves may be no more than references into the
platform's state.
-/

/-- The key store builders that a manager factory is initialized with.  There is at least
one; the proof of that travels with the list, so that no factory has to check it again. -/
structure KeyStoreBuilders (β : Type) where
  builders : List β
  nonempty : builders ≠ []

namespace KeyStoreBuilders

variable {β : Type}

/-- The builders of a list, which has to be there and not be empty. -/
def ofList : Option (List β) → Except Error (KeyStoreBuilders β)
  | none => .error (.nullArgument "key store builders")
  | some [] => .error (.invalidArgument "key store builder list must not be empty")
  | some (first :: rest) => .ok ⟨first :: rest, List.cons_ne_nil first rest⟩

def single : Option β → Except Error (KeyStoreBuilders β)
  | none => .error (.nullArgument "key store builder")
  | some builder => .ok ⟨[builder], List.cons_ne_nil builder []⟩

def inspect (parameters : KeyStoreBuilders β) : String :=
  Text.record "KeyStoreBuilderParameters" [("builders", toString parameters.builders.length)]

end KeyStoreBuilders

structure Peer where
  host : String
  port : Nat
  deriving DecidableEq, Repr

/-- The types of an application's objects, and the operations on them.  Nothing is assumed
of the operations beyond their types: one that acts on the state need not answer in the
same way twice. -/
structure Platform where
  /-- The state that the objects keep. -/
  State : Type
  Context : Type
  ManagerFactory : Type
  SocketFactory : Type
  Engine : Type
  /-- A key manager or a trust manager. -/
  Manager : Type
  KeyStoreBuilder : Type
  /-- Constraints on algorithms, passed along unread. -/
  Constraints : Type
  /-- Instances of services that have no facade. -/
  Other : Type
  initContext : Context → List Manager → List Manager → Effect State (Except Error Unit)
  socketFactory : Context → Effect State (Except Error SocketFactory)
  serverSocketFactory : Context → Effect State (Except Error SocketFactory)
  createEngine : Context → Option Peer → Effect State (Except Error Engine)
  defaultParameters : Context → Effect State (Session.Parameters Constraints)
  supportedParameters : Context → Effect State (Session.Parameters Constraints)
  initManagers :
    ManagerFactory → KeyStoreBuilders KeyStoreBuilder → Effect State (Except Error Unit)
  managers : ManagerFactory → Effect State (Except Error (List Manager))
  defaultCipherSuites : SocketFactory → List String
  supportedCipherSuites : SocketFactory → List String

/-- An instance of a service.  Providers register instances of any kind under any service
type, so that a facade has to look whether it has got what it asked for. -/
inductive ServiceInstance (P : Platform) where
  | context (context : P.Context)
  | managerFactory (factory : P.ManagerFactory)
  | other (value : P.Other)

namespace ServiceInstance

variable {P : Platform}

def asContext? : ServiceInstance P → Option P.Context
  | context c => some c
  | _ => none

def asManagerFactory? : ServiceInstance P → Option P.ManagerFactory
  | managerFactory f => some f
  | _ => none

def asOther? : ServiceInstance P → Option P.Other
  | other x => some x
  | _ => none

end ServiceInstance

namespace Platform

abbrev Provider (P : Platform) := SecureSockets.Provider P.State (ServiceInstance P)
abbrev Registry (P : Platform) := SecureSockets.Registry P.State (ServiceInstance P)
abbrev Selector (P : Platform) := SecureSockets.Selector P.State (ServiceInstance P)

end Platform

end SecureSockets
