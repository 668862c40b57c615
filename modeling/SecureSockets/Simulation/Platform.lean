import SecureSockets.Provider.Static
import SecureSockets.Simulation.Engine

namespace SecureSockets.Simulation

/-!
A simulated platform.  Its contexts and manager factories are places in its state; they
record what is asked of them and can be told to fail.
-/

structure ContextPlan where
  enabled : List String := commonSuites.take 2
  supported : List String := commonSuites
  protocols : List String := commonProtocols
  failInit : Option Error := none
  failSocketFactory : Option Error := none
  failCreateEngine : Option Error := none
  engine : Engine := {}

structure ContextRecord where
  /-- Where the context comes from; it appears in what is recorded. -/
  origin : String
  plan : ContextPlan
  /-- The number of key managers at the last initialization. -/
  keyManagers : Option Nat := none

structure FactoryRecord where
  failInit : Option Error := none
  builders : Option (List String) := none

/-- A simulated socket factory.  The identity tells it from others with the same suites,
so that one can see whether a factory was built again. -/
structure SocketFactory where
  identity : Nat
  defaultSuites : List String
  supportedSuites : List String
  deriving DecidableEq, Repr

/-- Instances of services that have no facade. -/
inductive Value where
  | text (text : String)
  | number (number : Nat)
  deriving DecidableEq, Repr

/-- The state of the simulation.  Its objects are places in it and are never taken away,
and the journal keeps the order in which they were asked. -/
structure State where
  contexts : Array ContextRecord := #[]
  factories : Array FactoryRecord := #[]
  /-- How often each service was asked for an instance. -/
  serviceCalls : Array Nat := #[]
  socketFactories : Nat := 0
  /-- What was asked of the simulated objects, the oldest request first. -/
  journal : List String := []

abbrev Action := Effect State

def note (line : String) : Action Unit :=
  modify fun s => { s with journal := s.journal ++ [line] }

def refuse {α : Type} (reason : String) : Except Error α :=
  .error (.invalidArgument reason)

/-- The context at a place; places are given out by the simulation only. -/
def contextAt (place : Nat) : Action ContextRecord := do
  pure ((← get).contexts[place]?.getD ⟨"", {}, none⟩)

def addContext (origin : String) (plan : ContextPlan) : Action Nat := do
  let s ← get
  set { s with contexts := s.contexts.push ⟨origin, plan, none⟩ }
  pure s.contexts.size

def addFactory (failInit : Option Error) : Action Nat := do
  let s ← get
  set { s with factories := s.factories.push ⟨failInit, none⟩ }
  pure s.factories.size

def addSocketFactory (defaultSuites supportedSuites : List String) : Action SocketFactory := do
  let s ← get
  set { s with socketFactories := s.socketFactories + 1 }
  pure ⟨s.socketFactories, defaultSuites, supportedSuites⟩

def initContext (place : Nat) (keyManagers trustManagers : List String) :
    Action (Except Error Unit) := do
  let context ← contextAt place
  note (context.origin ++ ".init([" ++ ",".intercalate keyManagers ++ "],[" ++
    ",".intercalate trustManagers ++ "])")
  match context.plan.failInit with
  | some error => pure (.error error)
  | none => do
    modify fun s => { s with
      contexts := s.contexts.setIfInBounds place
        { context with keyManagers := some keyManagers.length } }
    pure (.ok ())

def socketFactory (place : Nat) : Action (Except Error SocketFactory) := do
  let context ← contextAt place
  note (context.origin ++ ".socket_factory")
  match context.plan.failSocketFactory with
  | some error => pure (.error error)
  | none => do
    pure (.ok (← addSocketFactory context.plan.enabled
      (context.plan.supported ++ [context.origin ++ "/client"])))

/-- Server sockets need an initialized context with a key manager. -/
def serverSocketFactory (place : Nat) : Action (Except Error SocketFactory) := do
  let context ← contextAt place
  note (context.origin ++ ".server_socket_factory")
  match context.keyManagers with
  | none => pure (refuse "context not initialized")
  | some 0 => pure (refuse "server sockets need a key manager")
  | some _ => do
    pure (.ok (← addSocketFactory context.plan.enabled
      (context.plan.supported ++ [context.origin ++ "/server"])))

def createEngine (place : Nat) (peer : Option Peer) : Action (Except Error Engine) := do
  let context ← contextAt place
  note (context.origin ++ ".create_engine")
  match context.plan.failCreateEngine with
  | some error => pure (.error error)
  | none => pure (.ok { context.plan.engine with peer := peer })

/-- A manager factory keeps its builders and hands them out as managers. -/
def initManagers (place : Nat) (parameters : KeyStoreBuilders String) :
    Action (Except Error Unit) := do
  match (← get).factories[place]?.getD {} with
  | ⟨some error, _⟩ => pure (.error error)
  | factory => do
    modify fun s => { s with
      factories := s.factories.setIfInBounds place
        { factory with builders := some parameters.builders } }
    pure (.ok ())

def managers (place : Nat) : Action (Except Error (List String)) := do
  match ((← get).factories[place]?.getD {}).builders with
  | some builders => pure (.ok builders)
  | none => pure (refuse "factory not initialized")

abbrev platform : Platform where
  State := State
  Context := Nat
  ManagerFactory := Nat
  SocketFactory := SocketFactory
  Engine := Engine
  Manager := String
  KeyStoreBuilder := String
  Constraints := String
  Other := Value
  initContext := initContext
  socketFactory := socketFactory
  serverSocketFactory := serverSocketFactory
  createEngine := createEngine
  defaultParameters place := do
    let context ← contextAt place
    pure (.ofSuitesAndProtocols context.plan.enabled context.plan.protocols)
  supportedParameters place := do
    let context ← contextAt place
    pure (.ofSuitesAndProtocols context.plan.supported context.plan.protocols)
  initManagers := initManagers
  managers := managers
  defaultCipherSuites factory := factory.defaultSuites
  supportedCipherSuites factory := factory.supportedSuites

inductive Product where
  | text (value : String)
  | number (value : Nat)
  | context (plan : ContextPlan)
  | managerFactory (failInit : Option Error)

/-- A simulated service: what it makes, and how often it fails before. -/
structure ServicePlan where
  product : Product
  failTimes : Nat := 0
  error : Option Error := none

/-- Makes the product of a service on its `count`th call.  Texts and numbers depend on the
count, which shows how often a service was asked. -/
def Product.make (origin : String) (count : Nat) : Product → Action (ServiceInstance platform)
  | text value => pure (.other (.text (value ++ "#" ++ toString count)))
  | number value => pure (.other (.number (value + count)))
  | context plan => do pure (.context (← addContext origin plan))
  | managerFactory failInit => do pure (.managerFactory (← addFactory failInit))

/-- The factory of a service.  Calls are counted at a place of the state rather than in
the factory, since a factory that is found twice has to go on counting. -/
def ServicePlan.factory (plan : ServicePlan) (origin : String) (place : Nat) :
    Action (Except Error (ServiceInstance platform)) := do
  let count := (← get).serviceCalls[place]?.getD 0 + 1
  modify fun s => { s with serviceCalls := s.serviceCalls.setIfInBounds place count }
  note ("make " ++ origin ++ "#" ++ toString count)
  match plan.error with
  | some error => if count ≤ plan.failTimes then pure (.error error) else make count
  | none => make count
where
  make (count : Nat) : Action (Except Error (ServiceInstance platform)) := do
    pure (.ok (← plan.product.make origin count))

inductive ServiceEntry where
  | service (serviceType algorithm : String) (plan : ServicePlan)
  | anotherName (serviceType name algorithm : String)

def ServiceEntry.register (provider : StaticProvider State (ServiceInstance platform)) :
    ServiceEntry → Action (StaticProvider State (ServiceInstance platform))
  | service serviceType algorithm plan => do
    let s ← get
    set { s with serviceCalls := s.serviceCalls.push 0 }
    let factory := plan.factory (provider.name ++ "/" ++ algorithm) s.serviceCalls.size
    pure (provider.register serviceType algorithm factory)
  | anotherName serviceType name algorithm =>
    provider.registerAlias serviceType name algorithm

def makeProvider (name : String) (entries : List ServiceEntry) :
    Action (StaticProvider State (ServiceInstance platform)) :=
  entries.foldlM ServiceEntry.register (.empty name)

end SecureSockets.Simulation
