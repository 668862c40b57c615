import SecureSockets.Provider.Basic

namespace SecureSockets

/-!
Providers with services that are registered beforehand.  Names of algorithms are
compared without regard to the case of ASCII letters, types of services exactly.
-/

def ServiceFactory.ofFunction {ω ι β : Type} (toInstance : β → ι)
    (build : Effect ω (Except Error β)) : Effect ω (Except Error ι) := do
  pure ((← build).map toInstance)

/-- A provider with a fixed set of services.  The latest registration stands first, so
that a search finds it before any other under the same names. -/
structure StaticProvider (ω ι : Type) where
  name : String
  services : List ((String × String) × ServiceFactory ω ι) := []

namespace StaticProvider

variable {ω ι : Type}

def empty (name : String) : StaticProvider ω ι := { name }

/-- What a service is registered under.  Algorithms are put in capitals here, once, so
that registering and finding cannot disagree about letter case. -/
def serviceKey (serviceType algorithm : String) : String × String :=
  (serviceType, algorithm.map Char.toUpper)

def find (provider : StaticProvider ω ι) (serviceType algorithm : String) :
    Option (ServiceFactory ω ι) :=
  provider.services.lookup (serviceKey serviceType algorithm)

/-- Registers a service; an earlier registration under the same names is replaced. -/
def register (provider : StaticProvider ω ι) (serviceType algorithm : String)
    (factory : ServiceFactory ω ι) : StaticProvider ω ι :=
  let key := serviceKey serviceType algorithm
  { provider with
    services := (key, factory) :: provider.services.filter fun entry => entry.1 != key }

def registerFunction {β : Type} (provider : StaticProvider ω ι) (serviceType algorithm : String)
    (toInstance : β → ι) (build : Effect ω (Except Error β)) : StaticProvider ω ι :=
  provider.register serviceType algorithm (.ofFunction toInstance build)

/-- Registers the service that an algorithm denotes now under another name.  A later
registration of the algorithm does not reach the alias, and an unknown algorithm is only
complained about. -/
def registerAlias (provider : StaticProvider ω ι) (serviceType nickname algorithm : String) :
    Logged (StaticProvider ω ι) := do
  match provider.find serviceType algorithm with
  | some factory => pure (provider.register serviceType nickname factory)
  | none => do
    writeLog .warn
      ("Provider " ++ provider.name ++ ": alias " ++ nickname ++ " refers to unknown " ++
        serviceType ++ " algorithm " ++ algorithm)
    pure provider

/-- The algorithms of a service type in ascending order, as they are registered: in
capitals. -/
def algorithms (provider : StaticProvider ω ι) (serviceType : String) : List String :=
  ((provider.services.filter fun entry => entry.1.1 == serviceType).map (·.1.2)).mergeSort

def toProvider (provider : StaticProvider ω ι) : Provider ω ι where
  name := provider.name
  findService serviceType algorithm := pure (provider.find serviceType algorithm)

end StaticProvider

end SecureSockets
