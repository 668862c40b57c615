import SecureSockets.Provider.Basic

namespace SecureSockets

/-!
Resolution of services.  Absent arguments are reported first, then a named provider that
is not there, then a service that nobody offers.  The first provider that offers the
service decides: if it fails to make an instance, no other provider is tried.
-/

/-- Which providers may be asked for a service.  A name and a reference may be absent, and
that is reported by the resolver rather than excluded here. -/
inductive Selector (ω ι : Type) where
  | any
  | byName (name : Option String)
  | byReference (provider : Option (Provider ω ι))

def Selector.inspect {ω ι : Type} : Selector ω ι → String
  | any => "Any"
  | byName name => Text.wrapped "ByName" (Text.optional (name.map Text.quoted))
  | byReference provider =>
    Text.wrapped "ByRef" (Text.optional (provider.map fun p => Text.quoted p.name))

structure ServiceDescriptor where
  serviceType : String
  algorithm : String
  deriving DecidableEq, Repr

namespace ServiceDescriptor

def render (descriptor : ServiceDescriptor) : String :=
  descriptor.serviceType ++ "." ++ descriptor.algorithm

def inspect (descriptor : ServiceDescriptor) : String :=
  Text.record "ServiceDescriptor"
    [("service_type", Text.quoted descriptor.serviceType),
      ("algorithm", Text.quoted descriptor.algorithm)]

def notOffered (descriptor : ServiceDescriptor) : Error :=
  .noSuchAlgorithm descriptor.serviceType descriptor.algorithm

end ServiceDescriptor

/-- An instance of a service, with the provider it comes from and with what it was asked
for by, as facades and messages need them. -/
structure ResolvedService (ω ι : Type) where
  descriptor : ServiceDescriptor
  provider : Provider ω ι
  instance' : ι

namespace ResolvedService

variable {ω ι β : Type}

def inspect (service : ResolvedService ω ι) : String :=
  Text.openRecord "ResolvedService"
    [("descriptor", service.descriptor.inspect), ("provider", Text.quoted service.provider.name)]

/-- The instance as a value of another type, with the provider and the algorithm.  The
view fails for an instance of another type, and then the provider is blamed by name. -/
def intoParts (service : ResolvedService ω ι) (view : ι → Option β) :
    Except Error (β × Provider ω ι × String) :=
  match view service.instance' with
  | some value => .ok (value, service.provider, service.descriptor.algorithm)
  | none =>
    .error (.invalidArgument
      ("provider " ++ service.provider.name ++ " registered " ++ service.descriptor.render ++
        " with an unexpected instance type"))

end ResolvedService

section Resolve

variable {ω ι : Type}

/-- Asks one provider for a service.  That the provider does not offer the service is no
answer, whereas a factory that fails is one. -/
def instantiate (descriptor : ServiceDescriptor) (provider : Provider ω ι) :
    Effect ω (Option (Except Error (ResolvedService ω ι))) := do
  match ← provider.findService descriptor.serviceType descriptor.algorithm with
  | none => do
    writeLog .trace ("Provider " ++ provider.name ++ " does not offer " ++ descriptor.render)
    pure none
  | some factory =>
    match ← factory with
    | .error error => pure (some (.error error))
    | .ok value => do
      writeLog .debug ("Resolved " ++ descriptor.render ++ " from provider " ++ provider.name)
      pure (some (.ok ⟨descriptor, provider, value⟩))

def firstOffer (descriptor : ServiceDescriptor) :
    List (Provider ω ι) → Effect ω (Except Error (ResolvedService ω ι))
  | [] => pure (.error descriptor.notOffered)
  | provider :: rest => do
    match ← instantiate descriptor provider with
    | some outcome => pure outcome
    | none => firstOffer descriptor rest

/-- Resolves a service.  Absent arguments are reported before any provider is asked, so
that such a call leaves the state alone. -/
def resolve (registry : Registry ω ι) (serviceType : String) (algorithm : Option String)
    (selector : Selector ω ι) : Effect ω (Except Error (ResolvedService ω ι)) :=
  match algorithm with
  | none => pure (.error (.nullArgument "algorithm"))
  | some algorithm =>
    let descriptor : ServiceDescriptor := ⟨serviceType, algorithm⟩
    match selector with
    | .any => do
      let providers ← registry.listProviders
      firstOffer descriptor providers
    | .byName none => pure (.error (.nullArgument "provider name"))
    | .byName (some name) => do
      match ← registry.findProvider name with
      | some provider => firstOffer descriptor [provider]
      | none => pure (.error (.noSuchProvider name))
    | .byReference none => pure (.error (.invalidArgument "provider must be present"))
    | .byReference (some provider) => firstOffer descriptor [provider]

end Resolve

end SecureSockets
