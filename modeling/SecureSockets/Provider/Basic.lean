import SecureSockets.Error
import SecureSockets.Log

namespace SecureSockets

/-!
Providers and registries.  A provider is a named source of services, each known by its
type and its algorithm; a registry is where a resolver looks for providers.  Both belong
to the application: asking them anything may act on its state, so that what was asked
can be seen from the state afterwards.

The parameters are the type `ω` of the application's state and the type `ι` of the
instances that services have.
-/

abbrev ServiceFactory (ω ι : Type) := Effect ω (Except Error ι)

/-- A named source of services.  Only its name is fixed; whether it offers a service may
depend on the state, and asking may change the state. -/
structure Provider (ω ι : Type) where
  name : String
  /-- The factory for a service type and an algorithm, if the provider offers it. -/
  findService : String → String → Effect ω (Option (ServiceFactory ω ι))

def Provider.inspect {ω ι : Type} (provider : Provider ω ι) : String :=
  Text.record "Provider" [("name", Text.quoted provider.name)]

/-- Where providers are looked for.  Listing providers and finding one by name are
separate operations, and nothing says that they agree. -/
structure Registry (ω ι : Type) where
  /-- All providers, in the order in which they are asked. -/
  listProviders : Effect ω (List (Provider ω ι))
  findProvider : String → Effect ω (Option (Provider ω ι))

end SecureSockets
