namespace SecureSockets

/-!
The names that the library gives a meaning to.
-/

def version : String := "0.1.0"

/-! The types of the services that have a facade. -/
namespace ServiceType

def context : String := "SSLContext"
def keyManagerFactory : String := "KeyManagerFactory"
def trustManagerFactory : String := "TrustManagerFactory"

end ServiceType

/-! Names of algorithms. -/
namespace Algorithm

def defaultContext : String := "Default"

/-- The algorithm of manager factories for which none is configured. -/
def fallbackManager : String := "SunX509"

end Algorithm

/-! Names of configuration properties. -/
namespace PropertyName

def keyManagerAlgorithm : String := "ssl.KeyManagerFactory.algorithm"
def trustManagerAlgorithm : String := "ssl.TrustManagerFactory.algorithm"

end PropertyName

/-! Names of environment variables. -/
namespace VariableName

def keyManagerAlgorithm : String := "TLS_KEY_MANAGER_ALGORITHM"
def trustManagerAlgorithm : String := "TLS_TRUST_MANAGER_ALGORITHM"
def defaultContextProtocol : String := "TLS_DEFAULT_CONTEXT_PROTOCOL"

end VariableName

end SecureSockets
