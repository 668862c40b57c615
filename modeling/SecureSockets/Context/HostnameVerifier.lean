import SecureSockets.Log

namespace SecureSockets

/-!
Hostname verifiers decide whether a session may be used for a host whose certificate
does not name it.
-/

structure PeerSession where
  peerHost : Option String
  cipherSuite : String
  deriving DecidableEq, Repr

/-- A decision about hosts and sessions.  It is asked only when the usual check of the
certificate has failed, so that accepting a host is an exception that somebody has to have
asked for. -/
structure HostnameVerifier where
  verify : String → PeerSession → Logged Bool

namespace HostnameVerifier

/-- The verifier for whoever has installed none; it makes no exceptions. -/
def rejectAll : HostnameVerifier where
  verify host _ := do
    writeLog .debug ("Rejecting host " ++ host ++ " (no hostname verifier installed)")
    pure false

end HostnameVerifier

end SecureSockets
