import SecureSockets.Run
import SecureSockets.Session.ClientAuth
import SecureSockets.Sni.Matcher

namespace SecureSockets.Session

/-!
Session parameters.  Each list is absent when there is no opinion about it, empty when
nothing is to be selected, and otherwise an explicit selection.  Server names and
matchers form sets: no element may be absent or occur twice.
-/

/-- Why a list is no set.  Elements are counted from zero, and only a duplicate says where
it stands. -/
inductive SetFault where
  | absentElement
  | duplicate (index : Nat)
  deriving DecidableEq, Repr

def SetFault.toError (kind : String) : SetFault → Error
  | absentElement => .nullArgument kind
  | duplicate index => .invalidArgument ("duplicate " ++ kind ++ " at index " ++ toString index)

section CheckedSet

variable {α : Type} [BEq α]

/-- Checks the elements of a list from `index` on; `seen` are the elements before. -/
def checkElements (seen : List α) (index : Nat) : List (Option α) → Except SetFault (List α)
  | [] => .ok []
  | none :: _ => .error .absentElement
  | some element :: rest =>
    if seen.any (element == ·) then .error (.duplicate index)
    else (checkElements (element :: seen) (index + 1) rest).map (element :: ·)

/-- The set that a list describes.  The first element that is absent or occurred before
decides the failure; an absent list is no failure. -/
def checkedSet : Option (List (Option α)) → Except SetFault (Option (List α))
  | none => .ok none
  | some elements => (checkElements [] 0 elements).map some

end CheckedSet

/-- The parameters of a session.  Constraints on algorithms have a type `κ` of the
application's own, since they are handed on without being read. -/
structure Parameters (κ : Type) where
  cipherSuites : Option (List String) := none
  protocols : Option (List String) := none
  wantClientAuth : Bool := false
  needClientAuth : Bool := false
  endpointIdentification : Option String := none
  constraints : Option κ := none
  serverNames : Option (List Sni.ServerName) := none
  matchers : Option (List Sni.Matcher) := none
  useCipherSuitesOrder : Bool := false

namespace Parameters

variable {κ : Type}

def empty : Parameters κ := {}

def ofSuitesAndProtocols (suites protocols : List String) : Parameters κ :=
  { cipherSuites := some suites, protocols := some protocols }

def clientAuth (p : Parameters κ) : ClientAuth :=
  .ofFlags p.needClientAuth p.wantClientAuth

/-- The kinds of elements that failures of sets name. -/
def serverNameKind : String := "server name"
def matcherKind : String := "SNI matcher"

/-- Replaces the server names, or fails when they are no set.  A failure is the whole answer,
so a refused list leaves the record as it was. -/
def setServerNames (p : Parameters κ) (names : Option (List (Option Sni.ServerName))) :
    Except Error (Parameters κ) :=
  match checkedSet names with
  | .ok names => .ok { p with serverNames := names }
  | .error fault => .error (fault.toError serverNameKind)

def setMatchers (p : Parameters κ) (matchers : Option (List (Option Sni.Matcher))) :
    Except Error (Parameters κ) :=
  match checkedSet matchers with
  | .ok matchers => .ok { p with matchers := matchers }
  | .error fault => .error (fault.toError matcherKind)

def withCipherSuites (p : Parameters κ) (suites : List String) : Parameters κ :=
  { p with cipherSuites := some suites }

def withProtocols (p : Parameters κ) (protocols : List String) : Parameters κ :=
  { p with protocols := some protocols }

def withServerNames (p : Parameters κ) (names : List Sni.ServerName) :
    Except Error (Parameters κ) :=
  p.setServerNames (some (names.map some))

def withMatchers (p : Parameters κ) (matchers : List Sni.Matcher) :
    Except Error (Parameters κ) :=
  p.setMatchers (some (matchers.map some))

end Parameters

/-- One change of a record of session parameters, so that a history of a record can be
written down as a list of changes. -/
inductive Change (κ : Type) where
  | reset
  | suitesAndProtocols (suites protocols : List String)
  | cipherSuites (suites : Option (List String))
  | protocols (protocols : Option (List String))
  | wantClientAuth (want : Bool)
  | needClientAuth (need : Bool)
  | useCipherSuitesOrder (order : Bool)
  | endpointIdentification (algorithm : Option String)
  | constraints (constraints : Option κ)
  | serverNames (names : Option (List (Option Sni.ServerName)))
  | matchers (matchers : Option (List (Option Sni.Matcher)))
  | withCipherSuites (suites : List String)
  | withProtocols (protocols : List String)
  | withServerNames (names : List Sni.ServerName)
  | withMatchers (matchers : List Sni.Matcher)

def Change.apply {κ : Type} (p : Parameters κ) : Change κ → Except Error (Parameters κ)
  | .reset => .ok .empty
  | .suitesAndProtocols s t => .ok (.ofSuitesAndProtocols s t)
  | .cipherSuites s => .ok { p with cipherSuites := s }
  | .protocols t => .ok { p with protocols := t }
  | .wantClientAuth b => .ok { p with wantClientAuth := b }
  | .needClientAuth b => .ok { p with needClientAuth := b }
  | .useCipherSuitesOrder b => .ok { p with useCipherSuitesOrder := b }
  | .endpointIdentification a => .ok { p with endpointIdentification := a }
  | .constraints k => .ok { p with constraints := k }
  | .serverNames names => p.setServerNames names
  | .matchers items => p.setMatchers items
  | .withCipherSuites s => .ok (p.withCipherSuites s)
  | .withProtocols t => .ok (p.withProtocols t)
  | .withServerNames names => p.withServerNames names
  | .withMatchers items => p.withMatchers items

/-- Makes a change in place.  The record that a refused change leaves behind is the one
that it was given. -/
def Change.perform {κ : Type} (change : Change κ) (p : Parameters κ) :
    Except Error Unit × Parameters κ :=
  match change.apply p with
  | .ok q => (.ok (), q)
  | .error error => (.error error, p)

/-- Makes some changes in turn; a refusal does not keep those behind it from being
made. -/
def Change.performAll {κ : Type} :
    List (Change κ) → Parameters κ → List (Except Error Unit) × Parameters κ :=
  serveAll Change.perform

end SecureSockets.Session
