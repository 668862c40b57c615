import SecureSockets.Lock
import SecureSockets.Provider.List
import SecureSockets.Run

namespace SecureSockets

/-!
Providers that many share.  The list stands behind a lock.  Nothing is half done to the
list when a panic can come, so a poisoned lock is read and written like any other.
-/

structure SharedRegistry (ω ι : Type) where
  lock : Lock (ProviderList ω ι) := ⟨{}, false⟩

namespace SharedRegistry

variable {ω ι α : Type}

def ofList (list : ProviderList ω ι) : SharedRegistry ω ι :=
  ⟨⟨list, false⟩⟩

def read (shared : SharedRegistry ω ι) : ProviderList ω ι :=
  shared.lock.recover

/-- Lets the list behind the lock be changed.  The lock is recovered first: an earlier
panic cannot have left the list half changed. -/
def write (shared : SharedRegistry ω ι)
    (change : ProviderList ω ι → α × ProviderList ω ι) : α × SharedRegistry ω ι :=
  let (answer, list) := change shared.lock.recover
  (answer, ⟨{ shared.lock with inner := list }⟩)

def add (shared : SharedRegistry ω ι) (provider : Provider ω ι) : Bool × SharedRegistry ω ι :=
  shared.write fun list => list.add provider

def insertAt (shared : SharedRegistry ω ι) (provider : Provider ω ι) (position : Nat) :
    Bool × SharedRegistry ω ι :=
  shared.write fun list => list.insertAt provider position

def remove (shared : SharedRegistry ω ι) (name : String) :
    Option (Provider ω ι) × SharedRegistry ω ι :=
  shared.write fun list => list.remove name

/-- A copy of the list as it is now; later edits do not reach it. -/
def snapshot (shared : SharedRegistry ω ι) : ProviderList ω ι :=
  shared.read

def find (shared : SharedRegistry ω ι) (name : String) : Option (Provider ω ι) :=
  shared.read.find name

def registry (shared : SharedRegistry ω ι) : Registry ω ι where
  listProviders := pure shared.read.providers
  findProvider name := pure (shared.find name)

end SharedRegistry

/-! What lists and shared registries are asked to do. -/

inductive ProviderRequest (ω ι : Type) where
  | add (provider : Provider ω ι)
  | insertAt (provider : Provider ω ι) (position : Nat)
  | remove (name : String)
  | listProviders
  | find (name : String)
  | snapshot

inductive ProviderAnswer (ω ι : Type) where
  | installed (done : Bool)
  | removed (provider : Option (Provider ω ι))
  | listed (providers : List (Provider ω ι))
  | found (provider : Option (Provider ω ι))
  | copied (list : ProviderList ω ι)

section Serve

variable {ω ι : Type}

def ProviderList.serve :
    ProviderRequest ω ι → ProviderList ω ι → ProviderAnswer ω ι × ProviderList ω ι
  | .add provider, list => (list.add provider).map .installed id
  | .insertAt provider position, list => (list.insertAt provider position).map .installed id
  | .remove name, list => (list.remove name).map .removed id
  | .listProviders, list => (.listed list.providers, list)
  | .find name, list => (.found (list.find name), list)
  | .snapshot, list => (.copied list, list)

def SharedRegistry.serve :
    ProviderRequest ω ι → SharedRegistry ω ι → ProviderAnswer ω ι × SharedRegistry ω ι
  | .add provider, shared => (shared.add provider).map .installed id
  | .insertAt provider position, shared => (shared.insertAt provider position).map .installed id
  | .remove name, shared => (shared.remove name).map .removed id
  | .listProviders, shared => (.listed shared.read.providers, shared)
  | .find name, shared => (.found (shared.find name), shared)
  | .snapshot, shared => (.copied shared.snapshot, shared)

end Serve

end SecureSockets
