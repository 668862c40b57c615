import SecureSockets.Provider.Basic

namespace SecureSockets

/-!
Lists of providers.  The order of the list is the order in which providers are asked,
and no two providers of a list have the same name.
-/

structure ProviderList (ω ι : Type) where
  providers : List (Provider ω ι) := []

namespace ProviderList

variable {ω ι : Type}

def empty : ProviderList ω ι := {}

def names (list : ProviderList ω ι) : List String :=
  list.providers.map (·.name)

def contains (list : ProviderList ω ι) (name : String) : Bool :=
  list.providers.any fun provider => provider.name == name

def size (list : ProviderList ω ι) : Nat :=
  list.providers.length

def isEmpty (list : ProviderList ω ι) : Bool :=
  list.providers.isEmpty

def find (list : ProviderList ω ι) (name : String) : Option (Provider ω ι) :=
  list.providers.find? fun provider => provider.name == name

/-- Puts a provider at a place, or at the end if the list is shorter.  A provider whose
name is taken is refused, since otherwise its name would not say whom it stands for. -/
def insertAt (list : ProviderList ω ι) (provider : Provider ω ι) (position : Nat) :
    Bool × ProviderList ω ι :=
  if list.contains provider.name then (false, list)
  else (true, ⟨list.providers.take position ++ provider :: list.providers.drop position⟩)

def add (list : ProviderList ω ι) (provider : Provider ω ι) : Bool × ProviderList ω ι :=
  if list.contains provider.name then (false, list)
  else (true, ⟨list.providers ++ [provider]⟩)

/-- Takes the provider with a given name out of the list.  There is no more than one, as
long as the list was made by insertions. -/
def remove (list : ProviderList ω ι) (name : String) :
    Option (Provider ω ι) × ProviderList ω ι :=
  (list.find name, ⟨list.providers.eraseP fun provider => provider.name == name⟩)

/-- The list of some providers; of those with one name only the first is kept. -/
def collect (providers : List (Provider ω ι)) : ProviderList ω ι :=
  providers.foldl (fun list provider => (list.add provider).2) empty

def registry (list : ProviderList ω ι) : Registry ω ι where
  listProviders := pure list.providers
  findProvider name := pure (list.find name)

end ProviderList

end SecureSockets
