import Mathlib.Data.List.Induction
import Mathlib.Data.List.Nodup
import SecureSockets.Provider.Shared

namespace SecureSockets

/-!
# What is installed

A list of providers is an ordered set of names.  It comes from collecting some providers,
and after that they are added, put at a place and taken out again, in any order.  Both ways
of putting a provider into the list look for its name first, and this is what keeps the
names apart: with names apart, a name denotes one provider at most, and taking out what was
put in gives the list back.

What a request does is said once, as a law of lists (`Served`), and everything that is kept
along a run is derived from that law.  A shared registry is served in the same way, whether
its lock is poisoned or not.
-/

variable {ω ι : Type} {provider : Provider ω ι} {name : String}
  {providers before after : List (Provider ω ι)} {list : ProviderList ω ι}

/-- The names of some providers are apart.  It is the invariant of lists: as long as it
holds, looking for a name and looking for the first with a name are the same. -/
def NamesDiffer (providers : List (Provider ω ι)) : Prop :=
  (providers.map (·.name)).Nodup

def Unnamed (name : String) (providers : List (Provider ω ι)) : Prop :=
  ∀ provider ∈ providers, provider.name ≠ name

/-! ## Looking for a name -/

namespace ProviderList

theorem contains_iff :
    list.contains name = true ↔ ∃ provider ∈ list.providers, provider.name = name := by
  simp [contains]

theorem contains_eq_false_iff : list.contains name = false ↔ Unnamed name list.providers := by
  simp [contains, Unnamed]

theorem find_eq_none_iff : list.find name = none ↔ Unnamed name list.providers := by
  simp [find, Unnamed]

theorem find_of_split (split : list.providers = before ++ provider :: after)
    (first : Unnamed provider.name before) : list.find provider.name = some provider := by
  have passed : before.find? (fun other => other.name == provider.name) = none := by
    simpa [Unnamed] using first
  simp [find, split, passed]

theorem remove_of_split (split : list.providers = before ++ provider :: after)
    (first : Unnamed provider.name before) :
    list.remove provider.name = (some provider, ⟨before ++ after⟩) := by
  have passed : ∀ other ∈ before, ¬(other.name == provider.name) = true := by
    simpa [Unnamed] using first
  have rest : list.providers.eraseP (fun other => other.name == provider.name) =
      before ++ after := by
    rw [split, List.eraseP_append_right _ passed]
    simp
  rw [remove, find_of_split split first, rest]

theorem remove_of_unnamed (absent : Unnamed name list.providers) :
    list.remove name = (none, list) := by
  have kept : list.providers.eraseP (fun other => other.name == name) = list.providers := by
    apply List.eraseP_of_forall_not
    simpa [Unnamed] using absent
  rw [remove, find_eq_none_iff.mpr absent, kept]

end ProviderList

/-! ## Names that differ -/

theorem namesDiffer_insert_iff :
    NamesDiffer (before ++ provider :: after) ↔
      NamesDiffer (before ++ after) ∧ Unnamed provider.name (before ++ after) := by
  have beyond : provider.name ∉ (before ++ after).map (·.name) ↔
      Unnamed provider.name (before ++ after) := by
    simp only [Unnamed, List.mem_map, not_exists, not_and, ne_eq]
  rw [NamesDiffer, List.map_append, List.map_cons, List.nodup_middle, List.nodup_cons,
    ← List.map_append, beyond, and_comm, NamesDiffer]

theorem Unnamed.of_append (absent : Unnamed name (before ++ after)) : Unnamed name before :=
  fun provider within => absent provider (List.mem_append_left after within)

/-- A provider that is there stands somewhere, and it alone has its name. -/
theorem NamesDiffer.exists_split (differ : NamesDiffer providers) (within : provider ∈ providers) :
    ∃ before after, providers = before ++ provider :: after ∧
      Unnamed provider.name (before ++ after) := by
  rcases List.append_of_mem within with ⟨before, after, rfl⟩
  exact ⟨before, after, rfl, (namesDiffer_insert_iff.mp differ).2⟩

namespace ProviderList

/-- With names apart, finding is the same as being there under the name. -/
theorem find_eq_some_iff (differ : NamesDiffer list.providers) :
    list.find name = some provider ↔ provider ∈ list.providers ∧ provider.name = name := by
  constructor
  · intro found
    exact ⟨List.mem_of_find?_eq_some found, by simpa using List.find?_some found⟩
  · rintro ⟨within, rfl⟩
    rcases differ.exists_split within with ⟨before, after, split, only⟩
    exact find_of_split split only.of_append

end ProviderList

/-! ## Requests -/

/-- The law of requests: the answer to one, and the providers that it leaves.  It speaks
of the providers before and after a place, and never of how a list is searched. -/
inductive Served (providers : List (Provider ω ι)) :
    ProviderRequest ω ι -> ProviderAnswer ω ι -> List (Provider ω ι) -> Prop where
  | added {provider : Provider ω ι} (fresh : Unnamed provider.name providers) :
      Served providers (.add provider) (.installed true) (providers ++ [provider])
  | notAdded {provider other : Provider ω ι} (within : other ∈ providers)
      (taken : other.name = provider.name) :
      Served providers (.add provider) (.installed false) providers
  | inserted {provider : Provider ω ι} {position : Nat} (before after : List (Provider ω ι))
      (fresh : Unnamed provider.name providers) (split : providers = before ++ after)
      (place : before.length = min position providers.length) :
      Served providers (.insertAt provider position) (.installed true)
        (before ++ provider :: after)
  | notInserted {provider other : Provider ω ι} {position : Nat} (within : other ∈ providers)
      (taken : other.name = provider.name) :
      Served providers (.insertAt provider position) (.installed false) providers
  | removed {provider : Provider ω ι} (before after : List (Provider ω ι))
      (split : providers = before ++ provider :: after)
      (only : Unnamed provider.name (before ++ after)) :
      Served providers (.remove provider.name) (.removed (some provider)) (before ++ after)
  | notRemoved {name : String} (absent : Unnamed name providers) :
      Served providers (.remove name) (.removed none) providers
  | listed : Served providers .listProviders (.listed providers) providers
  | found {provider : Provider ω ι} (within : provider ∈ providers) :
      Served providers (.find provider.name) (.found (some provider)) providers
  | notFound {name : String} (absent : Unnamed name providers) :
      Served providers (.find name) (.found none) providers
  | copied : Served providers .snapshot (.copied ⟨providers⟩) providers

theorem Served.namesDiffer {request : ProviderRequest ω ι} {answer : ProviderAnswer ω ι}
    (served : Served providers request answer after) (differ : NamesDiffer providers) :
    NamesDiffer after := by
  cases served with
  | added fresh =>
      rw [namesDiffer_insert_iff, List.append_nil]
      exact ⟨differ, fresh⟩
  | inserted before after fresh split place =>
      rw [namesDiffer_insert_iff, ← split]
      exact ⟨differ, fresh⟩
  | removed before after split only =>
      rw [split] at differ
      exact (namesDiffer_insert_iff.mp differ).1
  | _ => exact differ

namespace ProviderList

theorem served_add (list : ProviderList ω ι) (provider : Provider ω ι) :
    Served list.providers (.add provider) (.installed (list.add provider).1)
      (list.add provider).2.providers := by
  unfold add
  split
  case isTrue taken =>
      rcases contains_iff.mp taken with ⟨other, within, same⟩
      exact .notAdded within same
  case isFalse fresh =>
      rw [Bool.not_eq_true, contains_eq_false_iff] at fresh
      exact .added fresh

theorem served_insertAt (list : ProviderList ω ι) (provider : Provider ω ι) (position : Nat) :
    Served list.providers (.insertAt provider position)
      (.installed (list.insertAt provider position).1)
      (list.insertAt provider position).2.providers := by
  unfold insertAt
  split
  case isTrue taken =>
      rcases contains_iff.mp taken with ⟨other, within, same⟩
      exact .notInserted within same
  case isFalse fresh =>
      rw [Bool.not_eq_true, contains_eq_false_iff] at fresh
      apply Served.inserted _ _ fresh
      · exact (List.take_append_drop position list.providers).symm
      · exact List.length_take

theorem served_remove (differ : NamesDiffer list.providers) (name : String) :
    Served list.providers (.remove name) (.removed (list.remove name).1)
      (list.remove name).2.providers := by
  by_cases installed : ∃ provider ∈ list.providers, provider.name = name
  · rcases installed with ⟨provider, within, rfl⟩
    rcases differ.exists_split within with ⟨before, after, split, only⟩
    rw [remove_of_split split only.of_append]
    exact .removed before after split only
  · have absent : Unnamed name list.providers := by simpa [Unnamed] using installed
    rw [remove_of_unnamed absent]
    exact .notRemoved absent

theorem served_find (differ : NamesDiffer list.providers) (name : String) :
    Served list.providers (.find name) (.found (list.find name)) list.providers := by
  cases found : list.find name with
  | none => exact .notFound (find_eq_none_iff.mp found)
  | some provider =>
      rcases (find_eq_some_iff differ).mp found with ⟨within, rfl⟩
      exact .found within

/-- A list serves every request by the law. -/
theorem served_serve (differ : NamesDiffer list.providers) (request : ProviderRequest ω ι) :
    Served list.providers request (list.serve request).1 (list.serve request).2.providers := by
  cases request with
  | add provider => exact list.served_add provider
  | insertAt provider position => exact list.served_insertAt provider position
  | remove name => exact served_remove differ name
  | listProviders => exact .listed
  | find name => exact served_find differ name
  | snapshot => exact .copied

theorem namesDiffer_serve (request : ProviderRequest ω ι) (list : ProviderList ω ι)
    (differ : NamesDiffer list.providers) : NamesDiffer (list.serve request).2.providers :=
  (served_serve differ request).namesDiffer differ

/-- An accepted provider is taken out again with its name, and the list is what it was. -/
theorem remove_insertAt (list : ProviderList ω ι) (provider : Provider ω ι) (position : Nat) :
    (list.insertAt provider position).2.remove provider.name =
      if list.contains provider.name then list.remove provider.name else (some provider, list) := by
  unfold insertAt
  split
  case isTrue taken => rfl
  case isFalse fresh =>
      rw [Bool.not_eq_true, contains_eq_false_iff] at fresh
      rw [← List.take_append_drop position list.providers] at fresh
      rw [remove_of_split rfl fresh.of_append, List.take_append_drop]

end ProviderList

/-! ## Collecting -/

/-- The providers that are the first with their names.  This is said by looking back from
each of them, while a list is filled by looking at what it holds. -/
def firstsOfNames (given : List (Provider ω ι)) : List (Provider ω ι) :=
  (given.zipIdx.filter fun (provider, index) =>
    (given.take index).all (·.name != provider.name)).map (·.1)

/-- The last provider does not decide which of those before it are kept. -/
theorem firstsOfNames_concat (given : List (Provider ω ι)) (provider : Provider ω ι) :
    firstsOfNames (given ++ [provider]) = firstsOfNames given ++
      if given.any (·.name == provider.name) then [] else [provider] := by
  have before : ∀ entry ∈ given.zipIdx,
      ((given ++ [provider]).take entry.2).all (·.name != entry.1.name) =
        (given.take entry.2).all (·.name != entry.1.name) := by
    intro entry within
    have inside : entry.2 < given.length := by
      simpa using List.snd_lt_of_mem_zipIdx within
    rw [List.take_append_of_le_length (Nat.le_of_lt inside)]
  unfold firstsOfNames
  rw [List.zipIdx_append, List.filter_append, List.map_append, List.filter_congr before]
  congr 1
  by_cases taken : given.any (·.name == provider.name) = true
  · have earlier : given.all (·.name != provider.name) = false := by
      simpa using taken
    simp [taken, earlier]
  · have first : given.all (·.name != provider.name) = true := by
      simpa using taken
    simp [taken, first]

theorem collect_concat (given : List (Provider ω ι)) (provider : Provider ω ι) :
    ProviderList.collect (given ++ [provider]) = ((ProviderList.collect given).add provider).2 := by
  simp [ProviderList.collect]

theorem contains_add (list : ProviderList ω ι) (provider : Provider ω ι) (name : String) :
    (list.add provider).2.contains name = (list.contains name || provider.name == name) := by
  unfold ProviderList.add
  split
  case isTrue taken =>
      by_cases same : provider.name = name
      · rw [← same, taken, Bool.true_or]
      · simp [same]
  case isFalse fresh => simp [ProviderList.contains]

theorem contains_collect (given : List (Provider ω ι)) (name : String) :
    (ProviderList.collect given).contains name = given.any (·.name == name) := by
  induction given using List.reverseRecOn with
  | nil => rfl
  | append_singleton given provider ih => simp [collect_concat, contains_add, ih]

/-- Collecting keeps the first provider of every name, in the order in which they are given. -/
theorem collect_providers (given : List (Provider ω ι)) :
    (ProviderList.collect given).providers = firstsOfNames given := by
  induction given using List.reverseRecOn with
  | nil => rfl
  | append_singleton given provider ih =>
      rw [collect_concat, firstsOfNames_concat, ← ih, ← contains_collect, ProviderList.add]
      split
      case isTrue taken => simp
      case isFalse fresh => rfl

theorem namesDiffer_collect (given : List (Provider ω ι)) :
    NamesDiffer (ProviderList.collect given).providers := by
  induction given using List.reverseRecOn with
  | nil => exact List.nodup_nil
  | append_singleton given provider ih =>
      rw [collect_concat]
      exact (ProviderList.served_add _ provider).namesDiffer ih

/-! ## Sharing -/

namespace SharedRegistry

variable {poisoned : Bool}

/-- A shared registry serves a request as its list does. -/
theorem serve_eq (request : ProviderRequest ω ι) (list : ProviderList ω ι) :
    SharedRegistry.serve request ⟨⟨list, poisoned⟩⟩ =
      (list.serve request).map id fun list => ⟨⟨list, poisoned⟩⟩ := by
  cases request <;>
    simp [serve, ProviderList.serve, add, insertAt, remove, find, snapshot, read, write, Prod.map]

theorem registry_eq (list : ProviderList ω ι) :
    (⟨⟨list, poisoned⟩⟩ : SharedRegistry ω ι).registry = list.registry := by
  simp [registry, find, read, ProviderList.registry]

end SharedRegistry

/-! ## Histories -/

/-- What a list says about itself fits together. -/
structure ProviderList.Coherent (list : ProviderList ω ι) : Prop where
  contains : ∀ name, list.contains name = true ↔ name ∈ list.names
  find : ∀ name provider, list.find name = some provider ↔
    provider ∈ list.providers ∧ provider.name = name
  missing : ∀ name, list.find name = none ↔ list.contains name = false
  size : list.size = list.providers.length
  isEmpty : list.isEmpty = true ↔ list.size = 0
  listProviders : list.registry.listProviders = pure list.providers
  findProvider : ∀ name, list.registry.findProvider name = pure (list.find name)

theorem ProviderList.coherent_of_namesDiffer (differ : NamesDiffer list.providers) :
    list.Coherent where
  contains name := by simp [ProviderList.contains, names]
  find name provider := find_eq_some_iff differ
  missing name := by rw [find_eq_none_iff, contains_eq_false_iff]
  size := rfl
  isEmpty := by simp [ProviderList.isEmpty, ProviderList.size]
  listProviders := rfl
  findProvider name := rfl

/-- A list that comes from collecting some providers and serving any requests is an ordered
set of names, whose order is that of the providers given first and of the places asked for.
Sharing it changes no answer, and a copy stays what the list was. -/
theorem installed_in_order (given : List (Provider ω ι))
    (requests later : List (ProviderRequest ω ι)) (poisoned : Bool) :
    let list := (serveAll ProviderList.serve requests (ProviderList.collect given)).2
    (ProviderList.collect given).providers = firstsOfNames given ∧
      NamesDiffer list.providers ∧
      (∀ request, Served list.providers request (list.serve request).1
        (list.serve request).2.providers) ∧
      list.Coherent ∧
      (∀ provider position, (list.insertAt provider position).2.remove provider.name =
        if list.contains provider.name then list.remove provider.name
        else (some provider, list)) ∧
      serveAll SharedRegistry.serve later ⟨⟨list, poisoned⟩⟩ =
        (serveAll ProviderList.serve later list).map id (fun list => ⟨⟨list, poisoned⟩⟩) ∧
      (⟨⟨list, poisoned⟩⟩ : SharedRegistry ω ι).registry = list.registry ∧
      (serveAll SharedRegistry.serve (requests ++ .snapshot :: later)
        ⟨⟨ProviderList.collect given, poisoned⟩⟩).1[requests.length]? = some (.copied list) := by
  intro list
  have differ : NamesDiffer list.providers :=
    serveAll_keeps ProviderList.namesDiffer_serve requests (namesDiffer_collect given)
  have shared (requests : List (ProviderRequest ω ι)) (list : ProviderList ω ι) :
      serveAll SharedRegistry.serve requests ⟨⟨list, poisoned⟩⟩ =
        (serveAll ProviderList.serve requests list).map id (fun list => ⟨⟨list, poisoned⟩⟩) :=
    serveAll_map _ SharedRegistry.serve_eq requests list
  refine ⟨collect_providers given, differ, ProviderList.served_serve differ,
    ProviderList.coherent_of_namesDiffer differ, list.remove_insertAt, shared later list,
    SharedRegistry.registry_eq list, ?_⟩
  rw [shared]
  exact serveAll_answer requests later .snapshot (ProviderList.collect given)

/-- A provider that was refused is not the one that its name takes out: a list loses the
provider that it had before. -/
theorem remove_refused_insertAt :
    ¬∀ (given : List (Provider Unit Unit)) (provider : Provider Unit Unit) (position : Nat),
      (((ProviderList.collect given).insertAt provider position).2.remove provider.name).2 =
        ProviderList.collect given := by
  intro restores
  let acme : Provider Unit Unit := ⟨"Acme", fun _ _ => pure none⟩
  have sizes := congrArg ProviderList.size (restores [acme] acme 0)
  exact absurd sizes (by decide)

end SecureSockets
