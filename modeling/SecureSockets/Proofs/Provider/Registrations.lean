import Mathlib.Data.List.Induction
import Mathlib.Data.List.Sort
import Mathlib.Data.String.Basic
import SecureSockets.Proofs.Sni.Spelling
import SecureSockets.Provider.Static

namespace SecureSockets

open Sni (SameLetters sameLetters_iff)

/-!
# What a provider has registered

A provider is filled by calls: services are registered, and algorithms get further names.
The second kind of call depends on what was registered before, since it registers the
factory that an algorithm denotes at that moment, and nothing if it denotes none.

The calls are given a meaning without a table of services.  They leave a list of entries
behind, the oldest first, in which nothing is ever replaced, and a service goes by the last
entry that has its names.  A provider is shown to answer by the entries of the calls that
have filled it, whatever they overwrite and however they spell the algorithms.
-/

variable {ω ι : Type}

/-! ## Calls -/

/-- A call that fills a provider. -/
inductive Registration (ω ι : Type) : Type 1 where
  | service (serviceType algorithm : String) (factory : ServiceFactory ω ι)
  | function {β : Type} (serviceType algorithm : String) (toInstance : β → ι)
      (build : Effect ω (Except Error β))
  | nickname (serviceType name algorithm : String)

namespace Registration

def perform : Registration ω ι → StaticProvider ω ι → Logged (StaticProvider ω ι)
  | service serviceType algorithm factory, provider =>
    pure (provider.register serviceType algorithm factory)
  | function serviceType algorithm toInstance build, provider =>
    pure (provider.registerFunction serviceType algorithm toInstance build)
  | nickname serviceType name algorithm, provider =>
    provider.registerAlias serviceType name algorithm

def performAll : List (Registration ω ι) → StaticProvider ω ι → Logged (StaticProvider ω ι)
  | [], provider => pure provider
  | call :: rest, provider => do
    let provider ← call.perform provider
    performAll rest provider

end Registration

/-! ## Entries -/

/-- What an effective call has registered, with the names as they were given. -/
structure Entry (ω ι : Type) where
  serviceType : String
  algorithm : String
  factory : ServiceFactory ω ι

/-- The entry has the names of a service, up to the case of the algorithm's letters. -/
def Entry.Named (entry : Entry ω ι) (serviceType algorithm : String) : Prop :=
  entry.serviceType = serviceType ∧ SameLetters entry.algorithm.toList algorithm.toList

/-- The last entry with the names of a service has the factory.  Earlier entries with
these names may exist, and are never looked at. -/
def Latest (entries : List (Entry ω ι)) (serviceType algorithm : String)
    (factory : ServiceFactory ω ι) : Prop :=
  ∃ before entry after, entries = before ++ entry :: after ∧
    entry.Named serviceType algorithm ∧ entry.factory = factory ∧
    ∀ later ∈ after, ¬later.Named serviceType algorithm

def Unknown (entries : List (Entry ω ι)) (serviceType algorithm : String) : Prop :=
  ∀ entry ∈ entries, ¬entry.Named serviceType algorithm

/-- What a call makes of the entries before it.  A nickname copies the factory that is
denoted at that moment, so that later entries do not change what it stands for. -/
inductive Registers (entries : List (Entry ω ι)) :
    Registration ω ι → List (Entry ω ι) → Prop where
  | service (serviceType algorithm : String) (factory : ServiceFactory ω ι) :
      Registers entries (.service serviceType algorithm factory)
        (entries ++ [⟨serviceType, algorithm, factory⟩])
  | function {β : Type} (serviceType algorithm : String) (toInstance : β -> ι)
      (build : Effect ω (Except Error β)) :
      Registers entries (.function serviceType algorithm toInstance build)
        (entries ++ [⟨serviceType, algorithm, .ofFunction toInstance build⟩])
  | nickname {serviceType name algorithm : String} {factory : ServiceFactory ω ι}
      (denotes : Latest entries serviceType algorithm factory) :
      Registers entries (.nickname serviceType name algorithm)
        (entries ++ [⟨serviceType, name, factory⟩])
  | ignored {serviceType name algorithm : String}
      (unknown : Unknown entries serviceType algorithm) :
      Registers entries (.nickname serviceType name algorithm) entries

inductive RegistersAll :
    List (Entry ω ι) -> List (Registration ω ι) → List (Entry ω ι) → Prop where
  | nil (entries : List (Entry ω ι)) : RegistersAll entries [] entries
  | cons {entries next last : List (Entry ω ι)} {call : Registration ω ι}
      {rest : List (Registration ω ι)} (registers : Registers entries call next)
      (others : RegistersAll next rest last) : RegistersAll entries (call :: rest) last

section Entries

variable {entries : List (Entry ω ι)} {entry : Entry ω ι} {serviceType algorithm : String}
  {factory factory' : ServiceFactory ω ι}

theorem not_latest_nil : ¬Latest [] serviceType algorithm factory := by
  rintro ⟨before, entry, after, split, -⟩
  exact absurd split (by simp)

/-- A place in a list with one more element is the new one's, or a place in the list. -/
theorem split_concat {before after : List (Entry ω ι)} {chosen : Entry ω ι}
    (split : entries ++ [entry] = before ++ chosen :: after) :
    (after = [] ∧ entry = chosen) ∨
      ∃ early, after = early ++ [entry] ∧ entries = before ++ chosen :: early := by
  rcases List.eq_nil_or_concat after with rfl | ⟨early, final, rfl⟩
  · exact Or.inl ⟨rfl, List.singleton_inj.mp (List.append_inj' split rfl).2⟩
  · rw [List.concat_eq_append, ← List.cons_append, ← List.append_assoc] at split
    rcases List.append_inj' split rfl with ⟨same, final'⟩
    cases final'
    exact Or.inr ⟨early, List.concat_eq_append, same⟩

theorem latest_concat_of_named (named : entry.Named serviceType algorithm) :
    Latest (entries ++ [entry]) serviceType algorithm factory ↔ entry.factory = factory := by
  constructor
  · rintro ⟨before, chosen, after, split, -, same, last⟩
    rcases split_concat split with ⟨rfl, rfl⟩ | ⟨early, rfl, -⟩
    · exact same
    · exact absurd named (last entry (List.mem_append_right early List.mem_cons_self))
  · rintro rfl
    exact ⟨entries, entry, [], rfl, named, rfl, nofun⟩

theorem latest_concat_of_not_named (other : ¬entry.Named serviceType algorithm) :
    Latest (entries ++ [entry]) serviceType algorithm factory ↔
      Latest entries serviceType algorithm factory := by
  constructor
  · rintro ⟨before, chosen, after, split, named, same, last⟩
    rcases split_concat split with ⟨rfl, rfl⟩ | ⟨early, rfl, rfl⟩
    · exact absurd named other
    · exact ⟨before, chosen, early, rfl, named, same,
        fun later within => last later (List.mem_append_left [entry] within)⟩
  · rintro ⟨before, chosen, after, rfl, named, same, last⟩
    refine ⟨before, chosen, after ++ [entry], by simp, named, same, ?_⟩
    intro later within
    rcases List.mem_append.mp within with earlier | final
    · exact last later earlier
    · rwa [List.mem_singleton.mp final]

theorem Latest.unique (first : Latest entries serviceType algorithm factory)
    (second : Latest entries serviceType algorithm factory') : factory = factory' := by
  induction entries using List.reverseRecOn with
  | nil => exact absurd first not_latest_nil
  | append_singleton entries final ih =>
      by_cases named : final.Named serviceType algorithm
      · rw [latest_concat_of_named named] at first second
        exact first.symm.trans second
      · rw [latest_concat_of_not_named named] at first second
        exact ih first second

/-- A service that no entry is the last one of is not known at all. -/
theorem unknown_iff :
    Unknown entries serviceType algorithm ↔
      ∀ factory, ¬Latest entries serviceType algorithm factory := by
  constructor
  · rintro unknown factory ⟨before, entry, after, rfl, named, -, -⟩
    exact unknown entry (List.mem_append_right before List.mem_cons_self) named
  · intro none
    induction entries using List.reverseRecOn with
    | nil => exact nofun
    | append_singleton entries final ih =>
        by_cases named : final.Named serviceType algorithm
        · exact absurd ((latest_concat_of_named named).mpr rfl) (none final.factory)
        · have earlier : Unknown entries serviceType algorithm :=
            ih fun factory latest => none factory ((latest_concat_of_not_named named).mpr latest)
          intro entry within
          rcases List.mem_append.mp within with early | last
          · exact earlier entry early
          · rwa [List.mem_singleton.mp last]

theorem Registers.unique {call : Registration ω ι} {next next' : List (Entry ω ι)}
    (first : Registers entries call next) (second : Registers entries call next') :
    next = next' := by
  cases first with
  | service => cases second; rfl
  | function => cases second; rfl
  | nickname denotes =>
      cases second with
      | nickname denotes' => rw [denotes.unique denotes']
      | ignored unknown => exact absurd denotes (unknown_iff.mp unknown _)
  | ignored unknown =>
      cases second with
      | nickname denotes => exact absurd denotes (unknown_iff.mp unknown _)
      | ignored => rfl

theorem RegistersAll.unique {calls : List (Registration ω ι)} {last last' : List (Entry ω ι)}
    (first : RegistersAll entries calls last) (second : RegistersAll entries calls last') :
    last = last' := by
  induction first with
  | nil => cases second; rfl
  | cons registers _ ih =>
      cases second with
      | cons registers' others =>
          cases registers.unique registers'
          exact ih others

end Entries

/-! ## Keys -/

namespace StaticProvider

variable {provider : StaticProvider ω ι} {serviceType algorithm : String}
  {factory : ServiceFactory ω ι}

theorem serviceKey_eq_iff {serviceType' algorithm' : String} :
    serviceKey serviceType algorithm = serviceKey serviceType' algorithm' ↔
      serviceType = serviceType' ∧ SameLetters algorithm.toList algorithm'.toList := by
  rw [serviceKey, serviceKey, Prod.mk.injEq, sameLetters_iff, ← String.toList_map,
    ← String.toList_map, String.toList_inj]

/-- Taking the rows of one key out of a table does not touch the other keys. -/
theorem lookup_filter_ne {services : List ((String × String) × ServiceFactory ω ι)}
    {key other : String × String} (differ : key ≠ other) :
    (services.filter fun service => service.1 != key).lookup other = services.lookup other := by
  induction services with
  | nil => rfl
  | cons service rest ih =>
      rcases service with ⟨key', factory⟩
      by_cases same : key' = key
      · have beyond : (other == key) = false := by simpa using differ.symm
        simp [same, List.lookup_cons, beyond, ih]
      · simp [same, List.lookup_cons, ih]

/-- A registration counts for the names that it is made under, and for these alone. -/
theorem find_register (serviceType' algorithm' : String) :
    (provider.register serviceType algorithm factory).find serviceType' algorithm' =
      if serviceKey serviceType algorithm = serviceKey serviceType' algorithm' then some factory
      else provider.find serviceType' algorithm' := by
  unfold find register
  split
  case isTrue same => simp [same]
  case isFalse differ =>
      have beyond : (serviceKey serviceType' algorithm' == serviceKey serviceType algorithm) =
          false := by simpa using Ne.symm differ
      simp only [List.lookup_cons, beyond, lookup_filter_ne differ]

/-- A table of services has one row a key, and the algorithms of its keys are in
capitals. -/
structure Tabulated (provider : StaticProvider ω ι) : Prop where
  apart : (provider.services.map (·.1)).Nodup
  capital : ∀ service ∈ provider.services, service.1.2.map Char.toUpper = service.1.2

theorem Tabulated.register (tabulated : provider.Tabulated)
    (serviceType algorithm : String) (factory : ServiceFactory ω ι) :
    (provider.register serviceType algorithm factory).Tabulated where
  apart := by
    have others : ((provider.services.filter fun service =>
        service.1 != serviceKey serviceType algorithm).map (·.1)).Nodup :=
      tabulated.apart.sublist (List.filter_sublist.map _)
    simpa [StaticProvider.register] using others
  capital := by
    intro service within
    rcases List.mem_cons.mp within with rfl | kept
    · apply String.toList_inj.mp
      rw [serviceKey, String.toList_map, String.toList_map]
      rw [List.map_map]
      exact List.map_congr_left fun c _ => Unicode.toUpper_toUpper c
    · exact tabulated.capital service (List.mem_filter.mp kept).1

theorem find_isSome_iff :
    (provider.find serviceType algorithm).isSome = true ↔
      ∃ service ∈ provider.services, service.1 = serviceKey serviceType algorithm := by
  rw [find, List.lookup_isSome_iff]
  exact exists_congr fun service => and_congr_right fun _ => beq_iff_eq.trans eq_comm

/-- Listed are the algorithms that are found, as far as they are written in capitals. -/
theorem Tabulated.mem_algorithms_iff (tabulated : provider.Tabulated) :
    algorithm ∈ provider.algorithms serviceType ↔
      algorithm.map Char.toUpper = algorithm ∧
        (provider.find serviceType algorithm).isSome = true := by
  rw [find_isSome_iff, algorithms, List.mem_mergeSort, List.mem_map]
  constructor
  · rintro ⟨service, within, rfl⟩
    rcases List.mem_filter.mp within with ⟨within, same⟩
    have capital := tabulated.capital service within
    refine ⟨capital, service, within, ?_⟩
    rw [serviceKey, capital, ← beq_iff_eq.mp same]
  · rintro ⟨capital, service, within, key⟩
    rw [serviceKey, capital] at key
    refine ⟨service, List.mem_filter.mpr ⟨within, ?_⟩, ?_⟩
    · simp [key]
    · simp [key]

/-- Algorithms are listed in ascending order, and none of them twice. -/
theorem Tabulated.algorithms_ascending (tabulated : provider.Tabulated) (serviceType : String) :
    (provider.algorithms serviceType).Pairwise (· < ·) := by
  have ordered : (provider.algorithms serviceType).Pairwise (· ≤ ·) :=
    List.pairwise_mergeSort' _ _
  have once : (provider.algorithms serviceType).Nodup := by
    rw [algorithms, (List.mergeSort_perm _ _).nodup_iff]
    refine List.Nodup.map_on ?_ (tabulated.apart.of_map.filter _)
    intro one within other within' same
    rcases List.mem_filter.mp within with ⟨within, ofType⟩
    rcases List.mem_filter.mp within' with ⟨within', ofType'⟩
    have types : one.1.1 = other.1.1 := (beq_iff_eq.mp ofType).trans (beq_iff_eq.mp ofType').symm
    exact List.inj_on_of_nodup_map tabulated.apart within within' (Prod.ext types same)
  exact ordered.imp₂ (fun _ _ below differ => lt_of_le_of_ne below differ) once

/-! ## Histories -/

/-- A provider answers by some entries.  The table of services forgets what it has
overwritten, while the entries forget nothing; this is how the two are held together. -/
structure AnswersBy (provider : StaticProvider ω ι) (entries : List (Entry ω ι)) : Prop where
  find : ∀ serviceType algorithm factory,
    provider.find serviceType algorithm = some factory ↔
      Latest entries serviceType algorithm factory
  tabulated : provider.Tabulated

namespace AnswersBy

variable {entries : List (Entry ω ι)}

theorem empty (name : String) : (StaticProvider.empty name : StaticProvider ω ι).AnswersBy [] where
  find _ _ _ := iff_of_false nofun not_latest_nil
  tabulated := ⟨List.nodup_nil, nofun⟩

theorem find_none (answers : provider.AnswersBy entries) :
    provider.find serviceType algorithm = none ↔ Unknown entries serviceType algorithm := by
  simp only [unknown_iff, ← answers.find, Option.eq_none_iff_forall_ne_some, ne_eq]

theorem register (answers : provider.AnswersBy entries) (serviceType algorithm : String)
    (factory : ServiceFactory ω ι) :
    (provider.register serviceType algorithm factory).AnswersBy
      (entries ++ [⟨serviceType, algorithm, factory⟩]) where
  find serviceType' algorithm' factory' := by
    have key : serviceKey serviceType algorithm = serviceKey serviceType' algorithm' ↔
        Entry.Named ⟨serviceType, algorithm, factory⟩ serviceType' algorithm' := serviceKey_eq_iff
    rw [find_register]
    split
    case isTrue same => rw [latest_concat_of_named (key.mp same), Option.some.injEq]
    case isFalse differ =>
        rw [latest_concat_of_not_named (fun named => differ (key.mpr named)), answers.find]
  tabulated := answers.tabulated.register serviceType algorithm factory

/-- A call is made on entries as it is made on the provider that answers by them. -/
theorem perform (answers : provider.AnswersBy entries) (call : Registration ω ι) (log : Log) :
    ∃ next, Registers entries call next ∧
      ((call.perform provider).run log).1.AnswersBy next := by
  cases call with
  | service serviceType algorithm factory =>
      exact ⟨_, .service serviceType algorithm factory,
        answers.register serviceType algorithm factory⟩
  | function serviceType algorithm toInstance build =>
      exact ⟨_, .function serviceType algorithm toInstance build,
        answers.register serviceType algorithm (.ofFunction toInstance build)⟩
  | nickname serviceType name algorithm =>
      show ∃ next, _ ∧
        ((provider.registerAlias serviceType name algorithm).run log).1.AnswersBy next
      unfold registerAlias
      cases found : provider.find serviceType algorithm with
      | some factory =>
          exact ⟨_, .nickname ((answers.find _ _ _).mp found),
            answers.register serviceType name factory⟩
      | none => exact ⟨entries, .ignored (answers.find_none.mp found), answers⟩

theorem performAll (answers : provider.AnswersBy entries) (calls : List (Registration ω ι))
    (log : Log) :
    ∃ last, RegistersAll entries calls last ∧
      ((Registration.performAll calls provider).run log).1.AnswersBy last := by
  induction calls generalizing provider entries log with
  | nil => exact ⟨entries, .nil entries, answers⟩
  | cons call rest ih =>
      rcases answers.perform call log with ⟨next, registers, answers⟩
      rcases ih answers ((call.perform provider).run log).2 with ⟨last, others, answers⟩
      exact ⟨last, .cons registers others, answers⟩

end AnswersBy

/-- A provider answers by the history of the calls that have filled it: the calls leave one
list of entries, a service is made by the factory of the last entry with its names, and the
algorithms that are listed are those that are found. -/
theorem answers_by_history (name : String) (calls : List (Registration ω ι)) (log : Log) :
    let provider := ((Registration.performAll calls (.empty name)).run log).1
    ∃ entries, (∀ other, RegistersAll [] calls other ↔ other = entries) ∧
      (∀ serviceType algorithm,
        provider.toProvider.findService serviceType algorithm =
            pure (provider.find serviceType algorithm) ∧
          (∀ factory, provider.find serviceType algorithm = some factory ↔
            Latest entries serviceType algorithm factory) ∧
          (provider.find serviceType algorithm = none ↔
            Unknown entries serviceType algorithm)) ∧
      ∀ serviceType, (provider.algorithms serviceType).Pairwise (· < ·) ∧
        ∀ algorithm, algorithm ∈ provider.algorithms serviceType ↔
          algorithm.map Char.toUpper = algorithm ∧
            (provider.find serviceType algorithm).isSome = true := by
  intro provider
  rcases (AnswersBy.empty name).performAll calls log with ⟨entries, registers, answers⟩
  refine ⟨entries, fun other => ⟨?_, ?_⟩, ?_, ?_⟩
  · exact fun registers' => registers'.unique registers
  · rintro rfl
    exact registers
  · intro serviceType algorithm
    exact ⟨rfl, answers.find serviceType algorithm, answers.find_none⟩
  · intro serviceType
    exact ⟨answers.tabulated.algorithms_ascending serviceType,
      fun algorithm => answers.tabulated.mem_algorithms_iff⟩

end StaticProvider

end SecureSockets
