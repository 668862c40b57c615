import SecureSockets.Proofs.Effect
import SecureSockets.Proofs.Provider.Installed
import SecureSockets.Proofs.Provider.Registrations
import SecureSockets.Provider.Resolve

namespace SecureSockets

/-!
# What editing a list changes

A service that may come from any provider comes from the first provider of the list that
offers it.  Putting a provider into the list or taking one out therefore changes what is
resolved only if the first provider changes.  A service that is asked of one provider by
name does not depend on the others at all.

Which provider is the first one is a question about a state of the application.  It has an
answer if the providers are steady: one that declines leaves the state as it is, so that
asking it in vain is not noticed by those behind it, and what anybody answers or makes does
not hang on the log, in which every provider that was asked in vain is mentioned.  How a
factory ends, and what it does to the state, is left open.
-/

open Effect

variable {ω ι : Type} {state : ω} {descriptor : ServiceDescriptor}
  {provider : Provider ω ι} {providers before after : List (Provider ω ι)}

/-! ## Asking one provider -/

namespace Provider

/-- At a state, the provider offers the service if it is asked. -/
def Offers (state : ω) (descriptor : ServiceDescriptor) (provider : Provider ω ι) : Prop :=
  ∃ factory between, (provider.findService descriptor.serviceType descriptor.algorithm).Yields
    state (some factory) between

/-- At a state, the provider either declines and leaves the state as it is, or it offers
the service.  Neither its answer nor what its factory makes hangs on the log. -/
inductive Steady (state : ω) (descriptor : ServiceDescriptor) (provider : Provider ω ι) : Prop
  where
  | declines (declines : (provider.findService descriptor.serviceType descriptor.algorithm).Yields
      state none state)
  | offers {factory : ServiceFactory ω ι} {between last : ω} {made : Except Error ι}
      (offers : (provider.findService descriptor.serviceType descriptor.algorithm).Yields
        state (some factory) between)
      (makes : factory.Yields between made last)

theorem not_offers_of_declines
    (declines : (provider.findService descriptor.serviceType descriptor.algorithm).Yields
      state none state) : ¬provider.Offers state descriptor := by
  rintro ⟨factory, between, offers⟩
  cases (declines.unique offers).1

end Provider

theorem instantiate_declined
    (declines : (provider.findService descriptor.serviceType descriptor.algorithm).Yields
      state none state) : (instantiate descriptor provider).Yields state none state :=
  .of_bind declines (.of_bind (.of_lift _ state fun _ => rfl) (.of_pure none state))

theorem instantiate_offered {factory : ServiceFactory ω ι} {between last : ω}
    {made : Except Error ι}
    (offers : (provider.findService descriptor.serviceType descriptor.algorithm).Yields
      state (some factory) between) (makes : factory.Yields between made last) :
    (instantiate descriptor provider).Yields state
      (some (made.map fun instance' => ⟨descriptor, provider, instance'⟩)) last := by
  apply Yields.of_bind offers
  apply Yields.of_bind makes
  cases made with
  | error error => exact .of_pure _ last
  | ok instance' => exact .of_bind (.of_lift _ last fun _ => rfl) (.of_pure _ last)

/-! ## The first provider that offers a service -/

open Classical in
/-- The first of some providers that offers the service.  Whether a provider offers it
need not be decidable, since nothing is known of how it answers; the choice is only spoken
of and never computed. -/
noncomputable def firstOffering (state : ω) (descriptor : ServiceDescriptor)
    (providers : List (Provider ω ι)) : Option (Provider ω ι) :=
  providers.find? fun provider => decide (provider.Offers state descriptor)

def AllSteady (state : ω) (descriptor : ServiceDescriptor) (providers : List (Provider ω ι)) :
    Prop :=
  ∀ provider ∈ providers, provider.Steady state descriptor

theorem firstOffering_eq_none_iff :
    firstOffering state descriptor providers = none ↔
      ∀ provider ∈ providers, ¬provider.Offers state descriptor := by
  simp [firstOffering]

theorem firstOffering_append :
    firstOffering state descriptor (before ++ after) =
      (firstOffering state descriptor before).or (firstOffering state descriptor after) :=
  List.find?_append

theorem firstOffering_cons_of_offers (offers : provider.Offers state descriptor) :
    firstOffering state descriptor (provider :: after) = some provider := by
  simp [firstOffering, offers]

theorem firstOffering_cons_of_not_offers (declines : ¬provider.Offers state descriptor) :
    firstOffering state descriptor (provider :: after) = firstOffering state descriptor after := by
  simp [firstOffering, declines]

theorem firstOffer_of_none (steady : AllSteady state descriptor providers)
    (nobody : firstOffering state descriptor providers = none) :
    (firstOffer descriptor providers).Yields state (.error descriptor.notOffered) state := by
  rw [firstOffering_eq_none_iff] at nobody
  induction providers with
  | nil => exact .of_pure _ state
  | cons provider rest ih =>
      rcases List.forall_mem_cons.mp steady with ⟨first, others⟩
      rcases List.forall_mem_cons.mp nobody with ⟨refuses, nobody⟩
      cases first with
      | declines declines => exact .of_bind (instantiate_declined declines) (ih others nobody)
      | offers offers _ => exact absurd ⟨_, _, offers⟩ refuses

/-- The first provider that offers the service decides, as if it had been asked alone. -/
theorem firstOffer_of_some (steady : AllSteady state descriptor providers)
    (first : firstOffering state descriptor providers = some provider) :
    AgreeAt state (firstOffer descriptor providers) (firstOffer descriptor [provider]) := by
  induction providers with
  | nil => cases first
  | cons other rest ih =>
      rcases List.forall_mem_cons.mp steady with ⟨settled, others⟩
      cases settled with
      | declines declines =>
          rw [firstOffering_cons_of_not_offers (Provider.not_offers_of_declines declines)] at first
          rcases ih others first with ⟨outcome, last, decides, alone⟩
          exact ⟨outcome, last, .of_bind (instantiate_declined declines) decides, alone⟩
      | offers offers makes =>
          rw [firstOffering_cons_of_offers ⟨_, _, offers⟩] at first
          cases first
          exact ⟨_, _, .of_bind (instantiate_offered offers makes) (.of_pure _ _),
            .of_bind (instantiate_offered offers makes) (.of_pure _ _)⟩

/-- Lists with the same first provider resolve a service alike. -/
theorem firstOffer_agree {others : List (Provider ω ι)}
    (steady : AllSteady state descriptor providers) (steady' : AllSteady state descriptor others)
    (same : firstOffering state descriptor providers = firstOffering state descriptor others) :
    AgreeAt state (firstOffer descriptor providers) (firstOffer descriptor others) := by
  cases first : firstOffering state descriptor providers with
  | none =>
      exact ⟨_, _, firstOffer_of_none steady first, firstOffer_of_none steady' (same ▸ first)⟩
  | some provider =>
      exact (firstOffer_of_some steady first).trans (firstOffer_of_some steady' (same ▸ first)).symm

/-! ## Edited lists -/

/-- The request puts the provider with the name into the list, or takes it out. -/
def ProviderRequest.Concerns (name : String) : ProviderRequest ω ι → Prop
  | .add provider => provider.name = name
  | .insertAt provider _ => provider.name = name
  | .remove removed => removed = name
  | _ => False

namespace ProviderList

variable {list : ProviderList ω ι} {name : String}

def fromAny (list : ProviderList ω ι) (descriptor : ServiceDescriptor) :
    Effect ω (Except Error (ResolvedService ω ι)) :=
  resolve list.registry descriptor.serviceType (some descriptor.algorithm) .any

/-- Resolves a service from one provider, whether it is in the list or not. -/
def fromOnly (list : ProviderList ω ι) (descriptor : ServiceDescriptor)
    (provider : Provider ω ι) : Effect ω (Except Error (ResolvedService ω ι)) :=
  resolve list.registry descriptor.serviceType (some descriptor.algorithm)
    (.byReference (some provider))

theorem fromAny_eq : list.fromAny descriptor = firstOffer descriptor list.providers := rfl

theorem insertAt_of_fresh (fresh : list.contains provider.name = false) (position : Nat) :
    list.insertAt provider position =
      (true, ⟨list.providers.take position ++ provider :: list.providers.drop position⟩) := by
  simp [insertAt, fresh]

theorem add_eq_insertAt (list : ProviderList ω ι) (provider : Provider ω ι) :
    list.add provider = list.insertAt provider list.size := by
  simp [add, insertAt, size]

theorem find_insert (differ : provider.name ≠ name) :
    (⟨before ++ provider :: after⟩ : ProviderList ω ι).find name =
      (⟨before ++ after⟩ : ProviderList ω ι).find name := by
  simp [find, differ]

/-- The provider with a name is found as before when another one is put in or taken out. -/
theorem find_serve {request : ProviderRequest ω ι} (other : ¬request.Concerns name) :
    (list.serve request).2.find name = list.find name := by
  have insertAt_other (provider : Provider ω ι) (position : Nat) (differ : provider.name ≠ name) :
      (list.insertAt provider position).2.find name = list.find name := by
    unfold insertAt
    split
    case isTrue taken => rfl
    case isFalse fresh => rw [find_insert differ, List.take_append_drop]
  cases request with
  | add provider =>
      show (list.add provider).2.find name = list.find name
      rw [add_eq_insertAt]
      exact insertAt_other provider list.size other
  | insertAt provider position => exact insertAt_other provider position other
  | remove removed =>
      have taken := List.exists_or_eq_self_of_eraseP (fun provider => provider.name == removed)
        list.providers
      rcases taken with same | ⟨provider, before, after, -, named, split, rest⟩
      · show (⟨list.providers.eraseP _⟩ : ProviderList ω ι).find name = list.find name
        rw [same]
      · have differ : provider.name ≠ name := by
          rw [beq_iff_eq.mp named]
          exact other
        show (⟨list.providers.eraseP _⟩ : ProviderList ω ι).find name =
          (⟨list.providers⟩ : ProviderList ω ι).find name
        rw [rest, split, find_insert differ]
  | listProviders => rfl
  | find looked => rfl
  | snapshot => rfl

/-- What editing a list does to the resolution of a service that may come from any
provider.  Each part compares two resolutions at the same state, and not what they log. -/
structure EditLaw (list : ProviderList ω ι) (state : ω) (descriptor : ServiceDescriptor) :
    Prop where
  /-- A new provider decides if it offers the service and nobody before its place does. -/
  inserted_first : ∀ provider position, provider.Steady state descriptor ->
    list.contains provider.name = false -> provider.Offers state descriptor ->
    firstOffering state descriptor (list.providers.take position) = none ->
    AgreeAt state ((list.insertAt provider position).2.fromAny descriptor)
      (list.fromOnly descriptor provider)
  /-- Otherwise a new provider changes nothing. -/
  inserted_behind : ∀ provider position, provider.Steady state descriptor ->
    list.contains provider.name = false ->
    ¬(provider.Offers state descriptor ∧
      firstOffering state descriptor (list.providers.take position) = none) ->
    AgreeAt state ((list.insertAt provider position).2.fromAny descriptor)
      (list.fromAny descriptor)
  added : ∀ provider, list.add provider = list.insertAt provider list.size
  /-- A provider at the end matters only if nobody offered the service before. -/
  added_behind : ∀ provider, provider.Steady state descriptor ->
    ¬(list.fromAny descriptor).Yields state (.error descriptor.notOffered) state ->
    AgreeAt state ((list.add provider).2.fromAny descriptor) (list.fromAny descriptor)
  removed : ∀ provider ∈ list.providers, (list.remove provider.name).1 = some provider
  /-- A provider that did not decide is not missed. -/
  removed_other : ∀ provider ∈ list.providers,
    firstOffering state descriptor list.providers ≠ some provider ->
    AgreeAt state ((list.remove provider.name).2.fromAny descriptor) (list.fromAny descriptor)
  /-- When the provider that decided is gone, the next one that offers the service decides. -/
  removed_first : ∀ before provider after, list.providers = before ++ provider :: after ->
    firstOffering state descriptor list.providers = some provider ->
    (∀ next, firstOffering state descriptor after = some next ->
      AgreeAt state ((list.remove provider.name).2.fromAny descriptor)
        (list.fromOnly descriptor next)) ∧
    (firstOffering state descriptor after = none ->
      ((list.remove provider.name).2.fromAny descriptor).Yields state
        (.error descriptor.notOffered) state)

theorem allSteady_insert (steady : AllSteady state descriptor (before ++ after))
    (settled : provider.Steady state descriptor) :
    AllSteady state descriptor (before ++ provider :: after) := by
  intro other within
  rcases List.mem_append.mp within with early | late
  · exact steady other (List.mem_append_left after early)
  · rcases List.mem_cons.mp late with rfl | late
    · exact settled
    · exact steady other (List.mem_append_right before late)

theorem allSteady_of_insert (steady : AllSteady state descriptor (before ++ provider :: after)) :
    AllSteady state descriptor (before ++ after) :=
  fun other within => steady other (List.mem_append.mpr
    ((List.mem_append.mp within).imp_right (List.mem_cons_of_mem provider)))

theorem firstOffering_insert_first (offers : provider.Offers state descriptor)
    (nobody : firstOffering state descriptor before = none) :
    firstOffering state descriptor (before ++ provider :: after) = some provider := by
  rw [firstOffering_append, nobody, firstOffering_cons_of_offers offers, Option.none_or]

/-- A provider that declines, or that stands behind one that offers the service, does not
matter. -/
theorem firstOffering_insert_behind
    (behind : ¬(provider.Offers state descriptor ∧ firstOffering state descriptor before = none)) :
    firstOffering state descriptor (before ++ provider :: after) =
      firstOffering state descriptor (before ++ after) := by
  rw [firstOffering_append, firstOffering_append]
  cases first : firstOffering state descriptor before with
  | some other => rfl
  | none =>
      have declines : ¬provider.Offers state descriptor := fun offers => behind ⟨offers, first⟩
      rw [firstOffering_cons_of_not_offers declines]

/-- With names apart, nobody before the provider that decides offers the service. -/
theorem firstOffering_before (differ : NamesDiffer (before ++ provider :: after))
    (first : firstOffering state descriptor (before ++ provider :: after) = some provider) :
    firstOffering state descriptor before = none := by
  rw [firstOffering_append] at first
  cases early : firstOffering state descriptor before with
  | none => rfl
  | some other =>
      rw [early] at first
      cases first
      have within : provider ∈ before ++ after :=
        List.mem_append_left after (List.mem_of_find?_eq_some early)
      exact absurd rfl ((namesDiffer_insert_iff.mp differ).2 provider within)

theorem editLaw (differ : NamesDiffer list.providers)
    (steady : AllSteady state descriptor list.providers) : list.EditLaw state descriptor := by
  have whole (position : Nat) : AllSteady state descriptor
      (list.providers.take position ++ list.providers.drop position) := by
    rwa [List.take_append_drop]
  have behind (provider : Provider ω ι) (position : Nat)
      (settled : provider.Steady state descriptor) (fresh : list.contains provider.name = false)
      (behind : ¬(provider.Offers state descriptor ∧
        firstOffering state descriptor (list.providers.take position) = none)) :
      AgreeAt state ((list.insertAt provider position).2.fromAny descriptor)
        (list.fromAny descriptor) := by
    rw [insertAt_of_fresh fresh, fromAny_eq, fromAny_eq]
    apply firstOffer_agree (allSteady_insert (whole position) settled) steady
    rw [firstOffering_insert_behind behind, List.take_append_drop]
  constructor
  case inserted_first =>
    intro provider position settled fresh offers nobody
    rw [insertAt_of_fresh fresh]
    exact firstOffer_of_some (allSteady_insert (whole position) settled)
      (firstOffering_insert_first offers nobody)
  case inserted_behind => exact behind
  case added => exact list.add_eq_insertAt
  case added_behind =>
    intro provider settled offered
    rw [add_eq_insertAt]
    cases fresh : list.contains provider.name with
    | true =>
        have refused : list.insertAt provider list.size = (false, list) := by
          simp [insertAt, fresh]
        rw [refused]
        exact firstOffer_agree steady steady rfl
    | false =>
        apply behind provider list.size settled fresh
        rintro ⟨-, nobody⟩
        rw [size, List.take_length] at nobody
        exact offered (firstOffer_of_none steady nobody)
  case removed =>
    intro provider within
    rcases differ.exists_split within with ⟨before, after, split, only⟩
    rw [remove_of_split split only.of_append]
  case removed_other =>
    intro provider within other
    rcases differ.exists_split within with ⟨before, after, split, only⟩
    rw [remove_of_split split only.of_append, fromAny_eq, fromAny_eq]
    rw [split] at steady other
    rw [split]
    apply firstOffer_agree (allSteady_of_insert steady) steady
    refine (firstOffering_insert_behind ?_).symm
    rintro ⟨offers, nobody⟩
    exact other (firstOffering_insert_first offers nobody)
  case removed_first =>
    intro before provider after split first
    rw [split] at differ steady first
    have only := (namesDiffer_insert_iff.mp differ).2
    have left : firstOffering state descriptor (before ++ after) =
        firstOffering state descriptor after := by
      rw [firstOffering_append, firstOffering_before differ first, Option.none_or]
    rw [remove_of_split split only.of_append]
    constructor
    · intro next follows
      exact firstOffer_of_some (allSteady_of_insert steady) (left.trans follows)
    · intro nobody
      exact firstOffer_of_none (allSteady_of_insert steady) (left.trans nobody)

/-- Editing a list of providers changes what is resolved only where the first provider that
offers the service changes, and by name only where the name's own provider does. -/
theorem resolution_after_edits (differ : NamesDiffer list.providers)
    (steady : AllSteady state descriptor list.providers) :
    list.EditLaw state descriptor ∧
      (∀ provider ∈ list.providers, ∀ serviceType algorithm,
        resolve list.registry serviceType algorithm (.byName (some provider.name)) =
          resolve list.registry serviceType algorithm (.byReference (some provider))) ∧
      ∀ name (request : ProviderRequest ω ι), ¬request.Concerns name ->
        ∀ serviceType algorithm,
          resolve (list.serve request).2.registry serviceType algorithm (.byName (some name)) =
            resolve list.registry serviceType algorithm (.byName (some name)) := by
  refine ⟨editLaw differ steady, ?_, ?_⟩
  · intro provider within serviceType algorithm
    have found : list.find provider.name = some provider :=
      (find_eq_some_iff differ).mpr ⟨within, rfl⟩
    cases algorithm with
    | none => rfl
    | some algorithm =>
        show (pure (list.find provider.name) >>= _ : Effect ω _) = _
        rw [found]
        rfl
  · intro name request other serviceType algorithm
    cases algorithm with
    | none => rfl
    | some algorithm =>
        show (pure ((list.serve request).2.find name) >>= _ : Effect ω _) = _
        rw [find_serve other]
        rfl

end ProviderList

/-! ## Providers with fixed services -/

namespace StaticProvider

variable {static : StaticProvider ω ι}

theorem findService_yields (state : ω) (serviceType algorithm : String) :
    (static.toProvider.findService serviceType algorithm).Yields state
      (static.find serviceType algorithm) state :=
  .of_pure _ state

/-- A provider with fixed services is steady if what its factories make does not hang on the
log. -/
theorem steady
    (makes : ∀ factory, static.find descriptor.serviceType descriptor.algorithm = some factory ->
      ∃ made last, factory.Yields state made last) :
    static.toProvider.Steady state descriptor := by
  have asked := static.findService_yields state descriptor.serviceType descriptor.algorithm
  cases found : static.find descriptor.serviceType descriptor.algorithm with
  | none => exact .declines (found ▸ asked)
  | some factory =>
      rcases makes factory found with ⟨made, last, makes⟩
      exact .offers (found ▸ asked) makes

end StaticProvider

namespace ProviderList

def countedCall (made : Except Error String) : Effect Nat (Except Error String) := do
  modify (· + 1)
  pure made

/-- A provider of one context, which counts how often it is asked for an instance. -/
def counting (name algorithm : String) (made : Except Error String) :
    StaticProvider Nat String :=
  (StaticProvider.empty name).register "SSLContext" algorithm (countedCall made)

theorem counting_steady (name algorithm : String) (made : Except Error String) (calls : Nat) :
    (counting name algorithm made).toProvider.Steady calls descriptor := by
  apply StaticProvider.steady
  intro factory found
  rw [counting, StaticProvider.find_register] at found
  split at found
  case isTrue =>
      cases found
      exact ⟨made, calls + 1, .of_bind (.of_modify (· + 1) calls) (.of_pure made _)⟩
  case isFalse => cases found

theorem counting_offers (name algorithm : String) (made : Except Error String) (calls : Nat) :
    (counting name algorithm made).toProvider.Offers calls ⟨"SSLContext", algorithm⟩ := by
  have asked := (counting name algorithm made).findService_yields calls "SSLContext" algorithm
  rw [counting, StaticProvider.find_register, if_pos rfl] at asked
  exact ⟨_, _, asked⟩

/-- A provider that fails to make an instance is overtaken by a new one before it, but not by
a new one behind it, and when it is taken out the next one decides. -/
theorem edits_around_failure :
    let tls : ServiceDescriptor := ⟨"SSLContext", "TLS"⟩
    let idle : Provider Nat String := (StaticProvider.empty "Idle").toProvider
    let failing := (counting "Failing" "TLS" (.error (.constructionFailure "entropy"))).toProvider
    let spare := (counting "Spare" "TLS" (.ok "spare")).toProvider
    let fresh := (counting "Fresh" "TLS" (.ok "fresh")).toProvider
    let list : ProviderList Nat String := ⟨[idle, failing, spare]⟩
    NamesDiffer list.providers ∧ AllSteady 0 tls list.providers ∧
      AgreeAt 0 ((list.insertAt fresh 1).2.fromAny tls) (list.fromOnly tls fresh) ∧
      AgreeAt 0 ((list.insertAt fresh 2).2.fromAny tls) (list.fromAny tls) ∧
      AgreeAt 0 ((list.remove "Failing").2.fromAny tls) (list.fromOnly tls spare) := by
  intro tls idle failing spare fresh list
  have differ : NamesDiffer list.providers := by
    show ["Idle", "Failing", "Spare"].Nodup
    decide
  have steady : AllSteady 0 tls list.providers := by
    have steady_idle : idle.Steady 0 tls := .declines (.of_pure none 0)
    simp only [AllSteady, list, List.forall_mem_cons]
    exact ⟨steady_idle, counting_steady _ _ _ 0, counting_steady _ _ _ 0, nofun⟩
  have idles : ¬idle.Offers 0 tls := Provider.not_offers_of_declines (.of_pure none 0)
  have fails : firstOffering 0 tls [failing, spare] = some failing :=
    firstOffering_cons_of_offers (counting_offers _ _ _ 0)
  have law := (resolution_after_edits differ steady).1
  refine ⟨differ, steady, ?_, ?_, ?_⟩
  · refine law.inserted_first fresh 1 (counting_steady _ _ _ 0) (by decide)
      (counting_offers _ _ _ 0) ?_
    exact firstOffering_cons_of_not_offers idles
  · refine law.inserted_behind fresh 2 (counting_steady _ _ _ 0) (by decide) ?_
    rintro ⟨-, nobody⟩
    have fails : firstOffering 0 tls [idle, failing] = some failing := by
      rw [firstOffering_cons_of_not_offers idles]
      exact firstOffering_cons_of_offers (counting_offers _ _ _ 0)
    exact absurd (fails.symm.trans nobody) (by simp)
  · refine (law.removed_first [idle] failing [spare] rfl ?_).1 spare ?_
    · show firstOffering 0 tls [idle, failing, spare] = some failing
      rw [firstOffering_cons_of_not_offers idles, fails]
    · exact firstOffering_cons_of_offers (counting_offers _ _ _ 0)

end ProviderList

end SecureSockets
