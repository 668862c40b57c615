import SecureSockets.Context.ManagerFactory
import SecureSockets.Context.SecurityContext
import SecureSockets.Proofs.Provider.Resolution

namespace SecureSockets

/-!
# Facades

A facade asks for a service of one type and expects its instance to be of one kind.  It adds
nothing to the resolution but this expectation: a failure is passed on as it is, an instance
of the expected kind is handed out together with the provider and the algorithm, and an
instance of another kind is the fault of the provider that was chosen.  That provider has
been chosen for good, so nobody behind it is asked whether it could do better.

Services of other types are out of sight.  Whatever the providers of a registry are made to
answer for them, a facade gives the same answers and leaves the same world.
-/

open Effect

/-! ## Other answers for other types -/

section Answering

variable {ω ι : Type}
  (others : Provider ω ι -> String -> String -> Effect ω (Option (ServiceFactory ω ι)))
  (serviceType : String)

/-- The provider with other answers to whoever asks for services of another type.  What a
facade makes of such a provider shows whether it ever asks for those. -/
def Provider.answering (provider : Provider ω ι) : Provider ω ι where
  name := provider.name
  findService asked algorithm :=
    if asked = serviceType then provider.findService asked algorithm
    else others provider asked algorithm

def Registry.answering (registry : Registry ω ι) : Registry ω ι where
  listProviders := List.map (Provider.answering others serviceType) <$> registry.listProviders
  findProvider name :=
    Option.map (Provider.answering others serviceType) <$> registry.findProvider name

def Selector.answering : Selector ω ι → Selector ω ι
  | any => any
  | byName name => byName name
  | byReference provider => byReference (provider.map (Provider.answering others serviceType))

def ResolvedService.answering (service : ResolvedService ω ι) : ResolvedService ω ι :=
  { service with provider := service.provider.answering others serviceType }

theorem instantiate_answering (algorithm : String) (provider : Provider ω ι) :
    instantiate ⟨serviceType, algorithm⟩ (provider.answering others serviceType) =
      Option.map (Except.map (ResolvedService.answering others serviceType)) <$>
        instantiate ⟨serviceType, algorithm⟩ provider := by
  unfold instantiate
  simp only [Provider.answering, if_true, map_bind]
  refine bind_congr fun found => ?_
  cases found with
  | none => simp
  | some factory =>
      simp only [map_bind]
      refine bind_congr fun made => ?_
      cases made with
      | error error => rfl
      | ok made => rfl

theorem firstOffer_answering (algorithm : String) (candidates : List (Provider ω ι)) :
    firstOffer ⟨serviceType, algorithm⟩ (candidates.map (Provider.answering others serviceType)) =
      Except.map (ResolvedService.answering others serviceType) <$>
        firstOffer ⟨serviceType, algorithm⟩ candidates := by
  induction candidates with
  | nil => rfl
  | cons provider rest ih =>
      simp only [List.map_cons, firstOffer, instantiate_answering, bind_map_left, map_bind]
      refine bind_congr fun answer => ?_
      cases answer with
      | none => exact ih
      | some outcome => rfl

/-- Services of other types have no part in a resolution. -/
theorem resolve_answering (registry : Registry ω ι) (algorithm : Option String)
    (selector : Selector ω ι) :
    resolve (registry.answering others serviceType) serviceType algorithm
        (selector.answering others serviceType) =
      Except.map (ResolvedService.answering others serviceType) <$>
        resolve registry serviceType algorithm selector := by
  cases algorithm with
  | none => rfl
  | some algorithm =>
      cases selector with
      | any =>
          simp only [resolve, Selector.answering, Registry.answering, bind_map_left, map_bind,
            firstOffer_answering]
      | byName name =>
          cases name with
          | none => rfl
          | some name =>
              simp only [resolve, Selector.answering, Registry.answering, bind_map_left, map_bind]
              refine bind_congr fun found => ?_
              cases found with
              | none => rfl
              | some provider => exact firstOffer_answering others serviceType algorithm [provider]
      | byReference provider =>
          cases provider with
          | none => rfl
          | some provider => exact firstOffer_answering others serviceType algorithm [provider]

end Answering

/-! ## Resolutions -/

section Resolutions

variable {ω ι : Type} {registry : Registry ω ι} {serviceType : String}
  {selector : Selector ω ι} {world between last : World ω}

theorem resolve_of_decided {algorithm : String} {candidates : List (Provider ω ι)}
    {outcome : Except Error (ResolvedService ω ι)}
    (chosen : Candidates registry selector world candidates between)
    (decides : Decided ⟨serviceType, algorithm⟩ candidates between outcome last) :
    (resolve registry serviceType (some algorithm) selector).Answers world outcome last := by
  have law : Resolution registry serviceType (some algorithm) selector world outcome last :=
    .decided chosen decides
  cases chosen with
  | any => exact resolve_any_iff.mpr law
  | byName => exact resolve_byName_iff.mpr law
  | byReference => exact resolve_byReference_iff.mpr law

/-- A service that was resolved is described in the words in which it was asked for. -/
theorem descriptor_of_resolve {algorithm : Option String} {service : ResolvedService ω ι}
    (resolves : (resolve registry serviceType algorithm selector).Answers world (.ok service)
      last) :
    ∃ asked, algorithm = some asked ∧ service.descriptor = ⟨serviceType, asked⟩ := by
  have law : Resolution registry serviceType algorithm selector world (.ok service) last := by
    cases algorithm with
    | none => exact resolve_noAlgorithm_iff.mp resolves
    | some algorithm =>
        cases selector with
        | any => exact resolve_any_iff.mp resolves
        | byName name => exact resolve_byName_iff.mp resolves
        | byReference provider => exact resolve_byReference_iff.mp resolves
  cases law with
  | decided chosen decides =>
      cases decides with
      | first split declined made =>
          cases made
          exact ⟨_, rfl, rfl⟩

end Resolutions

/-! ## The law of facades -/

section Facades

variable {P : Platform} {β γ : Type}

/-- The fault of a provider whose instance is of another kind than its service type
says. -/
def unexpectedInstance (provider : P.Provider) (descriptor : ServiceDescriptor) : Error :=
  .invalidArgument ("provider " ++ provider.name ++ " registered " ++ descriptor.render ++
    " with an unexpected instance type")

/-- What a facade makes of a resolution.  The instance is looked at by `view`, and handed
out by `wrap` with its provider and the algorithm as it was asked for. -/
inductive Viewed (serviceType : String) (view : ServiceInstance P -> Option β)
    (wrap : β -> P.Provider -> String -> γ) :
    Option String -> Except Error (ResolvedService P.State (ServiceInstance P)) ->
      Except Error γ -> Prop where
  | failed (algorithm : Option String) (error : Error) :
      Viewed serviceType view wrap algorithm (.error error) (.error error)
  | expected {service : ResolvedService P.State (ServiceInstance P)} {value : β}
      (algorithm : String) (fits : view service.instance' = some value) :
      Viewed serviceType view wrap (some algorithm) (.ok service)
        (.ok (wrap value service.provider algorithm))
  | unexpected {service : ResolvedService P.State (ServiceInstance P)}
      (algorithm : String) (misfits : view service.instance' = none) :
      Viewed serviceType view wrap (some algorithm) (.ok service)
        (.error (unexpectedInstance service.provider ⟨serviceType, algorithm⟩))

/-- The law of a facade for services of one type, whose instances are of one kind.  It is
stated for any view and any wrapping, and all three facades are cases of it. -/
structure FacadeLaw
    (facade : P.Registry -> Option String -> P.Selector -> Effect P.State (Except Error γ))
    (serviceType : String) (view : ServiceInstance P -> Option β)
    (wrap : β -> P.Provider -> String -> γ) : Prop where
  /-- A facade resolves the service, and then looks at the instance. -/
  resolves : ∀ registry algorithm selector world outcome last,
    (facade registry algorithm selector).Answers world outcome last ↔
      ∃ resolved,
        (resolve registry serviceType algorithm selector).Answers world resolved last ∧
          Viewed serviceType view wrap algorithm resolved outcome
  /-- An unexpected instance ends the search, whoever stands behind its provider. -/
  stops : ∀ registry algorithm selector before provider after instance' world asked passed last,
    Candidates registry selector world (before ++ provider :: after) asked ->
    Declined ⟨serviceType, algorithm⟩ before asked passed ->
    Made ⟨serviceType, algorithm⟩ provider passed
      (.ok ⟨⟨serviceType, algorithm⟩, provider, instance'⟩) last ->
    view instance' = none ->
    (facade registry (some algorithm) selector).Answers world
      (.error (unexpectedInstance provider ⟨serviceType, algorithm⟩)) last
  /-- What is answered for services of other types is never asked. -/
  ignores : ∀ others registry algorithm selector world outcome last,
    (facade (registry.answering others serviceType) algorithm
        (selector.answering others serviceType)).Answers world outcome last ↔
      ∃ resolved,
        (resolve registry serviceType algorithm selector).Answers world resolved last ∧
          Viewed serviceType view
            (fun value provider => wrap value (provider.answering others serviceType))
            algorithm resolved outcome

def typedResolve (serviceType : String) (view : ServiceInstance P -> Option β)
    (wrap : β -> P.Provider -> String -> γ) (registry : P.Registry) (algorithm : Option String)
    (selector : P.Selector) : Effect P.State (Except Error γ) := do
  match ← resolve registry serviceType algorithm selector with
  | .error error => pure (.error error)
  | .ok service =>
    pure ((service.intoParts view).map fun (value, provider, algorithm) =>
      wrap value provider algorithm)

variable {serviceType : String} {view : ServiceInstance P -> Option β}
  {wrap : β -> P.Provider -> String -> γ}

section TypedResolve

variable {registry : P.Registry} {algorithm : Option String} {selector : P.Selector}
  {world last : World P.State}
  {resolved : Except Error (ResolvedService P.State (ServiceInstance P))}

theorem Viewed.unique {outcome outcome' : Except Error γ}
    (first : Viewed serviceType view wrap algorithm resolved outcome)
    (second : Viewed serviceType view wrap algorithm resolved outcome') : outcome = outcome' := by
  cases first with
  | failed => cases second; rfl
  | expected algorithm fits =>
      cases second with
      | expected _ fits' => cases fits.symm.trans fits'; rfl
      | unexpected _ misfits => cases fits.symm.trans misfits
  | unexpected algorithm misfits =>
      cases second with
      | expected _ fits => cases fits.symm.trans misfits
      | unexpected => rfl

/-- The parts of a service show what it was asked for by, if its descriptor does. -/
theorem viewed_of_intoParts {service : ResolvedService P.State (ServiceInstance P)}
    {asked : String} (described : service.descriptor = ⟨serviceType, asked⟩) :
    Viewed serviceType view wrap (some asked) (.ok service)
      ((service.intoParts view).map fun (value, provider, algorithm) =>
        wrap value provider algorithm) := by
  cases looked : view service.instance' with
  | some value =>
      have parts : service.intoParts view = .ok (value, service.provider, asked) := by
        rw [ResolvedService.intoParts, looked, described]
      rw [parts]
      exact .expected asked looked
  | none =>
      have parts : service.intoParts view =
          .error (unexpectedInstance service.provider ⟨serviceType, asked⟩) := by
        rw [ResolvedService.intoParts, looked, described]
        rfl
      rw [parts]
      exact .unexpected asked looked

theorem typedResolve_viewed
    (resolves : (resolve registry serviceType algorithm selector).Answers world resolved last) :
    ∃ outcome, Viewed serviceType view wrap algorithm resolved outcome ∧
      (typedResolve serviceType view wrap registry algorithm selector).Answers
        world outcome last := by
  cases resolved with
  | error error =>
      exact ⟨_, .failed algorithm error, bind_iff.mpr ⟨_, _, resolves, pure_iff.mpr ⟨rfl, rfl⟩⟩⟩
  | ok service =>
      rcases descriptor_of_resolve resolves with ⟨asked, rfl, described⟩
      exact ⟨_, viewed_of_intoParts described,
        bind_iff.mpr ⟨_, _, resolves, pure_iff.mpr ⟨rfl, rfl⟩⟩⟩

theorem typedResolve_iff {outcome : Except Error γ} :
    (typedResolve serviceType view wrap registry algorithm selector).Answers world outcome last ↔
      ∃ resolved,
        (resolve registry serviceType algorithm selector).Answers world resolved last ∧
          Viewed serviceType view wrap algorithm resolved outcome := by
  constructor
  · intro answers
    rcases exists_answer (resolve registry serviceType algorithm selector) world with
      ⟨resolved, last', resolves⟩
    rcases typedResolve_viewed resolves with ⟨outcome', viewed, answers'⟩
    rcases answers.unique answers' with ⟨rfl, rfl⟩
    exact ⟨resolved, resolves, viewed⟩
  · rintro ⟨resolved, resolves, viewed⟩
    rcases typedResolve_viewed resolves with ⟨outcome', viewed', answers⟩
    rwa [viewed.unique viewed']

theorem typedResolve_answering
    (others : P.Provider -> String -> String ->
      Effect P.State (Option (ServiceFactory P.State (ServiceInstance P)))) :
    typedResolve serviceType view wrap (registry.answering others serviceType) algorithm
        (selector.answering others serviceType) =
      typedResolve serviceType view
        (fun value provider => wrap value (provider.answering others serviceType))
        registry algorithm selector := by
  unfold typedResolve
  rw [resolve_answering, bind_map_left]
  refine bind_congr fun resolved => ?_
  cases resolved with
  | error error => rfl
  | ok service =>
      simp only [Except.map, ResolvedService.answering, ResolvedService.intoParts]
      cases view service.instance' with
      | some value => rfl
      | none => rfl

end TypedResolve

theorem typedResolve_law :
    FacadeLaw (typedResolve serviceType view wrap) serviceType view wrap where
  resolves _ _ _ _ _ _ := typedResolve_iff
  stops _ _ _ _ _ _ _ _ _ _ _ chosen declined made misfits :=
    typedResolve_iff.mpr ⟨_, resolve_of_decided chosen (.first rfl declined made),
      .unexpected _ misfits⟩
  ignores others _ _ _ _ _ _ := by
    rw [typedResolve_answering others]
    exact typedResolve_iff

/-- Contexts, factories of key managers and factories of trust managers are resolved under
their own service types, and as nothing else. -/
theorem facades_follow_resolution (P : Platform) :
    FacadeLaw (P := P) SecurityContext.resolve "SSLContext"
        ServiceInstance.asContext? SecurityContext.mk ∧
      FacadeLaw (P := P) (ManagerFactory.resolve .key) "KeyManagerFactory"
        ServiceInstance.asManagerFactory? (ManagerFactory.mk .key) ∧
      FacadeLaw (P := P) (ManagerFactory.resolve .trust) "TrustManagerFactory"
        ServiceInstance.asManagerFactory? (ManagerFactory.mk .trust) :=
  ⟨typedResolve_law, typedResolve_law, typedResolve_law⟩

end Facades

end SecureSockets
