import SecureSockets.Proofs.Effect
import SecureSockets.Provider.Resolve

namespace SecureSockets

/-!
# Who decides a resolution

Providers and registries belong to the application, so that asking one of them may change
what the next one answers.  The law of resolution is therefore stated along the way of a
world: the candidates are asked in their order, each in the world that the one before has
left, and the first one that offers the service decides for good.

Arguments that are missing are noticed before anything is asked, so they leave the world
as it is.
-/

open Effect

section Resolution

variable {ω ι : Type} {world world' : World ω}

/-! ## Candidates -/

/-- Some providers are asked in turn, and none of them offers the service.  Each is asked
in the world that the one before has left, and being asked in vain is logged. -/
inductive Declined (descriptor : ServiceDescriptor) :
    List (Provider ω ι) -> World ω -> World ω -> Prop where
  | nobody (world : World ω) : Declined descriptor [] world world
  | asked {provider : Provider ω ι} {rest : List (Provider ω ι)} {world between last : World ω}
      (declines : (provider.findService descriptor.serviceType descriptor.algorithm).Answers
        world none between)
      (others : Declined descriptor rest
        (logged between .trace
          ("Provider " ++ provider.name ++ " does not offer " ++ descriptor.render)) last) :
      Declined descriptor (provider :: rest) world last

/-- A provider makes the instance of a service, or fails to; a success is logged. -/
inductive Made (descriptor : ServiceDescriptor) (provider : Provider ω ι) :
    World ω -> Except Error (ResolvedService ω ι) -> World ω -> Prop where
  | failure {factory : ServiceFactory ω ι} {world between last : World ω} {error : Error}
      (offers : (provider.findService descriptor.serviceType descriptor.algorithm).Answers
        world (some factory) between)
      (fails : factory.Answers between (.error error) last) :
      Made descriptor provider world (.error error) last
  | success {factory : ServiceFactory ω ι} {world between last : World ω} {made : ι}
      (offers : (provider.findService descriptor.serviceType descriptor.algorithm).Answers
        world (some factory) between)
      (makes : factory.Answers between (.ok made) last) :
      Made descriptor provider world (.ok ⟨descriptor, provider, made⟩)
        (logged last .debug
          ("Resolved " ++ descriptor.render ++ " from provider " ++ provider.name))

/-- The outcome of asking some candidates: that of the first one that offers the service,
after all before it have declined, and none of those behind it is asked. -/
inductive Decided (descriptor : ServiceDescriptor) (candidates : List (Provider ω ι)) :
    World ω -> Except Error (ResolvedService ω ι) -> World ω -> Prop where
  | nobody {world last : World ω} (declined : Declined descriptor candidates world last) :
      Decided descriptor candidates world
        (.error (.noSuchAlgorithm descriptor.serviceType descriptor.algorithm)) last
  | first {before after : List (Provider ω ι)} {provider : Provider ω ι}
      {world between last : World ω} {outcome : Except Error (ResolvedService ω ι)}
      (split : candidates = before ++ provider :: after)
      (declined : Declined descriptor before world between)
      (made : Made descriptor provider between outcome last) :
      Decided descriptor candidates world outcome last

/-- The providers that a selector stands for.  Finding them may itself act on the world,
since registries belong to the application. -/
inductive Candidates (registry : Registry ω ι) :
    Selector ω ι -> World ω -> List (Provider ω ι) -> World ω -> Prop where
  | any {world between : World ω} {providers : List (Provider ω ι)}
      (lists : registry.listProviders.Answers world providers between) :
      Candidates registry .any world providers between
  | byName {name : String} {provider : Provider ω ι} {world between : World ω}
      (finds : (registry.findProvider name).Answers world (some provider) between) :
      Candidates registry (.byName (some name)) world [provider] between
  | byReference (provider : Provider ω ι) (world : World ω) :
      Candidates registry (.byReference (some provider)) world [provider] world

/-- The law of resolution, with one case for each way in which it can end. -/
inductive Resolution (registry : Registry ω ι) (serviceType : String) :
    Option String -> Selector ω ι -> World ω -> Except Error (ResolvedService ω ι) ->
      World ω -> Prop where
  | noAlgorithm (selector : Selector ω ι) (world : World ω) :
      Resolution registry serviceType none selector world (.error (.nullArgument "algorithm")) world
  | noName (algorithm : String) (world : World ω) :
      Resolution registry serviceType (some algorithm) (.byName none) world
        (.error (.nullArgument "provider name")) world
  | noReference (algorithm : String) (world : World ω) :
      Resolution registry serviceType (some algorithm) (.byReference none) world
        (.error (.invalidArgument "provider must be present")) world
  | noProvider {algorithm name : String} {world last : World ω}
      (missing : (registry.findProvider name).Answers world none last) :
      Resolution registry serviceType (some algorithm) (.byName (some name)) world
        (.error (.noSuchProvider name)) last
  | decided {algorithm : String} {selector : Selector ω ι} {candidates : List (Provider ω ι)}
      {world between last : World ω} {outcome : Except Error (ResolvedService ω ι)}
      (chosen : Candidates registry selector world candidates between)
      (decides : Decided ⟨serviceType, algorithm⟩ candidates between outcome last) :
      Resolution registry serviceType (some algorithm) selector world outcome last

/-! ## One provider -/

/-- Asking one provider gives no answer exactly if the provider declines. -/
theorem instantiate_none_iff {descriptor : ServiceDescriptor} {provider : Provider ω ι} :
    (instantiate descriptor provider).Answers world none world' ↔
      ∃ between, (provider.findService descriptor.serviceType descriptor.algorithm).Answers
          world none between ∧
        world' = logged between .trace
          ("Provider " ++ provider.name ++ " does not offer " ++ descriptor.render) := by
  unfold instantiate
  rw [bind_iff]
  constructor
  · rintro ⟨found, between, asked, behind⟩
    cases found with
    | none =>
        rcases bind_iff.mp behind with ⟨_, written, writes, done⟩
        rcases pure_iff.mp done with ⟨-, rfl⟩
        exact ⟨between, asked, writeLog_iff.mp writes⟩
    | some factory =>
        rcases bind_iff.mp behind with ⟨made, _, _, done⟩
        cases made with
        | error error => cases (pure_iff.mp done).1
        | ok made =>
            rcases bind_iff.mp done with ⟨_, _, _, done⟩
            cases (pure_iff.mp done).1
  · rintro ⟨between, asked, rfl⟩
    refine ⟨none, between, asked, bind_iff.mpr ?_⟩
    exact ⟨(), _, writeLog_iff.mpr rfl, pure_iff.mpr ⟨rfl, rfl⟩⟩

/-- Asking one provider gives an answer exactly if the provider offers the service, and
the answer is what becomes of the instance. -/
theorem instantiate_some_iff {descriptor : ServiceDescriptor} {provider : Provider ω ι}
    {outcome : Except Error (ResolvedService ω ι)} :
    (instantiate descriptor provider).Answers world (some outcome) world' ↔
      Made descriptor provider world outcome world' := by
  unfold instantiate
  rw [bind_iff]
  constructor
  · rintro ⟨found, between, asked, behind⟩
    cases found with
    | none =>
        rcases bind_iff.mp behind with ⟨_, _, _, done⟩
        cases (pure_iff.mp done).1
    | some factory =>
        rcases bind_iff.mp behind with ⟨made, last, makes, done⟩
        cases made with
        | error error =>
            rcases pure_iff.mp done with ⟨same, rfl⟩
            cases same
            exact .failure asked makes
        | ok made =>
            rcases bind_iff.mp done with ⟨_, written, writes, done⟩
            rcases pure_iff.mp done with ⟨same, rfl⟩
            cases same
            rw [writeLog_iff.mp writes]
            exact .success asked makes
  · intro made
    cases made with
    | failure offers fails =>
        exact ⟨_, _, offers, bind_iff.mpr ⟨_, _, fails, pure_iff.mpr ⟨rfl, rfl⟩⟩⟩
    | success offers makes =>
        refine ⟨_, _, offers, bind_iff.mpr ⟨_, _, makes, ?_⟩⟩
        exact bind_iff.mpr ⟨(), _, writeLog_iff.mpr rfl, pure_iff.mpr ⟨rfl, rfl⟩⟩

/-! ## All candidates -/

/-- Behind a provider that has declined, the others decide. -/
theorem Decided.pass {descriptor : ServiceDescriptor} {provider : Provider ω ι}
    {rest : List (Provider ω ι)} {between last : World ω}
    {outcome : Except Error (ResolvedService ω ι)}
    (declines : (provider.findService descriptor.serviceType descriptor.algorithm).Answers
      world none between)
    (decides : Decided descriptor rest
      (logged between .trace
        ("Provider " ++ provider.name ++ " does not offer " ++ descriptor.render)) outcome last) :
    Decided descriptor (provider :: rest) world outcome last := by
  cases decides with
  | nobody declined => exact .nobody (.asked declines declined)
  | first split declined made =>
      rw [split]
      exact .first (List.cons_append.symm) (.asked declines declined) made

theorem firstOffer_iff {descriptor : ServiceDescriptor} {candidates : List (Provider ω ι)}
    {outcome : Except Error (ResolvedService ω ι)} :
    (firstOffer descriptor candidates).Answers world outcome world' ↔
      Decided descriptor candidates world outcome world' := by
  induction candidates generalizing world with
  | nil =>
      unfold firstOffer
      rw [pure_iff]
      constructor
      · rintro ⟨rfl, rfl⟩
        exact .nobody (.nobody world')
      · intro decided
        cases decided with
        | nobody declined =>
            cases declined
            exact ⟨rfl, rfl⟩
        | first split declined made => simp at split
  | cons provider rest ih =>
      unfold firstOffer
      rw [bind_iff]
      constructor
      · rintro ⟨answer, between, asked, behind⟩
        cases answer with
        | none =>
            rcases instantiate_none_iff.mp asked with ⟨before, declines, rfl⟩
            exact .pass declines (ih.mp behind)
        | some outcome' =>
            rcases pure_iff.mp behind with ⟨rfl, rfl⟩
            exact .first (List.nil_append _).symm (.nobody world) (instantiate_some_iff.mp asked)
      · intro decided
        cases decided with
        | nobody declined =>
            cases declined with
            | asked declines others =>
                have passed := instantiate_none_iff.mpr ⟨_, declines, rfl⟩
                exact ⟨none, _, passed, ih.mpr (.nobody others)⟩
        | first split declined made =>
            cases declined with
            | nobody =>
                cases split
                exact ⟨some outcome, world', instantiate_some_iff.mpr made, pure_iff.mpr ⟨rfl, rfl⟩⟩
            | asked declines others =>
                cases split
                have passed := instantiate_none_iff.mpr ⟨_, declines, rfl⟩
                exact ⟨none, _, passed, ih.mpr (.first rfl others made)⟩

/-! ## Resolutions -/

theorem resolve_noAlgorithm_iff {registry : Registry ω ι} {serviceType : String}
    {selector : Selector ω ι} {outcome : Except Error (ResolvedService ω ι)} :
    (resolve registry serviceType none selector).Answers world outcome world' ↔
      Resolution registry serviceType none selector world outcome world' := by
  unfold resolve
  rw [pure_iff]
  constructor
  · rintro ⟨rfl, rfl⟩
    exact .noAlgorithm selector world'
  · intro law
    cases law
    exact ⟨rfl, rfl⟩

theorem resolve_any_iff {registry : Registry ω ι} {serviceType algorithm : String}
    {outcome : Except Error (ResolvedService ω ι)} :
    (resolve registry serviceType (some algorithm) .any).Answers world outcome world' ↔
      Resolution registry serviceType (some algorithm) .any world outcome world' := by
  unfold resolve
  rw [bind_iff]
  constructor
  · rintro ⟨providers, between, lists, decides⟩
    exact .decided (.any lists) (firstOffer_iff.mp decides)
  · intro law
    cases law with
    | decided chosen decides =>
        cases chosen with
        | any lists => exact ⟨_, _, lists, firstOffer_iff.mpr decides⟩

/-- A name that is missing, a name that nobody has, and the provider of a name. -/
theorem resolve_byName_iff {registry : Registry ω ι} {serviceType algorithm : String}
    {name : Option String} {outcome : Except Error (ResolvedService ω ι)} :
    (resolve registry serviceType (some algorithm) (.byName name)).Answers
        world outcome world' ↔
      Resolution registry serviceType (some algorithm) (.byName name) world outcome world' := by
  cases name with
  | none =>
      unfold resolve
      rw [pure_iff]
      constructor
      · rintro ⟨rfl, rfl⟩
        exact .noName algorithm world'
      · intro law
        cases law with
        | noName => exact ⟨rfl, rfl⟩
        | decided chosen _ => cases chosen
  | some name =>
      unfold resolve
      rw [bind_iff]
      constructor
      · rintro ⟨found, between, asked, behind⟩
        cases found with
        | none =>
            rcases pure_iff.mp behind with ⟨rfl, rfl⟩
            exact .noProvider asked
        | some provider => exact .decided (.byName asked) (firstOffer_iff.mp behind)
      · intro law
        cases law with
        | noProvider missing => exact ⟨none, _, missing, pure_iff.mpr ⟨rfl, rfl⟩⟩
        | decided chosen decides =>
            cases chosen with
            | byName finds => exact ⟨_, _, finds, firstOffer_iff.mpr decides⟩

theorem resolve_byReference_iff {registry : Registry ω ι} {serviceType algorithm : String}
    {provider : Option (Provider ω ι)} {outcome : Except Error (ResolvedService ω ι)} :
    (resolve registry serviceType (some algorithm) (.byReference provider)).Answers
        world outcome world' ↔
      Resolution registry serviceType (some algorithm) (.byReference provider)
        world outcome world' := by
  cases provider with
  | none =>
      unfold resolve
      rw [pure_iff]
      constructor
      · rintro ⟨rfl, rfl⟩
        exact .noReference algorithm world'
      · intro law
        cases law with
        | noReference => exact ⟨rfl, rfl⟩
        | decided chosen _ => cases chosen
  | some provider =>
      unfold resolve
      rw [firstOffer_iff]
      constructor
      · exact fun decides => .decided (.byReference provider world) decides
      · intro law
        cases law with
        | decided chosen decides =>
            cases chosen
            exact decides

/-- Resolving a service answers what the law of resolution says, and nothing else. -/
theorem resolve_iff (registry : Registry ω ι) (serviceType : String) (algorithm : Option String)
    (selector : Selector ω ι) (world : World ω) (outcome : Except Error (ResolvedService ω ι))
    (world' : World ω) :
    (resolve registry serviceType algorithm selector).Answers world outcome world' ↔
      Resolution registry serviceType algorithm selector world outcome world' := by
  cases algorithm with
  | none => exact resolve_noAlgorithm_iff
  | some algorithm =>
      cases selector with
      | any => exact resolve_any_iff
      | byName name => exact resolve_byName_iff
      | byReference provider => exact resolve_byReference_iff

end Resolution

end SecureSockets
