import Mathlib.Data.List.Basic
import Mathlib.Data.Option.Basic
import SecureSockets.Proofs.Sni.Identity
import SecureSockets.Session.Parameters

namespace SecureSockets.Session

/-!
# Runs of changes

A record of session parameters is changed many times over, and some of the changes are
refused.  In every record that a run of changes leads to, server names and matchers are
to form sets under the comparisons that they have, and a change that is refused is to
leave no trace.

Names and matchers are checked by one function, which is described once for elements of
any type.  It succeeds exactly if no element is absent or equals one before it, and then
it gives the elements back as they are, so that a list that is absent, empty or populated
stays what it is.
-/

/-! ## Checked lists -/

/-- Items describe one set at most. -/
theorem present_injective {α : Type} :
    Function.Injective (Option.map (List.map (some : α -> Option α))) :=
  Option.map_injective (Option.some_injective α).list_map

section CheckedSet

variable {α : Type} [BEq α] {seen elements : List α} {index : Nat} {items : List (Option α)}

def Apart (elements : List α) : Prop :=
  elements.Pairwise fun earlier later => (later == earlier) = false

/-- A present element is kept unless it equals one that was seen before. -/
theorem checkElements_cons_ok_iff {item : α} :
    checkElements seen index (some item :: items) = .ok elements ↔
      (∀ earlier ∈ seen, (item == earlier) = false) ∧
        ∃ others, checkElements (item :: seen) (index + 1) items = .ok others ∧
          item :: others = elements := by
  rw [checkElements]
  by_cases repeated : seen.any (item == ·) = true
  · rw [if_pos repeated]
    refine iff_of_false nofun ?_
    rintro ⟨fresh, -⟩
    rcases List.any_eq_true.mp repeated with ⟨earlier, within, equal⟩
    exact absurd equal (by simp [fresh earlier within])
  · rw [if_neg repeated]
    have fresh : ∀ earlier ∈ seen, (item == earlier) = false := by simpa using repeated
    cases checkElements (item :: seen) (index + 1) items with
    | error fault => simp [Except.map]
    | ok others => simpa [Except.map] using fun _ => fresh

/-- The check succeeds exactly if every element is present and equals neither one before it
nor one that was seen before, and it gives the elements back. -/
theorem checkElements_ok_iff :
    checkElements seen index items = .ok elements ↔
      items = elements.map some ∧ Apart elements ∧
        ∀ element ∈ elements, ∀ earlier ∈ seen, (element == earlier) = false := by
  induction items generalizing seen index elements with
  | nil => cases elements <;> simp [checkElements, Apart]
  | cons item rest ih =>
      cases item with
      | none => cases elements <;> simp [checkElements]
      | some item =>
          rw [checkElements_cons_ok_iff]
          simp only [ih]
          cases elements with
          | nil => simp
          | cons first others =>
              simp only [List.cons.injEq, Apart, List.pairwise_cons, List.mem_cons,
                List.map_cons, Option.some.injEq]
              constructor
              · rintro ⟨fresh, _, ⟨listed, apart, beyond⟩, rfl, rfl⟩
                refine ⟨⟨rfl, listed⟩, ⟨?_, apart⟩, ?_⟩
                · exact fun other within => beyond other within item (Or.inl rfl)
                · rintro element (rfl | within) earlier before
                  · exact fresh earlier before
                  · exact beyond element within earlier (Or.inr before)
              · rintro ⟨⟨rfl, listed⟩, ⟨apart, others_apart⟩, fresh⟩
                refine ⟨fresh item (Or.inl rfl), others, ⟨listed, others_apart, ?_⟩, rfl, rfl⟩
                rintro element within earlier (rfl | before)
                · exact apart element within
                · exact fresh element (Or.inr within) earlier before

theorem checkedSet_ok_iff {given : Option (List (Option α))} {set : Option (List α)} :
    checkedSet given = .ok set ↔
      given = set.map (List.map some) ∧ ∀ elements ∈ set, Apart elements := by
  cases given with
  | none => cases set <;> simp [checkedSet]
  | some items =>
      show (checkElements [] 0 items).map some = .ok set ↔ _
      cases set with
      | none => cases checkElements [] 0 items <;> simp [Except.map]
      | some elements =>
          have check : checkElements [] 0 items = .ok elements ↔
              items = elements.map some ∧ Apart elements := by
            simp [checkElements_ok_iff]
          simp only [Option.map_some, Option.mem_def, Option.some.injEq, forall_eq', ← check]
          cases checkElements [] 0 items <;> simp [Except.map]

theorem checkedSet_present_ok_iff {set : Option (List α)} :
    checkedSet (some (elements.map some)) = .ok set ↔ set = some elements ∧ Apart elements := by
  rw [checkedSet_ok_iff]
  constructor
  · rintro ⟨listed, apart⟩
    have same : some elements = set := present_injective listed
    exact ⟨same.symm, apart elements same.symm⟩
  · rintro ⟨rfl, apart⟩
    refine ⟨rfl, ?_⟩
    simpa using apart

end CheckedSet

/-- The items describe a set: they are absent, or all of them are present and any two of
them are apart. -/
def DescribesSet {α : Type} (apart : α -> α -> Prop) (items : Option (List (Option α))) : Prop :=
  ∃ set : Option (List α), items = set.map (List.map some) ∧
    ∀ elements ∈ set, elements.Pairwise apart

def NamesApart (one other : Sni.ServerName) : Prop := ¬one.Same other

/-- Two matchers may be in one set.  Tests cannot be compared, so that only the same
matcher counts as equal. -/
def MatchersApart (one other : Sni.Matcher) : Prop := one.identity ≠ other.identity

theorem apart_iff_names {names : List Sni.ServerName} :
    Apart names ↔ names.Pairwise NamesApart := by
  apply List.Pairwise.iff
  intro earlier later
  rw [Bool.eq_false_iff, ne_eq, Sni.ServerName.beq_iff_same]
  exact not_congr ⟨Sni.ServerName.Same.symm, Sni.ServerName.Same.symm⟩

theorem apart_iff_matchers {matchers : List Sni.Matcher} :
    Apart matchers ↔ matchers.Pairwise MatchersApart := by
  apply List.Pairwise.iff
  intro earlier later
  rw [Bool.eq_false_iff, ne_eq, Sni.Matcher.beq_iff_identity]
  exact ne_comm

/-! ## Fields -/

/-- The fields of a record, so that what a change leaves alone can be said once for all of
them. -/
inductive Field where
  | cipherSuites
  | protocols
  | wantClientAuth
  | needClientAuth
  | endpointIdentification
  | constraints
  | serverNames
  | matchers
  | useCipherSuitesOrder

@[reducible]
def Field.Content (κ : Type) : Field -> Type
  | cipherSuites | protocols => Option (List String)
  | wantClientAuth | needClientAuth | useCipherSuitesOrder => Bool
  | endpointIdentification => Option String
  | constraints => Option κ
  | serverNames => Option (List Sni.ServerName)
  | matchers => Option (List Sni.Matcher)

variable {κ : Type} {p q : Parameters κ} {change : Change κ}

namespace Parameters

def read (p : Parameters κ) : (field : Field) -> field.Content κ
  | .cipherSuites => p.cipherSuites
  | .protocols => p.protocols
  | .wantClientAuth => p.wantClientAuth
  | .needClientAuth => p.needClientAuth
  | .endpointIdentification => p.endpointIdentification
  | .constraints => p.constraints
  | .serverNames => p.serverNames
  | .matchers => p.matchers
  | .useCipherSuitesOrder => p.useCipherSuitesOrder

/-- The server names and the matchers of a record form sets, where there are any. -/
structure FormsSets (p : Parameters κ) : Prop where
  serverNames : ∀ names ∈ p.serverNames, names.Pairwise NamesApart
  matchers : ∀ matchers ∈ p.matchers, matchers.Pairwise MatchersApart

theorem FormsSets.empty : (Parameters.empty : Parameters κ).FormsSets :=
  ⟨nofun, nofun⟩

theorem setServerNames_eq_ok_iff {names : Option (List (Option Sni.ServerName))} :
    p.setServerNames names = .ok q ↔
      ∃ set, checkedSet names = .ok set ∧ { p with serverNames := set } = q := by
  unfold setServerNames
  cases checkedSet names <;> simp

theorem setMatchers_eq_ok_iff {matchers : Option (List (Option Sni.Matcher))} :
    p.setMatchers matchers = .ok q ↔
      ∃ set, checkedSet matchers = .ok set ∧ { p with matchers := set } = q := by
  unfold setMatchers
  cases checkedSet matchers <;> simp

theorem setServerNames_ok_iff {names : Option (List (Option Sni.ServerName))} :
    p.setServerNames names = .ok q ↔
      ∃ set, names = set.map (List.map some) ∧ (∀ elements ∈ set, elements.Pairwise NamesApart) ∧
        { p with serverNames := set } = q := by
  simp only [setServerNames_eq_ok_iff, checkedSet_ok_iff, apart_iff_names, and_assoc]

theorem setMatchers_ok_iff {matchers : Option (List (Option Sni.Matcher))} :
    p.setMatchers matchers = .ok q ↔
      ∃ set, matchers = set.map (List.map some) ∧
        (∀ elements ∈ set, elements.Pairwise MatchersApart) ∧
        { p with matchers := set } = q := by
  simp only [setMatchers_eq_ok_iff, checkedSet_ok_iff, apart_iff_matchers, and_assoc]

theorem withServerNames_ok_iff {names : List Sni.ServerName} :
    p.withServerNames names = .ok q ↔
      names.Pairwise NamesApart ∧ { p with serverNames := some names } = q := by
  unfold withServerNames
  simp only [setServerNames_eq_ok_iff, checkedSet_present_ok_iff, apart_iff_names, and_assoc,
    exists_eq_left]

theorem withMatchers_ok_iff {matchers : List Sni.Matcher} :
    p.withMatchers matchers = .ok q ↔
      matchers.Pairwise MatchersApart ∧ { p with matchers := some matchers } = q := by
  unfold withMatchers
  simp only [setMatchers_eq_ok_iff, checkedSet_present_ok_iff, apart_iff_matchers, and_assoc,
    exists_eq_left]

/-! What a change of one of the sets leaves alone. -/

theorem read_of_ne_serverNames {field : Field} (set : Option (List Sni.ServerName))
    (other : field ≠ .serverNames) :
    ({ p with serverNames := set } : Parameters κ).read field = p.read field := by
  cases field <;> simp_all [read]

theorem read_of_ne_matchers {field : Field} (set : Option (List Sni.Matcher))
    (other : field ≠ .matchers) :
    ({ p with matchers := set } : Parameters κ).read field = p.read field := by
  cases field <;> simp_all [read]

end Parameters

/-! ## One change -/

namespace Change

/-- The fields that a change names. -/
def Names : Change κ -> Field -> Prop
  | reset, _ | suitesAndProtocols .., _ => True
  | cipherSuites _, field | withCipherSuites _, field => field = .cipherSuites
  | protocols _, field | withProtocols _, field => field = .protocols
  | wantClientAuth _, field => field = .wantClientAuth
  | needClientAuth _, field => field = .needClientAuth
  | useCipherSuitesOrder _, field => field = .useCipherSuitesOrder
  | endpointIdentification _, field => field = .endpointIdentification
  | constraints _, field => field = .constraints
  | serverNames _, field | withServerNames _, field => field = .serverNames
  | matchers _, field | withMatchers _, field => field = .matchers

/-- The record holds what the change was given: a list as it is, whether it is absent,
empty or populated. -/
def Stored : Change κ -> Parameters κ -> Prop
  | reset, q => q = {}
  | suitesAndProtocols suites versions, q =>
    q = { cipherSuites := some suites, protocols := some versions }
  | cipherSuites suites, q => q.cipherSuites = suites
  | protocols versions, q => q.protocols = versions
  | wantClientAuth want, q => q.wantClientAuth = want
  | needClientAuth need, q => q.needClientAuth = need
  | useCipherSuitesOrder order, q => q.useCipherSuitesOrder = order
  | endpointIdentification algorithm, q => q.endpointIdentification = algorithm
  | constraints policy, q => q.constraints = policy
  | serverNames names, q => q.serverNames.map (List.map some) = names
  | matchers tests, q => q.matchers.map (List.map some) = tests
  | withCipherSuites suites, q => q.cipherSuites = some suites
  | withProtocols versions, q => q.protocols = some versions
  | withServerNames names, q => q.serverNames = some names
  | withMatchers tests, q => q.matchers = some tests

/-- The server names or matchers that the change was given describe a set.  Of cipher
suites and protocols nothing is asked, since only the engine knows which are right. -/
def Proper : Change κ -> Prop
  | serverNames names => DescribesSet NamesApart names
  | matchers tests => DescribesSet MatchersApart tests
  | withServerNames names => names.Pairwise NamesApart
  | withMatchers tests => tests.Pairwise MatchersApart
  | _ => True

/-- What a change makes of a record: it is refused and leaves the record as it is, or it
stores what it was given and leaves all fields alone that it does not name. -/
inductive Outcome (change : Change κ) (p : Parameters κ) :
    Except Error Unit -> Parameters κ -> Prop where
  | refused (error : Error) (improper : ¬change.Proper) : Outcome change p (.error error) p
  | made (q : Parameters κ) (proper : change.Proper) (stored : change.Stored q)
      (others : ∀ field, ¬change.Names field -> q.read field = p.read field) :
      Outcome change p (.ok ()) q

/-- A change that is made stores what it was given and nothing else. -/
theorem outcome_of_ok (made : change.apply p = .ok q) : change.Outcome p (.ok ()) q := by
  cases change with
  | serverNames names =>
      rcases Parameters.setServerNames_ok_iff.mp made with ⟨set, listed, apart, rfl⟩
      refine .made _ ⟨set, listed, apart⟩ listed.symm ?_
      exact fun field other => Parameters.read_of_ne_serverNames set other
  | matchers tests =>
      rcases Parameters.setMatchers_ok_iff.mp made with ⟨set, listed, apart, rfl⟩
      refine .made _ ⟨set, listed, apart⟩ listed.symm ?_
      exact fun field other => Parameters.read_of_ne_matchers set other
  | withServerNames names =>
      rcases Parameters.withServerNames_ok_iff.mp made with ⟨apart, rfl⟩
      refine .made _ apart rfl ?_
      exact fun field other => Parameters.read_of_ne_serverNames (some names) other
  | withMatchers tests =>
      rcases Parameters.withMatchers_ok_iff.mp made with ⟨apart, rfl⟩
      refine .made _ apart rfl ?_
      exact fun field other => Parameters.read_of_ne_matchers (some tests) other
  | _ =>
      cases made
      refine .made _ trivial rfl ?_
      intro field other
      cases field <;> simp_all [Names, Parameters.read, Parameters.withCipherSuites,
        Parameters.withProtocols]

/-- Nothing but lists that describe no sets is refused. -/
theorem exists_ok_of_proper (p : Parameters κ) (proper : change.Proper) :
    ∃ q, change.apply p = .ok q := by
  cases change with
  | serverNames names =>
      rcases proper with ⟨set, listed, apart⟩
      exact ⟨_, Parameters.setServerNames_ok_iff.mpr ⟨set, listed, apart, rfl⟩⟩
  | matchers tests =>
      rcases proper with ⟨set, listed, apart⟩
      exact ⟨_, Parameters.setMatchers_ok_iff.mpr ⟨set, listed, apart, rfl⟩⟩
  | withServerNames names => exact ⟨_, Parameters.withServerNames_ok_iff.mpr ⟨proper, rfl⟩⟩
  | withMatchers tests => exact ⟨_, Parameters.withMatchers_ok_iff.mpr ⟨proper, rfl⟩⟩
  | _ => exact ⟨_, rfl⟩

theorem perform_outcome (change : Change κ) (p : Parameters κ) :
    change.Outcome p (change.perform p).1 (change.perform p).2 := by
  unfold perform
  cases made : change.apply p with
  | ok q => exact outcome_of_ok made
  | error error =>
      apply Outcome.refused
      intro proper
      rcases exists_ok_of_proper p proper with ⟨q, accepted⟩
      rw [made] at accepted
      cases accepted

/-- Whatever becomes of a change, the record forms sets afterwards if it did before. -/
theorem Outcome.formsSets {answer : Except Error Unit} (outcome : change.Outcome p answer q)
    (sets : p.FormsSets) : q.FormsSets := by
  cases outcome with
  | refused _ improper => exact sets
  | made _ proper stored others =>
      cases change with
      | reset =>
          cases stored
          exact .empty
      | suitesAndProtocols suites versions =>
          cases stored
          exact ⟨nofun, nofun⟩
      | serverNames names =>
          rcases proper with ⟨set, listed, apart⟩
          have held : q.serverNames = set := present_injective (stored.trans listed)
          have kept : q.matchers = p.matchers := others .matchers nofun
          exact ⟨held ▸ apart, kept ▸ sets.matchers⟩
      | matchers tests =>
          rcases proper with ⟨set, listed, apart⟩
          have held : q.matchers = set := present_injective (stored.trans listed)
          have kept : q.serverNames = p.serverNames := others .serverNames nofun
          exact ⟨kept ▸ sets.serverNames, held ▸ apart⟩
      | withServerNames names =>
          have held : q.serverNames = some names := stored
          have kept : q.matchers = p.matchers := others .matchers nofun
          refine ⟨?_, kept ▸ sets.matchers⟩
          simpa [held, Proper] using proper
      | withMatchers tests =>
          have held : q.matchers = some tests := stored
          have kept : q.serverNames = p.serverNames := others .serverNames nofun
          refine ⟨kept ▸ sets.serverNames, ?_⟩
          simpa [held, Proper] using proper
      | _ =>
          have names_kept : q.serverNames = p.serverNames := others .serverNames nofun
          have matchers_kept : q.matchers = p.matchers := others .matchers nofun
          exact ⟨names_kept ▸ sets.serverNames, matchers_kept ▸ sets.matchers⟩

end Change

/-! ## Runs -/

theorem performAll_formsSets (changes : List (Change κ)) (sets : p.FormsSets) :
    (Change.performAll changes p).2.FormsSets := by
  apply serveAll_keeps _ changes sets
  intro change p sets
  exact (change.perform_outcome p).formsSets sets

/-- In every record that a run of changes leads to, the server names and the matchers form
sets, and whatever change is tried next either leaves all of the record as it is or stores
exactly what it was given, in the fields that it names. -/
theorem reached_record_forms_sets (changes : List (Change κ)) (next : Change κ) :
    let p := (Change.performAll changes Parameters.empty).2
    p.FormsSets ∧ next.Outcome p (next.perform p).1 (next.perform p).2 :=
  ⟨performAll_formsSets changes .empty, next.perform_outcome _⟩

end SecureSockets.Session
