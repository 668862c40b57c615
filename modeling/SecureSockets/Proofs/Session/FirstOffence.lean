import Mathlib.Data.List.ReduceOption
import SecureSockets.Proofs.Session.Duplicates

namespace SecureSockets.Session

/-!
# The first offence decides

A list that is no set may be none for several reasons: some of its elements are absent, others
repeat one before them.  Which of them is reported is decided by the first offending position,
and nothing behind it counts.  In front of it all elements are present and apart from each
other, and the check passes over such a front whatever stands behind it.

Elements are told apart by whatever test they have.  If the test is an equivalence and hashes
respect it, the elements before may as well be kept in a hash set, and the elements collected
afterwards.
-/

section Offences

variable {α : Type} [BEq α]

/-- The element at a position is absent, or it equals an element at an earlier position.
Of two equal elements only the later one offends. -/
inductive Offends (items : List (Option α)) (i : Nat) : Prop where
  | absent (here : items[i]? = some none) : Offends items i
  | repeated {j : Nat} {element earlier : α} (before : j < i)
      (there : items[j]? = some (some earlier)) (here : items[i]? = some (some element))
      (equal : (element == earlier) = true) : Offends items i

structure FirstOffence (items : List (Option α)) (i : Nat) : Prop where
  offends : Offends items i
  least : ∀ j < i, ¬Offends items j

variable {items : List (Option α)} {element : α} {i j : Nat}

theorem offends_take_iff : Offends (items.take i) j ↔ j < i ∧ Offends items j := by
  have listed_take {k : Nat} {item : Option α} :
      (items.take i)[k]? = some item ↔ k < i ∧ items[k]? = some item := by
    rw [List.getElem?_take, Option.ite_none_right_eq_some]
  constructor
  · intro offends
    cases offends with
    | absent here =>
        rcases listed_take.mp here with ⟨inside, here⟩
        exact ⟨inside, .absent here⟩
    | repeated before there here equal =>
        rcases listed_take.mp here with ⟨inside, here⟩
        exact ⟨inside, .repeated before (listed_take.mp there).2 here equal⟩
  · rintro ⟨inside, offends⟩
    cases offends with
    | absent here => exact .absent (listed_take.mpr ⟨inside, here⟩)
    | repeated before there here equal =>
        exact .repeated before (listed_take.mpr ⟨Nat.lt_trans before inside, there⟩)
          (listed_take.mpr ⟨inside, here⟩) equal

/-- Nothing offends in a list exactly if all elements are present and apart. -/
theorem no_offence_iff :
    (∀ i, ¬Offends items i) ↔ ∃ elements : List α, elements.map some = items ∧ Apart elements := by
  constructor
  · intro clean
    have present : none ∉ items := by
      intro within
      rcases List.mem_iff_getElem?.mp within with ⟨i, here⟩
      exact clean i (.absent here)
    rcases exists_present present with ⟨elements, rfl⟩
    refine ⟨elements, rfl, List.pairwise_iff_getElem.mpr ?_⟩
    intro j i insideJ insideI before
    refine Bool.eq_false_iff.mpr fun equal => clean i (.repeated before ?_ ?_ equal)
    · rw [List.getElem?_map, List.getElem?_eq_getElem insideJ, Option.map_some]
    · rw [List.getElem?_map, List.getElem?_eq_getElem insideI, Option.map_some]
  · rintro ⟨elements, rfl, apart⟩ i offends
    cases offends with
    | absent here => simp at here
    | @repeated j element earlier before there here equal =>
        rw [List.getElem?_map, Option.map_eq_some_iff] at there here
        rcases there with ⟨_, there, ⟨⟩⟩
        rcases here with ⟨_, here, ⟨⟩⟩
        rcases List.getElem?_eq_some_iff.mp there with ⟨insideJ, rfl⟩
        rcases List.getElem?_eq_some_iff.mp here with ⟨insideI, rfl⟩
        rw [List.pairwise_iff_getElem.mp apart j i insideJ insideI before] at equal
        cases equal

/-- In front of the first offence all elements are present and apart. -/
theorem FirstOffence.exists_front {item : Option α} (first : FirstOffence items i)
    (here : items[i]? = some item) :
    ∃ front : List α, Apart front ∧ front.length = i ∧ front.map some = items.take i ∧
      items.take (i + 1) = front.map some ++ [item] := by
  have clean : ∀ j, ¬Offends (items.take i) j := by
    intro j offends
    rcases offends_take_iff.mp offends with ⟨before, offends⟩
    exact first.least j before offends
  rcases no_offence_iff.mp clean with ⟨front, listed, apart⟩
  rcases List.getElem?_eq_some_iff.mp here with ⟨inside, -⟩
  refine ⟨front, apart, ?_, listed, ?_⟩
  · rw [← List.length_map some, listed, List.length_take_of_le (Nat.le_of_lt inside)]
  · rw [listed, List.take_add_one, here, Option.toList_some]

/-- The first offence is an absent element, whatever stands behind it. -/
theorem checkElements_of_absent (first : FirstOffence items i) (here : items[i]? = some none)
    (rest : List (Option α)) :
    checkElements [] 0 (items.take (i + 1) ++ rest) = .error .absentElement := by
  rcases first.exists_front here with ⟨front, apart, -, -, split⟩
  rw [split, List.append_assoc, List.singleton_append, checkElements_append apart (by simp)]
  rfl

/-- The first offence is a repeated element, whatever stands behind it. -/
theorem checkElements_of_repeated (first : FirstOffence items i)
    (here : items[i]? = some (some element)) (rest : List (Option α)) :
    checkElements [] 0 (items.take (i + 1) ++ rest) = .error (.duplicate i) := by
  rcases first.exists_front here with ⟨front, apart, length, listed, split⟩
  have seen : (front.reverse ++ []).any (element == ·) = true := by
    cases first.offends with
    | absent here' => cases here.symm.trans here'
    | @repeated j element' earlier before there here' equal =>
        cases here.symm.trans here'
        have there' : (front.map some)[j]? = some (some earlier) := by
          rw [listed, List.getElem?_take_of_lt before, there]
        have within : earlier ∈ front :=
          (List.mem_map_of_injective (Option.some_injective α)).mp (List.mem_of_getElem? there')
        exact List.any_eq_true.mpr ⟨earlier, by simpa using within, equal⟩
  rw [split, List.append_assoc, List.singleton_append, checkElements_append apart (by simp),
    checkElements, if_pos seen, Nat.zero_add, length]
  rfl

end Offences

section Hashed

variable {α : Type} [BEq α] [Hashable α]

/-- Looks for an offence from `index` on, with the elements before in a hash set. -/
def scanHashed (seen : Std.HashSet α) (index : Nat) : List (Option α) -> Except SetFault Unit
  | [] => .ok ()
  | none :: _ => .error .absentElement
  | some element :: rest =>
    match seen.containsThenInsert element with
    | (true, _) => .error (.duplicate index)
    | (false, seen) => scanHashed seen (index + 1) rest

/-- The set that a list describes, with a look for offences before its elements are
collected. -/
def hashedSet : Option (List (Option α)) -> Except SetFault (Option (List α))
  | none => .ok none
  | some items => (scanHashed ∅ 0 items).map fun _ => some items.reduceOption

variable [EquivBEq α] [LawfulHashable α]

theorem checkElements_eq_scanHashed {seen : List α} {kept : Std.HashSet α}
    (same : ∀ element, kept.contains element = seen.any (element == ·)) (index : Nat)
    (items : List (Option α)) :
    checkElements seen index items =
      (scanHashed kept index items).map fun _ => items.reduceOption := by
  induction items generalizing seen kept index with
  | nil => rfl
  | cons item rest ih =>
      cases item with
      | none => rfl
      | some element =>
          have split : kept.containsThenInsert element =
              (seen.any (element == ·), kept.insert element) := by
            rw [← same]
            exact Prod.ext Std.HashSet.containsThenInsert_fst Std.HashSet.containsThenInsert_snd
          rw [checkElements, scanHashed, split]
          cases seen.any (element == ·) with
          | true => rfl
          | false =>
              have same' (other : α) : (kept.insert element).contains other =
                  (element :: seen).any (other == ·) := by
                rw [Std.HashSet.contains_insert, same, List.any_cons, BEq.comm]
              rw [if_neg Bool.false_ne_true, ih same']
              show _ = (scanHashed (kept.insert element) (index + 1) rest).map _
              cases scanHashed (kept.insert element) (index + 1) rest <;> rfl

theorem checkedSet_eq_hashedSet (items : Option (List (Option α))) :
    checkedSet items = hashedSet items := by
  cases items with
  | none => rfl
  | some items =>
      have noneSeen (element : α) :
          (∅ : Std.HashSet α).contains element = ([] : List α).any (element == ·) :=
        Std.HashSet.contains_empty
      rw [checkedSet, hashedSet, checkElements_eq_scanHashed noneSeen]
      cases scanHashed ∅ 0 items <;> rfl

end Hashed

/-- What is promised of the check of a list, for elements with some test and some hash. -/
structure CheckLaw (α : Type) [BEq α] [Hashable α] : Prop where
  /-- Without an offence all elements are kept, in the order in which they were given. -/
  kept : ∀ items : List (Option α), (∀ i, ¬Offends items i) ->
    ∃ elements, checkedSet (some items) = .ok (some elements) ∧ elements.map some = items
  absent : ∀ (items : List (Option α)) (i : Nat), FirstOffence items i ->
    items[i]? = some none -> checkedSet (some items) = .error .absentElement
  repeated : ∀ (items : List (Option α)) (i : Nat) (element : α), FirstOffence items i ->
    items[i]? = some (some element) -> checkedSet (some items) = .error (.duplicate i)
  absentList : checkedSet (none : Option (List (Option α))) = .ok none
  emptyList : checkedSet (some ([] : List (Option α))) = .ok (some [])
  /-- It makes no difference whether the elements before are kept in a hash set. -/
  hashed : ∀ items : Option (List (Option α)), checkedSet items = hashedSet items

/-- What is promised of a change of one of the sets of a record. -/
structure SetterLaw {α κ : Type} [BEq α] (kind : String) (change : List (Option α) -> Change κ)
    (store : List α -> Parameters κ -> Parameters κ) : Prop where
  stores : ∀ (p : Parameters κ) (items : List (Option α)), (∀ i, ¬Offends items i) ->
    ∃ elements, (change items).perform p = (.ok (), store elements p) ∧ elements.map some = items
  /-- What is reported of an offence does not depend on what stands behind it. -/
  absent : ∀ (p : Parameters κ) (items rest : List (Option α)) (i : Nat),
    FirstOffence items i -> items[i]? = some none ->
      (change (items.take (i + 1) ++ rest)).perform p = (.error (.nullArgument kind), p)
  repeated : ∀ (p : Parameters κ) (items rest : List (Option α)) (i : Nat) (element : α),
    FirstOffence items i -> items[i]? = some (some element) ->
      (change (items.take (i + 1) ++ rest)).perform p =
        (.error (.invalidArgument ("duplicate " ++ kind ++ " at index " ++ toString i)), p)

theorem checkLaw {α : Type} [BEq α] [Hashable α] [EquivBEq α] [LawfulHashable α] :
    CheckLaw α where
  kept := by
    intro items clean
    rcases no_offence_iff.mp clean with ⟨elements, rfl, apart⟩
    exact ⟨elements, checkedSet_present_ok_iff.mpr ⟨rfl, apart⟩, rfl⟩
  absent := by
    intro items i first here
    have found := checkElements_of_absent first here (items.drop (i + 1))
    rw [List.take_append_drop] at found
    rw [checkedSet, found]
    rfl
  repeated := by
    intro items i element first here
    have found := checkElements_of_repeated first here (items.drop (i + 1))
    rw [List.take_append_drop] at found
    rw [checkedSet, found]
    rfl
  absentList := rfl
  emptyList := rfl
  hashed := checkedSet_eq_hashedSet

theorem setterLaw_of_checkElements {α κ : Type} [BEq α] {kind : String}
    {change : List (Option α) -> Change κ} {store : List α -> Parameters κ -> Parameters κ}
    (performs : ∀ p items, (change items).perform p =
      match checkElements [] 0 items with
      | .ok elements => (.ok (), store elements p)
      | .error fault => (.error (fault.toError kind), p)) :
    SetterLaw kind change store where
  stores := by
    intro p items clean
    rcases no_offence_iff.mp clean with ⟨elements, rfl, apart⟩
    have kept : checkElements [] 0 (elements.map some) = .ok elements :=
      checkElements_ok_iff.mpr ⟨rfl, apart, by simp⟩
    exact ⟨elements, by rw [performs, kept], rfl⟩
  absent := by
    intro p items rest i first here
    rw [performs, checkElements_of_absent first here]
    rfl
  repeated := by
    intro p items rest i element first here
    rw [performs, checkElements_of_repeated first here]
    rfl

/-- A list is refused because of its first element that is absent or equals one before it, as
absent or as a duplicate with its position, and if there is none it is kept as it is.  This
holds for elements of any type, if their test is an equivalence that hashes respect, and the
tests of server names and matchers are.  So both sets of a record are checked alike, whatever
stands behind the first offence, and a record with a list that was refused stays as it was. -/
theorem first_offence_decides {α κ : Type} [BEq α] [Hashable α] [EquivBEq α] [LawfulHashable α] :
    CheckLaw α ∧
      (CheckLaw Sni.ServerName ∧
        SetterLaw "server name"
          (fun names => (Change.serverNames (some names) : Change κ))
          (fun names p => { p with serverNames := some names })) ∧
      CheckLaw Sni.Matcher ∧
        SetterLaw "SNI matcher"
          (fun matchers => (Change.matchers (some matchers) : Change κ))
          (fun matchers p => { p with matchers := some matchers }) := by
  refine ⟨checkLaw, ⟨checkLaw, setterLaw_of_checkElements ?_⟩, checkLaw,
    setterLaw_of_checkElements ?_⟩
  · intro p names
    rw [Change.perform, Change.apply, Parameters.setServerNames, checkedSet]
    cases checkElements [] 0 names <;> rfl
  · intro p matchers
    rw [Change.perform, Change.apply, Parameters.setMatchers, checkedSet]
    cases checkElements [] 0 matchers <;> rfl

/-- One name in small letters, in capitals and absent.  The capitals are reported. -/
theorem duplicate_before_absent :
    EquivBEq Sni.HostName ∧ LawfulHashable Sni.HostName ∧
      FirstOffence [some (⟨['a'], [97]⟩ : Sni.HostName), some ⟨['A'], [65]⟩, none] 1 ∧
      checkedSet (some [some (⟨['a'], [97]⟩ : Sni.HostName), some ⟨['A'], [65]⟩, none]) =
        .error (.duplicate 1) := by
  have first : FirstOffence [some (⟨['a'], [97]⟩ : Sni.HostName), some ⟨['A'], [65]⟩, none] 1 := by
    refine ⟨.repeated Nat.zero_lt_one rfl rfl (by decide), ?_⟩
    intro j before offends
    cases Nat.lt_one_iff.mp before
    cases offends with
    | absent here => cases here
    | repeated before => cases before
  have law := (@first_offence_decides Sni.HostName Unit _ _ inferInstance inferInstance).1
  exact ⟨inferInstance, inferInstance, first, law.repeated _ 1 _ first rfl⟩

end SecureSockets.Session
