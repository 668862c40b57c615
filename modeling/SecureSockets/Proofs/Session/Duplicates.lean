import Mathlib.Data.Set.Card
import Mathlib.Data.Set.List
import SecureSockets.Proofs.Session.Changes
import SecureSockets.Proofs.Sni.Spelling

namespace SecureSockets.Session

open Sni

/-!
# Names that are the same

What it means in use that two server names are the same.  A record refuses a list of server
names that holds both of them, and a hash set keeps one of them only, so that it has as many
elements as there are different names.

The check of a list stops at the first element that was there before.  The elements in front
of it are apart from each other, hence the check passes over them and has seen exactly them
when it stops.
-/

/-! ## Repeated elements -/

theorem exists_present {α : Type} {items : List (Option α)} (present : none ∉ items) :
    ∃ elements : List α, elements.map some = items := by
  rw [← Set.mem_range, Set.range_list_map]
  intro item within
  exact Option.ne_none_iff_exists.mp fun absent => present (absent ▸ within)

section CheckedSet

variable {α : Type} [BEq α] {seen front elements : List α} {index : Nat}

/-- The check passes over elements that are apart. -/
theorem checkElements_append (apart : Apart front)
    (fresh : ∀ element ∈ front, ∀ earlier ∈ seen, (element == earlier) = false)
    (rest : List (Option α)) :
    checkElements seen index (front.map some ++ rest) =
      (checkElements (front.reverse ++ seen) (index + front.length) rest).map (front ++ ·) := by
  induction front generalizing seen index with
  | nil => cases checked : checkElements seen index rest <;> simp [checked, Except.map]
  | cons first others ih =>
      have parts := List.pairwise_cons.mp apart
      have unseen : seen.any (first == ·) = false := by
        simpa using fresh first List.mem_cons_self
      have unseen' : ∀ element ∈ others, ∀ earlier ∈ first :: seen,
          (element == earlier) = false := by
        intro element within earlier before
        rcases List.mem_cons.mp before with rfl | before
        · exact parts.1 element within
        · exact fresh element (List.mem_cons_of_mem _ within) earlier before
      rw [List.map_cons, List.cons_append, checkElements, if_neg (Bool.eq_false_iff.mp unseen),
        ih parts.2 unseen', List.reverse_cons, List.append_assoc, List.singleton_append,
        List.length_cons, Nat.add_assoc, Nat.add_comm 1]
      cases checkElements (others.reverse ++ first :: seen) (index + (others.length + 1)) rest <;>
        rfl

/-- Among elements that are not apart there is a first one that was there before. -/
theorem exists_first_repeated (repeated : ¬Apart elements) :
    ∃ before element after, elements = before ++ element :: after ∧ Apart before ∧
      ∃ earlier ∈ before, (element == earlier) = true := by
  induction elements using List.reverseRecOn with
  | nil => exact absurd .nil repeated
  | append_singleton front last ih =>
      by_cases apart : Apart front
      · refine ⟨front, last, [], rfl, apart, ?_⟩
        by_contra fresh
        refine repeated (List.pairwise_append.mpr ⟨apart, List.pairwise_singleton _ _, ?_⟩)
        intro earlier before element same
        cases List.mem_singleton.mp same
        exact Bool.eq_false_iff.mpr fun equal => fresh ⟨earlier, before, equal⟩
      · rcases ih apart with ⟨before, element, after, rfl, found⟩
        exact ⟨before, element, after ++ [last], by simp, found⟩

theorem checkElements_repeated (repeated : ¬Apart elements) (rest : List (Option α)) :
    ∃ index < elements.length,
      checkElements [] 0 (elements.map some ++ rest) = .error (.duplicate index) := by
  rcases exists_first_repeated repeated with
    ⟨before, element, after, rfl, apart, earlier, within, equal⟩
  refine ⟨before.length, by simp, ?_⟩
  have seen : (before.reverse ++ []).any (element == ·) = true :=
    List.any_eq_true.mpr ⟨earlier, by simpa using within, equal⟩
  rw [List.map_append, List.append_assoc, checkElements_append apart (by simp), List.map_cons,
    List.cons_append, checkElements, if_pos seen, Nat.zero_add]
  rfl

end CheckedSet

/-- A list that holds both names is refused.  Unless an element before the second of them
is absent, what is reported is a duplicate. -/
def Collide (one other : ServerName) : Prop :=
  ∀ (κ : Type) (p : Parameters κ) (before between after : List (Option ServerName)),
    ∃ fault : SetFault,
      p.setServerNames (some (before ++ some one :: (between ++ some other :: after))) =
          .error (fault.toError Parameters.serverNameKind) ∧
        (none ∉ before ++ between ->
          ∃ index ≤ before.length + between.length + 1, fault = .duplicate index)

theorem setServerNames_of_error {κ : Type} {p : Parameters κ} {items : List (Option ServerName)}
    {fault : SetFault} (failed : checkElements [] 0 items = .error fault) :
    p.setServerNames (some items) = .error (fault.toError Parameters.serverNameKind) := by
  rw [Parameters.setServerNames, checkedSet, failed]
  rfl

theorem collide_of_beq {one other : ServerName} (equal : (one == other) = true) :
    Collide one other := by
  intro κ p before between after
  have repeated {front middle back : List ServerName} :
      ¬Apart (front ++ one :: (middle ++ other :: back)) := by
    intro apart
    have behind := (List.pairwise_cons.mp (List.pairwise_append.mp apart).2.1).1
    have differ := behind other (List.mem_append_right _ List.mem_cons_self)
    rw [BEq.symm equal] at differ
    cases differ
  by_cases gap : none ∈ before ++ between
  · -- The absent element need not be the first offence, so only the refusal is promised.
    cases checked : checkElements [] 0 (before ++ some one :: (between ++ some other :: after)) with
    | error fault => exact ⟨fault, setServerNames_of_error checked, absurd gap⟩
    | ok elements =>
        have absent : none ∈ elements.map some := by
          rw [← (checkElements_ok_iff.mp checked).1]
          rcases List.mem_append.mp gap with within | within <;> simp [within]
        simp at absent
  · rw [List.mem_append, not_or] at gap
    rcases exists_present gap.1 with ⟨before, rfl⟩
    rcases exists_present gap.2 with ⟨between, rfl⟩
    have elements : before.map some ++ some one :: (between.map some ++ some other :: after) =
        (before ++ one :: (between ++ [other])).map some ++ after := by
      simp
    rcases checkElements_repeated repeated after with ⟨index, inside, failed⟩
    rw [elements]
    refine ⟨_, setServerNames_of_error failed, fun _ => ⟨index, ?_, rfl⟩⟩
    simp only [List.length_append, List.length_cons, List.length_nil, List.length_map] at inside ⊢
    omega

/-! ## Hash sets -/

section Classes

variable {α : Type} [BEq α] [EquivBEq α]

def classOf (element : α) : Set α := {other | (other == element) = true}

theorem classOf_eq_iff {one other : α} : classOf one = classOf other ↔ (one == other) = true := by
  constructor
  · intro same
    show one ∈ classOf other
    rw [← same]
    exact BEq.rfl
  · intro equal
    ext third
    exact ⟨fun within => BEq.trans within equal, fun within => BEq.trans within (BEq.symm equal)⟩

/-- The classes that the elements of a list are in.  A hash set keeps one element of each,
whichever comes first. -/
def classes (elements : List α) : Set (Set α) := classOf '' {element | element ∈ elements}

theorem classes_subset {left right : List α}
    (contained : ∀ element, left.contains element = true -> right.contains element = true) :
    classes left ⊆ classes right := by
  rintro _ ⟨element, member, rfl⟩
  have equals_itself := List.contains_iff_exists_mem_beq.mpr ⟨element, member, BEq.rfl⟩
  rcases List.contains_iff_exists_mem_beq.mp (contained element equals_itself) with
    ⟨other, within, equal⟩
  exact ⟨other, within, (classOf_eq_iff.mpr equal).symm⟩

theorem size_ofList [Hashable α] [LawfulHashable α] (elements : List α) :
    (Std.HashSet.ofList elements).size = (classes elements).ncard := by
  classical
  let kept := (Std.HashSet.ofList elements).toList
  have holds (element : α) : kept.contains element = elements.contains element := by
    rw [Std.HashSet.contains_toList, Std.HashSet.contains_ofList]
  have distinct : (kept.map classOf).Nodup := by
    refine List.pairwise_map.mpr (Std.HashSet.distinct_toList.imp fun apart same => ?_)
    rw [classOf_eq_iff.mp same] at apart
    cases apart
  have covered : classes elements = classes kept :=
    Set.Subset.antisymm (classes_subset fun element found => (holds element).trans found)
      (classes_subset fun element found => (holds element).symm.trans found)
  have listed : classes kept = (kept.map classOf).toFinset := by
    rw [List.coe_toFinset]
    ext
    exact List.mem_map.symm
  rw [covered, listed, Set.ncard_coe_finset, List.toFinset_card_of_nodup distinct, List.length_map,
    Std.HashSet.length_toList]

end Classes

/-! ## Server names -/

/-- The spelling of a host name decides neither whether it is one nor which one it is, and no
list may hold two spellings of one.  In general host names are compared by their ASCII forms
without regard to the case of letters, and raw names by type and payload.  The comparison is
an equivalence that hashes respect, so that a hash set has as many elements as there are
different names. -/
theorem server_names_up_to_spelling {codec : LabelCodec} (ignores : codec.StrictIgnoresCase) :
    (∀ left right, spelling left = spelling right ->
      ((∃ host, HostName.ofText codec left = .ok host) ↔
          ∃ host, HostName.ofText codec right = .ok host) ∧
        ∀ one other, HostName.ofText codec left = .ok one ->
          HostName.ofText codec right = .ok other ->
            ((one == other) = true ∧ hash one = hash other) ∧
              ((ServerName.host one == .host other) = true ∧
                hash (ServerName.host one) = hash (ServerName.host other)) ∧
              Collide (.host one) (.host other)) ∧
      (∀ one other : HostName, (ServerName.host one == .host other) = (one == other) ∧
        ((one == other) = true ↔
          one.ascii.map Char.toLower = other.ascii.map Char.toLower)) ∧
      (∀ one other : RawName, (ServerName.raw one == .raw other) = true ↔
        one.nameType = other.nameType ∧ one.payload = other.payload) ∧
      (∀ (host : HostName) (raw : RawName),
        (ServerName.host host == .raw raw) = false ∧ (ServerName.raw raw == .host host) = false) ∧
      (Equivalence fun one other : ServerName => (one == other) = true) ∧
      (∀ one other : ServerName, (one == other) = true -> hash one = hash other) ∧
      ∀ names : List ServerName, (Std.HashSet.ofList names).size = (classes names).ncard := by
  refine ⟨fun left right spelled => ⟨ofText_iff_of_spelling ignores spelled, ?_⟩,
    fun one other => ⟨rfl, HostName.beq_iff_sameLetters⟩,
    fun one other => ServerName.beq_iff_same (.raw one) (.raw other),
    fun host raw => ⟨rfl, rfl⟩, ⟨fun _ => BEq.rfl, BEq.symm, BEq.trans⟩,
    fun one other equal => hash_eq equal, size_ofList⟩
  intro one other made made'
  have equal : (one == other) = true := beq_of_spelling ignores spelled made made'
  have equal' : (ServerName.host one == .host other) = true := equal
  exact ⟨⟨equal, hash_eq equal⟩, ⟨equal', hash_eq equal'⟩, collide_of_beq equal'⟩

theorem ofText_two_spellings :
    HostName.ofText .international ['\uFF41', 'A', '\u3002', 'b'] =
        .ok ⟨['a', 'a', '.', 'b'], [97, 97, 46, 98]⟩ ∧
      HostName.ofText .international ['\uFF41', 'a', '.', 'B'] =
        .ok ⟨['a', 'a', '.', 'B'], [97, 97, 46, 66]⟩ := by
  have regular := LabelCodec.international_lawful.regular
  have small : LabelCodec.international.strict ['\uFF41', 'a'] = some ['a', 'a'] := by
    decide +kernel
  have capital : LabelCodec.international.strict ['\uFF41', 'A'] = some ['a', 'a'] :=
    (LabelCodec.international_strictIgnoresCase _ _ (by decide)).trans small
  have letters : ∀ c ∈ ['b', 'B'], c.toNat < 128 ∧ Idna.IsPlain c ∧ c ≠ '-' :=
    List.all_iff_forall_prop.mp (by decide)
  have asWritten : ∀ c ∈ ['b', 'B'], Accepts .international [c] [c] := fun c listed =>
    .asWritten (by simpa [Idna.isAscii] using (letters c listed).1)
      (by simpa [Idna.isPlainLabel_iff] using (letters c listed).2) (by simp)
  constructor
  · exact (ofText_eq_ok_iff regular).mpr ⟨[['a', 'a'], ['b']],
      .cons (.converted rfl capital (by decide)) (.cons (asWritten 'b' (by decide)) .nil), rfl⟩
  · exact (ofText_eq_ok_iff regular).mpr ⟨[['a', 'a'], ['B']],
      .cons (.converted rfl small (by decide)) (.cons (asWritten 'B' (by decide)) .nil), rfl⟩

/-- Two spellings of a name with a full-width letter, which differ in the case of two letters
and in the full stop. -/
theorem two_spellings_collide :
    LabelCodec.international.StrictIgnoresCase ∧
      spelling ['\uFF41', 'A', '\u3002', 'b'] = spelling ['\uFF41', 'a', '.', 'B'] ∧
      HostName.ofText .international ['\uFF41', 'A', '\u3002', 'b'] =
        .ok ⟨['a', 'a', '.', 'b'], [97, 97, 46, 98]⟩ ∧
      HostName.ofText .international ['\uFF41', 'a', '.', 'B'] =
        .ok ⟨['a', 'a', '.', 'B'], [97, 97, 46, 66]⟩ ∧
      (ServerName.host ⟨['a', 'a', '.', 'b'], [97, 97, 46, 98]⟩ ==
        .host ⟨['a', 'a', '.', 'B'], [97, 97, 46, 66]⟩) = true ∧
      Collide (.host ⟨['a', 'a', '.', 'b'], [97, 97, 46, 98]⟩)
        (.host ⟨['a', 'a', '.', 'B'], [97, 97, 46, 66]⟩) := by
  have ignores := LabelCodec.international_strictIgnoresCase
  have spelled : spelling ['\uFF41', 'A', '\u3002', 'b'] = spelling ['\uFF41', 'a', '.', 'B'] := by
    decide
  have identified := ((server_names_up_to_spelling ignores).1 _ _ spelled).2 _ _
    ofText_two_spellings.1 ofText_two_spellings.2
  exact ⟨ignores, spelled, ofText_two_spellings.1, ofText_two_spellings.2, identified.2.1.1,
    identified.2.2⟩

end SecureSockets.Session
