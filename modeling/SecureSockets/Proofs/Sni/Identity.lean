import SecureSockets.Sni.Matcher

namespace SecureSockets.Sni

/-!
# When names and matchers are the same

Server names and matchers are compared by tests of their own.  A host name may be written
in small letters or in capitals, and its encoding does not count either; a raw name is its
type with its payload.  Matchers are told apart by their identity alone.
-/

theorem HostName.beq_iff_key (left right : HostName) :
    (left == right) = true ↔ left.key = right.key := by
  show (left.key == right.key) = true ↔ left.key = right.key
  exact beq_iff_eq

instance : EquivBEq HostName where
  rfl := (HostName.beq_iff_key _ _).mpr rfl
  symm := fun same => (HostName.beq_iff_key _ _).mpr ((HostName.beq_iff_key _ _).mp same).symm
  trans := fun first second => (HostName.beq_iff_key _ _).mpr
    (((HostName.beq_iff_key _ _).mp first).trans ((HostName.beq_iff_key _ _).mp second))

instance : LawfulHashable HostName where
  hash_eq left right same := by
    show @hash _ (@instHashableList _ instHashableChar) left.key = _
    rw [(HostName.beq_iff_key left right).mp same]
    rfl

namespace ServerName

/-- Two server names stand for the same name.  A host is never the same as a raw name,
even if its payload reads like the host. -/
def Same : ServerName -> ServerName -> Prop
  | host left, host right => left.ascii.map Char.toUpper = right.ascii.map Char.toUpper
  | raw left, raw right => left.nameType = right.nameType ∧ left.payload = right.payload
  | _, _ => False

theorem beq_iff_same (left right : ServerName) : (left == right) = true ↔ left.Same right := by
  cases left with
  | host left =>
      cases right with
      | host right => exact HostName.beq_iff_key left right
      | raw right => exact iff_of_false Bool.false_ne_true id
  | raw left =>
      cases right with
      | host right => exact iff_of_false Bool.false_ne_true id
      | raw right =>
          show (left == right) = true ↔
            left.nameType = right.nameType ∧ left.payload = right.payload
          rw [beq_iff_eq, RawName.mk.injEq]

theorem Same.symm {left right : ServerName} (same : left.Same right) : right.Same left := by
  cases left <;> cases right
  · exact Eq.symm same
  · exact same
  · exact same
  · exact ⟨same.1.symm, same.2.symm⟩

theorem Same.refl (name : ServerName) : name.Same name := by
  cases name with
  | host name => rfl
  | raw name => exact ⟨rfl, rfl⟩

theorem Same.trans {one other third : ServerName} (first : one.Same other)
    (second : other.Same third) : one.Same third := by
  cases one <;> cases other <;> cases third <;> try contradiction
  · exact Eq.trans first second
  · exact ⟨first.1.trans second.1, first.2.trans second.2⟩

instance : EquivBEq ServerName where
  rfl := (beq_iff_same _ _).mpr (Same.refl _)
  symm := fun same => (beq_iff_same _ _).mpr ((beq_iff_same _ _).mp same).symm
  trans := fun first second => (beq_iff_same _ _).mpr
    (((beq_iff_same _ _).mp first).trans ((beq_iff_same _ _).mp second))

/-- The hash of a name is made of what the name is compared by. -/
instance : LawfulHashable ServerName where
  hash_eq one other same := by
    cases one with
    | host left =>
        cases other with
        | host right => exact congrArg (mixHash 0) (hash_eq (a := left) (b := right) same)
        | raw right => cases same
    | raw left =>
        cases other with
        | host right => cases same
        | raw right => exact congrArg (mixHash 1) (hash_eq (a := left) (b := right) same)

end ServerName

theorem Matcher.beq_iff_identity (left right : Matcher) :
    (left == right) = true ↔ left.identity = right.identity := by
  show (left.identity == right.identity) = true ↔ left.identity = right.identity
  exact beq_iff_eq

instance : EquivBEq Matcher where
  rfl := (Matcher.beq_iff_identity _ _).mpr rfl
  symm := fun same => (Matcher.beq_iff_identity _ _).mpr
    ((Matcher.beq_iff_identity _ _).mp same).symm
  trans := fun first second => (Matcher.beq_iff_identity _ _).mpr
    (((Matcher.beq_iff_identity _ _).mp first).trans ((Matcher.beq_iff_identity _ _).mp second))

instance : LawfulHashable Matcher where
  hash_eq left right same := congrArg (fun identity : Nat => hash identity)
    ((Matcher.beq_iff_identity left right).mp same)

end SecureSockets.Sni
