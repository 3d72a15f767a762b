import TypedRecords.Schema
import TypedRecords.Proofs.Property.Population

namespace TypedRecords

variable {U : Universe}

structure Population.Covers (P : Population U) (s : Schema U) : Prop where
  members : ∀ p ∈ s.members, p.toDescriptor ∈ P
  identifiers : ∀ p ∈ s.identifiers, p.toDescriptor ∈ P

/-- No two members of a schema are equal, nor are two identifiers, and only members are marked as
identifiers. -/
structure Schema.Proper (s : Schema U) : Prop where
  distinct : s.members.Pairwise fun p q => (p.toDescriptor == q.toDescriptor) = false
  distinctIdentifiers :
    s.identifiers.Pairwise fun p q => (p.toDescriptor == q.toDescriptor) = false
  marked : ∀ p ∈ s.identifiers, s.contains p.toDescriptor = true

namespace Schema

theorem contains_iff {s : Schema U} {d : Descriptor U} :
    s.contains d = true ↔ ∃ p ∈ s.members, (p.toDescriptor == d) = true := by
  rw [contains, occurs, List.any_eq_true]

theorem contains_self {s : Schema U} {p : Property U} (hp : p ∈ s.members) :
    s.contains p.toDescriptor = true :=
  contains_iff.mpr ⟨p, hp, if_pos rfl⟩

theorem contains_of_mem {P : Population U} (hP : P.Lawful) {s : Schema U} (hs : P.Covers s)
    {p : Property U} (hp : p ∈ s.members) : s.contains p.toDescriptor = true :=
  contains_iff.mpr ⟨p, hp, hP.equivAmong.refl (hs.members p hp)⟩

theorem contains_congr {P : Population U} (hP : P.Lawful) {s : Schema U} (hs : P.Covers s)
    {a b : Descriptor U} (ha : a ∈ P) (hb : b ∈ P) (hab : (a == b) = true) :
    s.contains a = s.contains b := by
  apply Bool.eq_iff_iff.mpr
  rw [contains_iff, contains_iff]
  constructor
  · rintro ⟨p, hp, hpa⟩
    exact ⟨p, hp, hP.equivAmong.trans (hs.members p hp) ha hb hpa hab⟩
  · rintro ⟨p, hp, hpb⟩
    have hba : (b == a) = true := hP.equivAmong.symm ha hb hab
    exact ⟨p, hp, hP.equivAmong.trans (hs.members p hp) hb ha hpb hba⟩

theorem Proper.eq_of_identifiers {P : Population U} (hP : P.Lawful) {s : Schema U}
    (hs : P.Covers s) (hproper : s.Proper) {p q : Property U} (hp : p ∈ s.identifiers)
    (hq : q ∈ s.identifiers) (hpq : (p.toDescriptor == q.toDescriptor) = true) : p = q := by
  let R (a b : Property U) : Prop := (a.toDescriptor == b.toDescriptor) = true → a = b
  have hself : ∀ a ∈ s.identifiers, R a a := fun _ _ _ => rfl
  have hbefore : s.identifiers.Pairwise R := by
    refine hproper.distinctIdentifiers.imp ?_
    intro a b hne hab
    rw [hne] at hab
    cases hab
  have hbehind : s.identifiers.Pairwise (flip R) := by
    refine hproper.distinctIdentifiers.imp_of_mem ?_
    intro a b ha hb hne hba
    rw [hP.equivAmong.symm (hs.identifiers b hb) (hs.identifiers a ha) hba] at hne
    cases hne
  exact List.Pairwise.forall_of_forall_of_flip hself hbefore hbehind hp hq hpq

end Schema

end TypedRecords
