import TypedRecords.Property.Basic
import TypedRecords.Proofs.Collection.Table

namespace TypedRecords

variable {U : Universe}

/-- A strategy whose equality is an equivalence and equates only properties that hash alike. -/
structure Identity.Lawful (i : Identity U) : Prop where
  refl : ∀ a, i.same a a = true
  symm : ∀ {a b}, i.same a b = true → i.same b a = true
  trans : ∀ {a b c}, i.same a b = true → i.same b c = true → i.same a c = true
  feed_eq : ∀ {a b}, i.same a b = true → i.feed a = i.feed b

def Identity.RespectsKinds (i : Identity U) : Prop :=
  ∀ {a b}, i.same a b = true → a.kind = b.kind

structure Population (U : Universe) where
  Holds : Descriptor U → Prop
  eq_of_id : ∀ {a b}, Holds a → Holds b → a.id = b.id → a = b
  eq_of_key : ∀ {a b i j}, Holds a → Holds b → a.identity = some i → b.identity = some j →
    i.key = j.key → i = j

namespace Population

instance : Membership (Descriptor U) (Population U) :=
  ⟨Population.Holds⟩

def Lawful (P : Population U) : Prop :=
  ∀ d ∈ P, ∀ i, d.identity = some i → i.Lawful

def RespectsKinds (P : Population U) : Prop :=
  ∀ d ∈ P, ∀ i, d.identity = some i → i.RespectsKinds

variable {P : Population U}

theorem beq_iff {a b : Descriptor U} (ha : a ∈ P) (hb : b ∈ P) :
    (a == b) = true ↔
      a = b ∨ ∃ i, a.identity = some i ∧ b.identity = some i ∧
        i.same a.toSignature b.toSignature = true := by
  change Descriptor.same a b = true ↔ _
  unfold Descriptor.same
  by_cases hid : a.id = b.id
  · simp [P.eq_of_id ha hb hid]
  · have hne : a ≠ b := fun h => hid (h ▸ rfl)
    rw [if_neg hid]
    constructor
    · intro h
      right
      split at h
      · rename_i i j hi hj
        obtain ⟨hkey, hsame⟩ := Bool.and_eq_true_iff.mp h
        have hij : i = j := P.eq_of_key ha hb hi hj (beq_iff_eq.mp hkey)
        exact ⟨i, hi, hij ▸ hj, hsame⟩
      · cases h
    · rintro (h | ⟨i, hi, hj, hsame⟩)
      · exact absurd h hne
      · simp [hi, hj, hsame]

theorem Lawful.equivAmong (hP : P.Lawful) : EquivAmong (· ∈ P) where
  refl ha := (beq_iff ha ha).mpr (Or.inl rfl)
  symm := by
    intro a b ha hb hab
    rcases (beq_iff ha hb).mp hab with rfl | ⟨i, hi, hj, hsame⟩
    · exact hab
    · exact (beq_iff hb ha).mpr (Or.inr ⟨i, hj, hi, (hP a ha i hi).symm hsame⟩)
  trans := by
    intro a b c ha hb hc hab hbc
    rcases (beq_iff ha hb).mp hab with rfl | ⟨i, hai, hbi, hsame⟩
    · exact hbc
    · rcases (beq_iff hb hc).mp hbc with rfl | ⟨j, hbj, hcj, hsame'⟩
      · exact hab
      · have hij : i = j := Option.some.inj (hbi.symm.trans hbj)
        subst hij
        exact (beq_iff ha hc).mpr (Or.inr ⟨i, hai, hcj, (hP a ha i hai).trans hsame hsame'⟩)

theorem RespectsKinds.kind_eq (hP : P.RespectsKinds) {a b : Descriptor U} (ha : a ∈ P) (hb : b ∈ P)
    (hab : (a == b) = true) : a.kind = b.kind := by
  rcases (beq_iff ha hb).mp hab with rfl | ⟨i, hi, -, hsame⟩
  · rfl
  · exact hP a ha i hi hsame

end Population

theorem Identity.byName_lawful : (Identity.byName : Identity U).Lawful where
  refl a := by simp [Identity.byName]
  symm := by
    intro a b h
    simp only [Identity.byName, Bool.and_eq_true, beq_iff_eq, decide_eq_true_eq] at h ⊢
    exact ⟨h.1.symm, h.2.symm⟩
  trans := by
    intro a b c hab hbc
    simp only [Identity.byName, Bool.and_eq_true, beq_iff_eq, decide_eq_true_eq] at hab hbc ⊢
    exact ⟨hab.1.trans hbc.1, hab.2.trans hbc.2⟩
  feed_eq := by
    intro a b h
    simp only [Identity.byName, Bool.and_eq_true, beq_iff_eq, decide_eq_true_eq] at h ⊢
    rw [h.1, h.2]

theorem Identity.byName_respectsKinds : (Identity.byName : Identity U).RespectsKinds := by
  intro a b h
  simp only [Identity.byName, Bool.and_eq_true, decide_eq_true_eq] at h
  exact h.2

/-- The property has no strategy, or the one by relative names. -/
def Descriptor.ByReferenceOrName (d : Descriptor U) : Prop :=
  ∀ i, d.identity = some i → i = .byName

namespace Population

def named (P : Population U) : Population U where
  Holds d := d ∈ P ∧ d.ByReferenceOrName
  eq_of_id ha hb := P.eq_of_id ha.1 hb.1
  eq_of_key ha hb := P.eq_of_key ha.1 hb.1

theorem named_lawful (P : Population U) : P.named.Lawful := by
  intro d hd i hi
  rw [hd.2 i hi]
  exact Identity.byName_lawful

theorem named_respectsKinds (P : Population U) : P.named.RespectsKinds := by
  intro d hd i hi
  rw [hd.2 i hi]
  exact Identity.byName_respectsKinds

theorem mem_named_of_beq {P : Population U} {a b : Descriptor U} (ha : a ∈ P.named) (hb : b ∈ P)
    (hab : (a == b) = true) : b ∈ P.named := by
  rcases (beq_iff ha.1 hb).mp hab with rfl | ⟨i, hai, hbi, -⟩
  · exact ha
  · refine ⟨hb, fun j hj => ?_⟩
    rw [← Option.some.inj (hbi.symm.trans hj)]
    exact ha.2 i hai

def ofList (ds : List (Descriptor U)) (hids : ds.Pairwise fun a b => a.id ≠ b.id)
    (hds : ∀ d ∈ ds, d.ByReferenceOrName) : Population U where
  Holds d := d ∈ ds
  eq_of_id := by
    intro a b ha hb
    have hself : ∀ d ∈ ds, d.id = d.id → d = d := fun _ _ _ => rfl
    have hne : ds.Pairwise fun a b => a.id = b.id → a = b :=
      hids.imp fun hab heq => absurd heq hab
    have hflip : ds.Pairwise (flip fun a b => a.id = b.id → a = b) :=
      hids.imp fun hab heq => absurd heq.symm hab
    exact List.Pairwise.forall_of_forall_of_flip hself hne hflip ha hb
  eq_of_key := by
    intro a b i j ha hb hi hj _
    rw [hds a ha i hi, hds b hb j hj]

variable {ds : List (Descriptor U)} {hids : ds.Pairwise fun a b => a.id ≠ b.id}
  {hds : ∀ d ∈ ds, d.ByReferenceOrName}

theorem ofList_lawful : (ofList ds hids hds).Lawful := by
  intro d hd i hi
  rw [hds d hd i hi]
  exact Identity.byName_lawful

theorem ofList_respectsKinds : (ofList ds hids hds).RespectsKinds := by
  intro d hd i hi
  rw [hds d hd i hi]
  exact Identity.byName_respectsKinds

end Population

end TypedRecords
