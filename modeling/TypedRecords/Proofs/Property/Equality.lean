import TypedRecords.Proofs.Property.Making
import TypedRecords.Proofs.Sample

namespace TypedRecords

variable {U : Universe} {S : Strategies U} {ps : List (Property U)}

/-- Equality is an equivalence among some properties and equates only those that hash alike;
properties without a common strategy are equal only if they are handles of one property. -/
structure Property.EqualityLaws (ps : List (Property U)) : Prop where
  refl : ∀ p ∈ ps, (p == p) = true
  symm : ∀ p ∈ ps, ∀ q ∈ ps, (p == q) = true → (q == p) = true
  trans : ∀ p ∈ ps, ∀ q ∈ ps, ∀ r ∈ ps, (p == q) = true → (q == r) = true → (p == r) = true
  feed_eq : ∀ p ∈ ps, ∀ q ∈ ps, (p == q) = true → p.feed = q.feed
  eq_of_apart : ∀ p ∈ ps, ∀ q ∈ ps, (¬∃ i, p.identity = some i ∧ q.identity = some i) →
    (p == q) = true → p = q

theorem Population.Lawful.feed_eq {P : Population U} (hP : P.Lawful) {a b : Descriptor U}
    (ha : a ∈ P) (hb : b ∈ P) (hab : (a == b) = true) : a.feed = b.feed := by
  rcases (Population.beq_iff ha hb).mp hab with rfl | ⟨i, hai, hbi, hsame⟩
  · rfl
  · simp only [Descriptor.feed, hai, hbi]
    exact (hP a ha i hai).feed_eq hsame

/-- However properties were built, copied and altered, with whatever lawful strategies, their
equality obeys its laws. -/
theorem Gathered.equalityLaws (hS : S.Lawful) (h : Gathered S ps) : Property.EqualityLaws ps := by
  have hP := h.population_lawful hS
  have hmem : ∀ p ∈ ps, p.toDescriptor ∈ h.population := fun p hp => h.mem_population hp
  refine ⟨?_, ?_, ?_, ?_, ?_⟩
  · exact fun p hp => hP.equivAmong.refl (hmem p hp)
  · exact fun p hp q hq => hP.equivAmong.symm (hmem p hp) (hmem q hq)
  · exact fun p hp q hq r hr => hP.equivAmong.trans (hmem p hp) (hmem q hq) (hmem r hr)
  · exact fun p hp q hq => hP.feed_eq (hmem p hp) (hmem q hq)
  · intro p hp q hq hapart hpq
    rcases (Population.beq_iff (hmem p hp) (hmem q hq)).mp hpq with hone | ⟨i, hpi, hqi, -⟩
    · exact h.eq_of_id p hp q hq (congrArg (fun d => d.id) hone)
    · exact absurd ⟨i, hpi, hqi⟩ hapart

namespace Sample

def byLength : Identity kinds where
  key := 1
  same a b := a.name.length == b.name.length
  feed s := [.number s.name.length]

theorem byLength_lawful : byLength.Lawful where
  refl a := by simp [byLength]
  symm h := by
    simp only [byLength, beq_iff_eq] at h ⊢
    exact h.symm
  trans h h' := by
    simp only [byLength, beq_iff_eq] at h h' ⊢
    exact h.trans h'
  feed_eq h := by
    simp only [byLength, beq_iff_eq] at h ⊢
    rw [h]

def strategies : Strategies kinds where
  Holds i := i = .byName ∨ i = byLength
  byName := Or.inl rfl
  eq_of_key := by
    rintro i j (rfl | rfl) (rfl | rfl) hkey
    · rfl
    · cases hkey
    · cases hkey
    · rfl

theorem strategies_lawful : strategies.Lawful := by
  rintro i (rfl | rfl)
  · exact Identity.byName_lawful
  · exact byLength_lawful

end Sample

open Sample in
theorem equalityLaws_note_size :
    let note := PathDraft.build (k := Kind.text) { name := "note", identity := some byLength } ⟨1⟩
    let size :=
      VirtualDraft.build (k := Kind.number) { name := some "size", identity := some byLength } ⟨2⟩
    let plain := PathDraft.build (k := Kind.number) { name := "plain" } ⟨3⟩
    let ps := [note, plain.duplicate ⟨5⟩, plain, note.duplicate ⟨4⟩, size, note]
    strategies.Lawful ∧ Gathered strategies ps ∧ Property.EqualityLaws ps ∧
      (note.duplicate ⟨4⟩ == size) = true ∧ (plain == plain.duplicate ⟨5⟩) = false := by
  intro note size plain ps
  let noteCalls : List (PathDraft.Call kinds Kind.text) := [.alter (.withIdentity byLength)]
  let sizeCalls : List (VirtualDraft.Call kinds Kind.number) :=
    [.withName "size", .alter (.withIdentity byLength)]
  have hnone : ∀ c ∈ ([] : List (PathDraft.Call kinds Kind.number)), c.Within strategies := by simp
  have hcall : ∀ c ∈ noteCalls, c.Within strategies := List.forall_mem_singleton.mpr (Or.inr rfl)
  have hcalls : ∀ c ∈ sizeCalls, c.Within strategies :=
    List.forall_mem_cons.mpr ⟨trivial, List.forall_mem_singleton.mpr (Or.inr rfl)⟩
  have hnote : Gathered strategies [note] := .path .nil hcall rfl (by simp)
  have hsize : Gathered strategies [size, note] := .virtual hnote hcalls (by decide)
  have hcopy : Gathered strategies [note.duplicate ⟨4⟩, size, note] :=
    .duplicate hsize (by simp) (by decide)
  have hplain : Gathered strategies [plain, note.duplicate ⟨4⟩, size, note] :=
    .path hcopy hnone rfl (by decide)
  have hpair : Gathered strategies
      [plain.duplicate ⟨5⟩, plain, note.duplicate ⟨4⟩, size, note] :=
    .duplicate hplain (by simp) (by decide)
  have hgathered : Gathered strategies ps :=
    .downcast (p := note) (k := Kind.text) (t := ⟨note, rfl⟩) hpair (by simp) rfl
  exact ⟨strategies_lawful, hgathered, hgathered.equalityLaws strategies_lawful, by decide,
    by decide⟩

end TypedRecords
