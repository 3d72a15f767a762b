import TypedRecords.Proofs.Resolver.Memory
import TypedRecords.Proofs.Text.Lowercase

namespace TypedRecords

variable {U : Universe}

theorem findIdx?_eq_some_iff_find? {α : Type} {f : α → Bool} {xs : List α} {i : Nat} :
    xs.findIdx? f = some i ↔
      ∃ a, xs.find? f = some a ∧ xs[i]? = some a ∧ ∀ k < i, xs[k]? ≠ some a := by
  have hfirst : ∀ {i}, xs.findIdx? f = some i →
      ∃ a, xs.find? f = some a ∧ xs[i]? = some a ∧ ∀ k < i, xs[k]? ≠ some a := by
    intro i hi
    obtain ⟨hlength, hfound, hbefore⟩ := List.findIdx?_eq_some_iff_getElem.mp hi
    refine ⟨xs[i], ?_, List.getElem?_eq_getElem hlength, fun k hk hequal => ?_⟩
    · rw [List.find?_eq_bind_findIdx?_getElem?, hi]
      exact List.getElem?_eq_getElem hlength
    · rw [List.getElem?_eq_getElem (hk.trans hlength), Option.some.injEq] at hequal
      exact hbefore k hk (hequal ▸ hfound)
  constructor
  · exact hfirst
  · rintro ⟨a, hfind, ha, hbefore⟩
    cases hj : xs.findIdx? f with
    | none =>
        rw [List.find?_eq_bind_findIdx?_getElem?, hj] at hfind
        cases hfind
    | some j =>
        obtain ⟨b, hfind', hb, hbefore'⟩ := hfirst hj
        obtain rfl : a = b := Option.some.inj (hfind.symm.trans hfind')
        rcases Nat.lt_trichotomy j i with hlt | rfl | hlt
        · exact absurd hb (hbefore j hlt)
        · rfl
        · exact absurd ha (hbefore' i hlt)

theorem Lookup.hits_iff {l : Lookup U} {query : Path} {p : Property U} :
    l.hits query p = true ↔
      ∃ candidate, l.pathOf p.toDescriptor = some candidate ∧ l.isMatch candidate query = true := by
  rw [hits_eq, Option.any_eq_true]

namespace Resolver

def FoundAt (r : Resolver U) (query : Path) (i : Nat) : Prop :=
  ∃ p, (r.find query).1 = some p ∧ r.schema.members[i]? = some p ∧
    ∀ k < i, r.schema.members[k]? ≠ some p

theorem Remembers.foundAt_iff {l : Lookup U} {s : Schema U} {paths : Finset Path} {r : Resolver U}
    (h : Remembers l s paths r) {query : Path} {i : Nat} :
    r.FoundAt query i ↔ s.members.findIdx? (l.hits query) = some i := by
  rw [findIdx?_eq_some_iff_find?, FoundAt, h.find_answer, h.schema]
  rfl

/-- The names of the properties' paths are the same whenever their lower-case forms are. -/
def ApartInAnyCase (pathOf : Descriptor U → Option Path) (ps : List (Property U)) : Prop :=
  ∀ p ∈ ps, ∀ q ∈ ps, ∀ a b, pathOf p.toDescriptor = some a → pathOf q.toDescriptor = some b →
    Text.lowercase a.relativeName = Text.lowercase b.relativeName → a.relativeName = b.relativeName

/-- What one resolver of a schema finds in any case, compared with what another finds exactly. -/
structure ExtendsExact (pathOf : Descriptor U → Option Path) (s : Schema U)
    (anyCase exact : Resolver U) : Prop where
  foundAt : ∀ query i, exact.FoundAt query i → ∃ j ≤ i, anyCase.FoundAt query j ∧
    ∃ p candidate, s.members[j]? = some p ∧ pathOf p.toDescriptor = some candidate ∧
      Text.lowercase candidate.relativeName = Text.lowercase query.relativeName
  find_eq_none : ∀ query, (anyCase.find query).1 = none → (exact.find query).1 = none
  find_eq_of_sameUpToCase : ∀ query recased, Text.IsAscii query.relativeName →
    Text.SameUpToCase query.relativeName recased.relativeName →
      (anyCase.find recased).1 = (anyCase.find query).1
  foundAt_same : ApartInAnyCase pathOf s.members →
    ∀ query i, exact.FoundAt query i → anyCase.FoundAt query i

section

variable {pathOf : Descriptor U → Option Path} {query : Path} {p : Property U}
  {ps : List (Property U)} {i : Nat}

theorem hits_exactly_iff : Lookup.hits ⟨pathOf, Path.matchesExactly⟩ query p = true ↔
    ∃ candidate, pathOf p.toDescriptor = some candidate ∧
      candidate.relativeName = query.relativeName := by
  simp only [Lookup.hits_iff, Path.matchesExactly, beq_iff_eq]

theorem hits_anyCase_iff : Lookup.hits ⟨pathOf, Path.matchesAnyCase⟩ query p = true ↔
    ∃ candidate, pathOf p.toDescriptor = some candidate ∧
      Text.lowercase candidate.relativeName = Text.lowercase query.relativeName := by
  simp only [Lookup.hits_iff, Path.matchesAnyCase, beq_iff_eq]

theorem hits_anyCase_of_exactly (h : Lookup.hits ⟨pathOf, Path.matchesExactly⟩ query p = true) :
    Lookup.hits ⟨pathOf, Path.matchesAnyCase⟩ query p = true := by
  obtain ⟨candidate, hpath, hname⟩ := hits_exactly_iff.mp h
  exact hits_anyCase_iff.mpr ⟨candidate, hpath, congrArg Text.lowercase hname⟩

theorem exists_findIdx?_anyCase
    (h : ps.findIdx? (Lookup.hits ⟨pathOf, Path.matchesExactly⟩ query) = some i) :
    ∃ j ≤ i, ps.findIdx? (Lookup.hits ⟨pathOf, Path.matchesAnyCase⟩ query) = some j :=
  List.findIdx?_eq_some_le_of_findIdx?_eq_some (fun _ _ => hits_anyCase_of_exactly) h

theorem ApartInAnyCase.findIdx?_anyCase (hps : ApartInAnyCase pathOf ps)
    (h : ps.findIdx? (Lookup.hits ⟨pathOf, Path.matchesExactly⟩ query) = some i) :
    ps.findIdx? (Lookup.hits ⟨pathOf, Path.matchesAnyCase⟩ query) = some i := by
  obtain ⟨hlength, hhit, -⟩ := List.findIdx?_eq_some_iff_getElem.mp h
  obtain ⟨found, hfound, hname⟩ := hits_exactly_iff.mp hhit
  -- the name that is looked up is that of a member, so what matches it in any case has its name
  have hexactly : ∀ p ∈ ps, Lookup.hits ⟨pathOf, Path.matchesAnyCase⟩ query p = true →
      Lookup.hits ⟨pathOf, Path.matchesExactly⟩ query p = true := by
    intro p hp hhit
    obtain ⟨candidate, hpath, hlower⟩ := hits_anyCase_iff.mp hhit
    have hsame := hps p hp _ (List.getElem_mem hlength) candidate found hpath hfound
      (hlower.trans (congrArg Text.lowercase hname.symm))
    exact hits_exactly_iff.mpr ⟨candidate, hpath, hsame.trans hname⟩
  obtain ⟨j, hj, hany⟩ := exists_findIdx?_anyCase h
  obtain ⟨i', hi', hexact⟩ := List.findIdx?_eq_some_le_of_findIdx?_eq_some hexactly hany
  obtain rfl : i = i' := Option.some.inj (h.symm.trans hexact)
  rw [hany, Nat.le_antisymm hj hi']

end

/-- Whatever the two resolvers were asked before. -/
theorem extendsExact_run (pathOf : Descriptor U → Option Path) (s : Schema U)
    (qs qs' : List (Query U)) :
    ExtendsExact pathOf s ((create ⟨pathOf, Path.matchesAnyCase⟩ s).run qs)
      ((create ⟨pathOf, Path.matchesExactly⟩ s).run qs') := by
  have hany := remembers_run ⟨pathOf, Path.matchesAnyCase⟩ s qs
  have hexact := remembers_run ⟨pathOf, Path.matchesExactly⟩ s qs'
  refine ⟨?_, ?_, ?_, ?_⟩
  · intro query i hi
    obtain ⟨j, hj, hfound⟩ := exists_findIdx?_anyCase (hexact.foundAt_iff.mp hi)
    refine ⟨j, hj, hany.foundAt_iff.mpr hfound, ?_⟩
    obtain ⟨hlength, hhit, -⟩ := List.findIdx?_eq_some_iff_getElem.mp hfound
    obtain ⟨candidate, hpath, hname⟩ := hits_anyCase_iff.mp hhit
    exact ⟨s.members[j], candidate, List.getElem?_eq_getElem hlength, hpath, hname⟩
  · intro query hnone
    rw [hany.find_answer, Lookup.first?, List.find?_eq_none] at hnone
    rw [hexact.find_answer, Lookup.first?, List.find?_eq_none]
    exact fun p hp hhit => hnone p hp (hits_anyCase_of_exactly hhit)
  · intro query recased hascii hcase
    have hhits : Lookup.hits ⟨pathOf, Path.matchesAnyCase⟩ recased =
        Lookup.hits ⟨pathOf, Path.matchesAnyCase⟩ query := by
      funext p
      rw [Bool.eq_iff_iff, hits_anyCase_iff, hits_anyCase_iff, hcase.lowercase_eq hascii]
    rw [hany.find_answer, hany.find_answer, Lookup.first?, Lookup.first?, hhits]
  · intro hapart query i hi
    exact hany.foundAt_iff.mpr (hapart.findIdx?_anyCase (hexact.foundAt_iff.mp hi))

end Resolver

end TypedRecords
