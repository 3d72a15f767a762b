import TypedRecords.Proofs.Collection.Distinct
import TypedRecords.Proofs.Record.Making
import TypedRecords.Proofs.Record.Reading
import TypedRecords.Proofs.Schema.Building

namespace TypedRecords

variable {U : Universe} {P : Population U} {s : Schema U}

structure Schema.Named (P : Population U) (s : Schema U) : Prop where
  built : ∃ ms is, Built (· ∈ P) ms is s
  named : ∀ p ∈ s.members, p.toDescriptor.ByReferenceOrName

namespace Schema.Named

theorem members_within (hs : s.Named P) : ∀ p ∈ s.members, p.toDescriptor ∈ P := by
  obtain ⟨ms, is, hbuilt⟩ := hs.built
  exact hbuilt.members_within

theorem covered (hs : s.Named P) : ∀ p ∈ s.members, p.toDescriptor ∈ P.named :=
  fun p hp => ⟨hs.members_within p hp, hs.named p hp⟩

theorem distinct (hs : s.Named P) : Schema.Distinct s.members := by
  obtain ⟨ms, is, hbuilt⟩ := hs.built
  exact hbuilt.distinct

theorem mem_named (hs : s.Named P) {d : Descriptor U} (hd : d ∈ P) (hmember : s.contains d = true) :
    d ∈ P.named := by
  obtain ⟨p, hp, hpd⟩ := contains_iff.mp hmember
  exact Population.mem_named_of_beq (hs.covered p hp) hd hpd

end Schema.Named

namespace Contents

theorem Step.within_named {c c' : Contents U} {e : Edit U} (hs : s.Named P) (hschema : c.schema = s)
    (he : e.Within P) (h : c.Step e c') : e.Within P.named := by
  intro d hd
  cases h with
  | allow allowed => cases hd
  | put leaves writable admits =>
      cases Option.some.inj (leaves.property?_eq.symm.trans hd)
      exact hs.mem_named (he d hd) (hschema ▸ writable.member)

theorem Reachable.named {c : Contents U} (hc : c.Reachable P s) (hs : s.Named P) :
    c.Reachable P.named s := by
  obtain ⟨id, es, hes, rfl⟩ := hc
  refine run_induction (motive := Reachable P.named s) ⟨id, [], by simp, rfl⟩ ?_
  rintro c e c' he hc hstep
  have hwithin := hstep.within_named hs hc.over.schema_eq (hes e he)
  obtain ⟨id', es', hes', rfl⟩ := hc
  refine ⟨id', es' ++ [e], ?_, ?_⟩
  · exact List.forall_mem_append.mpr ⟨hes', List.forall_mem_singleton.mpr hwithin⟩
  · rw [run_concat, after_of_step hstep]

theorem Reachable.keys_contained {c : Contents U} (hc : c.Reachable P s) :
    c.values.KeysIn (s.contains · = true) := by
  obtain ⟨id, es, hes, rfl⟩ := hc
  refine (run_induction (motive := fun c => c.schema = s ∧ c.values.KeysIn (s.contains · = true))
    ⟨rfl, Table.keysIn_empty⟩ ?_).2
  rintro c e c' - ⟨hschema, hkeys⟩ hstep
  cases hstep with
  | allow allowed => exact ⟨hschema, hkeys⟩
  | put leaves writable admits =>
      exact ⟨hschema, hkeys.update (hschema ▸ writable.member) _⟩

theorem Reachable.distinct {c : Contents U} (hc : c.Reachable P s) (hP : P.Lawful) :
    c.values.Distinct := by
  obtain ⟨id, es, hes, rfl⟩ := hc
  refine (run_induction (motive := fun c => Over P s c ∧ c.values.Distinct)
    ⟨over_create P s id, Table.distinct_empty⟩ ?_).2
  rintro c e c' he ⟨hc, hdistinct⟩ hstep
  refine ⟨hc.step (hes e he) hstep, ?_⟩
  cases hstep with
  | allow allowed => exact hdistinct
  | put leaves writable admits =>
      exact hdistinct.update hP.equivAmong hc.keys (hes e he _ leaves.property?_eq) _

theorem provide_error {c : Contents U} {name : String} {k : U.Kind} {provider : Provider U k}
    {e : Error} (h : c.provide name provider = .error e) :
    e = .property (.missingProvider name) ∨ ∃ source, e = .property (.provider name source) := by
  cases provider with
  | missing =>
      rw [provide] at h
      exact Or.inl (Except.error.inj h).symm
  | computed computation =>
      rw [provide] at h
      split at h
      · cases h
      · exact Or.inr ⟨_, (Except.error.inj h).symm⟩

theorem read_error {c : Contents U} {p : Property U} {e : Error}
    (hkind : c.contains p.toDescriptor = true →
      ∀ v, c.values.get? p.toDescriptor = some v → v.kind = p.kind)
    (h : c.read p = .error e) :
    e = notFound p.toDescriptor ∨ e = .property (.missingProvider p.name) ∨
      ∃ source, e = .property (.provider p.name source) := by
  by_cases hmember : c.contains p.toDescriptor = true
  · right
    cases hpath : p.isVirtual with
    | true =>
        rw [read, if_pos hmember, hpath, if_pos rfl] at h
        exact provide_error h
    | false =>
        have hget := get_of_path hmember hpath (hkind hmember)
        rw [get, h] at hget
        cases hget
  · left
    rw [read, if_neg hmember] at h
    exact (Except.error.inj h).symm

theorem get_eq_error_iff {c : Contents U} {p : Property U} {e : Error} :
    c.get p = .error e ↔ c.read p = .error e := by
  rw [get]
  cases c.read p <;> simp [Except.map]

theorem has_iff {c : Contents U} {p : Property U}
    (hkind : c.contains p.toDescriptor = true →
      ∀ v, c.values.get? p.toDescriptor = some v → v.kind = p.kind) :
    c.has p = true ↔ ∃ v, c.get p = .ok (some v) := by
  by_cases hmember : c.contains p.toDescriptor = true
  · cases hpath : p.isVirtual with
    | true =>
        rw [has, get, read, if_pos hmember, hmember, hpath, if_pos rfl, if_pos rfl, Bool.true_and]
        cases c.provide p.name p.provider with
        | error e => simp [Except.map]
        | ok x => cases x <;> simp [Except.map]
    | false =>
        rw [get_of_path hmember hpath (hkind hmember), has, hmember, hpath,
          if_neg Bool.false_ne_true, Bool.true_and, Option.isSome_iff_exists]
        simp only [Except.ok.injEq]
  · rw [has, get, read, if_neg hmember, Bool.eq_false_iff.mpr hmember]
    simp [Except.map]

/-- The values of a record belong to its members and are of their kinds, so a reading never finds
one of another kind, and what can be read is what the record is said to have. -/
structure Consistent (P : Population U) (c : Contents U) : Prop where
  member : ∀ entry ∈ c.values.entries,
    ∃ m, c.schema.members.filter (fun p => entry.1 == p.toDescriptor) = [m]
  distinct : c.values.Distinct
  kind : ∀ entry ∈ c.values.entries, ∀ q ∈ P, (entry.1 == q) = true → entry.2.kind = q.kind
  read_error : ∀ p : Property U, p.toDescriptor ∈ P → ∀ e, c.read p = .error e →
    e.isTypeMismatch = false
  get_error : ∀ p : Property U, p.toDescriptor ∈ P → ∀ e, c.get p = .error e →
    e.isTypeMismatch = false
  has_iff : ∀ p : Property U, p.toDescriptor ∈ P →
    (c.has p = true ↔ ∃ v, c.get p = .ok (some v))
  /-- The stored values are those of the entries, each once. -/
  listed : ∃ entries : List (Descriptor U × Value U), entries.Perm c.values.entries ∧
    List.Forall₂ (fun entry x => (x.1.toDescriptor == entry.1) = true ∧ entry.2 = x.2) entries
      c.storedValues
  ordered : (c.storedValues.map Prod.fst).Sublist c.schema.members

theorem storedValues_sublist (c : Contents U) :
    (c.storedValues.map Prod.fst).Sublist c.schema.members := by
  have hmap : c.storedValues.map Prod.fst =
      c.schema.members.filter fun p => (c.values.get? p.toDescriptor).isSome := by
    rw [storedValues, List.map_filterMap, ← List.filterMap_eq_filter]
    refine List.filterMap_congr fun p _ => ?_
    cases h : c.values.get? p.toDescriptor <;> simp [Option.guard, h]
  rw [hmap]
  exact List.filter_sublist

theorem Reachable.consistent_of_named {c : Contents U} (hc : c.Reachable P s) (hs : s.Named P) :
    c.Consistent P := by
  have hnamed := hc.named hs
  have hP := P.named_lawful
  have hequiv := hP.equivAmong
  have hschema := hc.over.schema_eq
  have hkeys := hnamed.over.keys
  have hdistinct := hnamed.distinct hP
  have htyped := hnamed.typed hP P.named_respectsKinds
  have hmember : ∀ entry ∈ c.values.entries,
      ∃ m ∈ s.members, (m.toDescriptor == entry.1) = true := fun entry hentry =>
    Schema.contains_iff.mp (hc.keys_contained entry hentry)
  have hkind : ∀ p : Property U, p.toDescriptor ∈ P → c.contains p.toDescriptor = true →
      ∀ v, c.values.get? p.toDescriptor = some v → v.kind = p.kind := by
    intro p hp hcontains
    rw [contains, hschema] at hcontains
    exact htyped _ (hs.mem_named hp hcontains)
  have hread : ∀ p : Property U, p.toDescriptor ∈ P → ∀ e, c.read p = .error e →
      e.isTypeMismatch = false := by
    intro p hp e he
    rcases read_error (hkind p hp) he with rfl | rfl | ⟨source, rfl⟩ <;> rfl
  refine ⟨?_, hdistinct, ?_, hread, fun p hp e he => hread p hp e (get_eq_error_iff.mp he),
    fun p hp => has_iff (hkind p hp), ?_, c.storedValues_sublist⟩
  · intro entry hentry
    obtain ⟨m, hm, hmk⟩ := hmember entry hentry
    have hk := hkeys entry hentry
    rw [hschema]
    refine ⟨m, filter_eq_singleton (hs.distinct.imp_of_mem ?_) hm
      (hequiv.symm (hs.covered m hm) hk hmk)⟩
    intro p q hp hq hne
    exact hequiv.apart (hs.covered p hp) (hs.covered q hq) hk hne
  · intro entry hentry q hq hequal
    have hk := hkeys entry hentry
    have hq' := Population.mem_named_of_beq hk hq hequal
    exact htyped q hq' _
      (hdistinct.get?_of_mem hequiv hkeys hentry hq' (hequiv.symm hk hq' hequal))
  · rw [storedValues, hschema]
    exact hdistinct.exists_listing hequiv hs.covered hs.distinct hkeys hmember

end Contents

/-- However a record was made and edited, its values belong to its members and are of their
kinds. -/
theorem Record.MadeBy.consistent {r : Record U} {es : List (Edit U)}
    (h : r.MadeBy P (Schema.Named P) es) : r.toContents.Consistent P :=
  h.reachable.consistent_of_named h.schema

open Sample in
theorem consistent_derived_title :
    let start : Record kinds := .create (.of [derived, title]) ⟨8⟩
    let edited := start.withContents (start.after (.set count.toDescriptor (some (5 : Int)) false))
    let r := edited.duplicate ⟨9⟩
    r.toContents.Consistent population ∧ r.storedValues = [(derived, number 5)] ∧
      r.has count = true ∧ r.get derived = .ok (some (number 7)) := by
  intro start edited r
  have hderived : derived.toDescriptor ∈ population := mem_population (by simp [properties])
  have hmembers : ∀ p ∈ [derived, title], p.toDescriptor ∈ population := by
    simp [hderived, title_mem]
  have hnamed : Schema.Named population (.of [derived, title]) := by
    refine ⟨⟨_, _, .of hmembers⟩, ?_⟩
    intro p hp i hi
    rcases List.mem_pair.mp hp with rfl | rfl
    · cases hi
      rfl
    · cases hi
  have hedit : (Edit.set count.toDescriptor (some (5 : Int)) false).Within population := by
    rintro d ⟨⟩
    exact count_mem
  have hmade : r.MadeBy population (Schema.Named population)
      ([] ++ [.set count.toDescriptor (some (5 : Int)) false]) :=
    .duplicate (.edit (.create hnamed ⟨8⟩) hedit) ⟨9⟩
  exact ⟨hmade.consistent, rfl, rfl, rfl⟩

end TypedRecords
