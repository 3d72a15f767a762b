import TypedRecords.Proofs.Record.History

namespace TypedRecords.Contents

variable {U : Universe} {P : Population U} {s : Schema U}

/-- Every value is of the kind of the properties that it is found under. -/
def Typed (P : Population U) (c : Contents U) : Prop :=
  ∀ q ∈ P, ∀ v, c.values.get? q = some v → v.kind = q.kind

theorem Reachable.typed {c : Contents U} (hc : c.Reachable P s) (hP : P.Lawful)
    (hkinds : P.RespectsKinds) : Typed P c := by
  intro q hq v hv
  obtain ⟨d, hd, hdq, hstores⟩ := hc.exists_stores hP hq hv
  rw [hstores.kind, hkinds.kind_eq hd hq hdq]

theorem get_of_path {c : Contents U} {q : Property U} (hmember : c.contains q.toDescriptor = true)
    (hpath : q.isVirtual = false)
    (hkind : ∀ v, c.values.get? q.toDescriptor = some v → v.kind = q.kind) :
    c.get q = .ok (c.values.get? q.toDescriptor) := by
  have hread : c.read q = c.stored q.toDescriptor := by
    rw [read, if_pos hmember, if_neg (by simp [hpath])]
  rw [get, hread, stored]
  cases hv : c.values.get? q.toDescriptor with
  | none => rfl
  | some v =>
      obtain ⟨k, val⟩ := v
      have hk : k = q.kind := hkind ⟨k, val⟩ hv
      subst hk
      simp [Signature.expect, Value.as?, Except.map]

theorem get_congr {a b : Contents U} {q : Property U} (ha : a.contains q.toDescriptor = true)
    (hb : b.contains q.toDescriptor = true) (hpath : q.isVirtual = false)
    (h : a.values.get? q.toDescriptor = b.values.get? q.toDescriptor) : a.get q = b.get q := by
  simp [get, read, stored, ha, hb, hpath, h]

theorem get_of_kind_ne {c : Contents U} {q : Property U} {v : Value U}
    (hpath : q.isVirtual = false) (hv : c.values.get? q.toDescriptor = some v)
    (hkind : v.kind ≠ q.kind) : ∃ e, c.get q = .error e := by
  rw [get, read]
  split
  · simp [hpath, stored, hv, Signature.expect, Value.as?_eq_none hkind, Except.map]
  · exact ⟨_, rfl⟩

theorem contains_of_get {c : Contents U} {p : Property U} {x : Option (Value U)}
    (h : c.get p = .ok x) : c.contains p.toDescriptor = true := by
  by_contra hnot
  rw [get, read, if_neg hnot] at h
  cases h

theorem get_eq_ok_iff {c : Contents U} {q : Property U} {x : Option (Value U)}
    (hpath : q.isVirtual = false) :
    c.get q = .ok x ↔ c.contains q.toDescriptor = true ∧ c.values.get? q.toDescriptor = x ∧
      ∀ v, x = some v → v.kind = q.kind := by
  constructor
  · intro h
    have hkind : ∀ v, c.values.get? q.toDescriptor = some v → v.kind = q.kind := by
      intro v hv
      by_contra hne
      obtain ⟨e, he⟩ := get_of_kind_ne hpath hv hne
      exact nomatch h.symm.trans he
    have hcontains := contains_of_get h
    rw [get_of_path hcontains hpath hkind] at h
    cases h
    exact ⟨hcontains, rfl, hkind⟩
  · rintro ⟨hcontains, rfl, hkind⟩
    exact get_of_path hcontains hpath hkind

end TypedRecords.Contents
