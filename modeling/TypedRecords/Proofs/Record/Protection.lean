import TypedRecords.Proofs.Record.History
import TypedRecords.Proofs.Sample

namespace TypedRecords

variable {U : Universe} {P : Population U} {s : Schema U}

/-- A member under which values can be stored is not virtual, and if it is read-only, so are all
properties that equal it. -/
def Schema.FlagsAgree (P : Population U) (s : Schema U) : Prop :=
  ∀ m ∈ s.members, (∃ d ∈ P, (d == m.toDescriptor) = true ∧ d.Storable) →
    m.isVirtual = false ∧
      (m.isReadOnly = true → ∀ d ∈ P, (d == m.toDescriptor) = true → d.isReadOnly = true)

theorem Signature.isVirtual_eq_false {d : Signature U} (h : d.isReadOnly = false) :
    d.isVirtual = false :=
  (Bool.or_eq_false_iff.mp h).1

namespace Contents

/-- Nothing is stored under a virtual member, and no edit without an override changes what is stored
under a read-only one. -/
structure Protects (P : Population U) (s : Schema U) (c : Contents U) : Prop where
  virtual : ∀ m ∈ s.members, m.isVirtual = true → c.values.get? m.toDescriptor = none
  listed : ∀ entry ∈ c.storedValues, entry.1.isVirtual = false
  readOnly : ∀ e : Edit U, e.Within P → e.overrides = false → ∀ m ∈ s.members,
    m.isReadOnly = true → (c.after e).values.get? m.toDescriptor = c.values.get? m.toDescriptor

theorem get?_after_of_readOnly (hP : P.Lawful) {c : Contents U} (hc : c.Reachable P s) {e : Edit U}
    (he : e.Within P) (hoverrides : e.overrides = false) {m : Descriptor U} (hm : m ∈ P)
    (hreadOnly : (∃ d ∈ P, (d == m) = true ∧ d.Storable) →
      ∀ d ∈ P, (d == m) = true → d.isReadOnly = true) :
    (c.after e).values.get? m = c.values.get? m := by
  by_cases hidle : (∃ err, c.apply e = .error err) ∨ ¬e.Touches m
  · exact get?_after_of_idle hc.over hP he hm hidle
  · obtain ⟨hsucceeds, htouches⟩ := not_or.mp hidle
    rw [not_not] at htouches
    cases happly : c.apply e with
    | error err => exact absurd ⟨err, happly⟩ hsucceeds
    | ok c' =>
        have hstep := apply_eq_ok_iff.mp happly
        rw [after_of_step hstep]
        cases hstep with
        | allow allowed => rfl
        | @put e d x leaves writable admits =>
            obtain ⟨d', hd', hdm⟩ := htouches
            have hdd : d = d' := Option.some.inj (leaves.property?_eq.symm.trans hd')
            subst hdd
            have hd : d ∈ P := he d leaves.property?_eq
            have hnone : ¬∃ d ∈ P, (d == m) = true ∧ d.Storable := by
              intro hstorable
              have hoverride := writable.unprotected (hreadOnly hstorable d hd hdm)
              rw [hoverrides] at hoverride
              cases hoverride
            rw [hc.over.get?_put hP hd hm, if_pos (hP.equivAmong.symm hd hm hdm)]
            cases x with
            | some v =>
                have hstores := leaves.stores writable.path (admits.kind v rfl)
                exact absurd ⟨d, hd, hdm, v, hstores⟩ hnone
            | none =>
                cases hv : c.values.get? m with
                | none => rfl
                | some v =>
                    obtain ⟨d', hd', hdm', hstores⟩ := hc.exists_stores hP hm hv
                    exact absurd ⟨d', hd', hdm', v, hstores⟩ hnone

/-- Every record of a schema that edits can reach protects the members if and only if the properties
that equal them agree with them on what may be written. -/
theorem protects_iff_flagsAgree (hP : P.Lawful) (hs : P.Covers s) :
    (∀ c : Contents U, c.Reachable P s → c.Protects P s) ↔ s.FlagsAgree P := by
  constructor
  · rintro h m hm ⟨d, hd, hdm, x, hx⟩
    have hmP := hs.members m hm
    have hmd := hP.equivAmong.symm hd hmP hdm
    have hcontains : s.contains d = true := Schema.contains_iff.mpr ⟨m, hm, hmd⟩
    have hprotects := h _ (reachable_holding ⟨0⟩ hd hcontains hx)
    have hvalue : (holding s ⟨0⟩ d x).values.get? m.toDescriptor = some x := by
      rw [get?_holding hP hd hmP, if_pos hmd]
    constructor
    · by_contra hvirtual
      have hnone := hprotects.virtual m hm (by simpa using hvirtual)
      rw [hvalue] at hnone
      cases hnone
    · intro hreadOnly d' hd' hdm'
      by_contra hwritable
      have hwritable' : d'.isReadOnly = false := by simpa using hwritable
      have hmd' := hP.equivAmong.symm hd' hmP hdm'
      have hclear : Step (holding s ⟨0⟩ d x) (.clear d') ((holding s ⟨0⟩ d x).put d' none) := by
        refine .put .clear
          ⟨Schema.contains_iff.mpr ⟨m, hm, hmd'⟩, Signature.isVirtual_eq_false hwritable', ?_⟩
          ⟨(fun _ hv => nomatch hv), fun h => nomatch h⟩
        intro hprotected
        exact absurd hprotected hwritable
      have hwithin : (Edit.clear d').Within P := by
        rintro _ ⟨⟩
        exact hd'
      have hkept := hprotects.readOnly (.clear d') hwithin rfl m hm hreadOnly
      have hc : Over P s (holding s ⟨0⟩ d x) := (reachable_holding ⟨0⟩ hd hcontains hx).over
      rw [after_of_step hclear, hc.get?_put hP hd' hmP, if_pos hmd', hvalue] at hkept
      cases hkept
  · intro h c hc
    have hvirtual : ∀ m ∈ s.members, m.isVirtual = true →
        c.values.get? m.toDescriptor = none := by
      intro m hm hvirtual
      cases hv : c.values.get? m.toDescriptor with
      | none => rfl
      | some v =>
          obtain ⟨d, hd, hdm, hstores⟩ := hc.exists_stores hP (hs.members m hm) hv
          rw [(h m hm ⟨d, hd, hdm, v, hstores⟩).1] at hvirtual
          cases hvirtual
    refine ⟨hvirtual, ?_, ?_⟩
    · rintro ⟨m, v⟩ hentry
      obtain ⟨hm, hv⟩ := mem_storedValues.mp hentry
      rw [hc.over.schema_eq] at hm
      by_contra hnot
      rw [hvirtual m hm (by simpa using hnot)] at hv
      cases hv
    · intro e he hoverrides m hm hreadOnly
      exact get?_after_of_readOnly hP hc he hoverrides (hs.members m hm)
        fun hstorable => (h m hm hstorable).2 hreadOnly

open Sample in
theorem protects_stamp :
    (∀ c : Contents kinds, c.Reachable population { members := [stamp] } →
        c.Protects population { members := [stamp] }) ∧
      ¬∀ c : Contents kinds, c.Reachable population { members := [frozen] } →
        c.Protects population { members := [frozen] } := by
  have hstamp : population.Covers { members := [stamp] } :=
    covers (by simp [properties]) (by simp)
  have hfrozen : population.Covers { members := [frozen] } :=
    covers (by simp [properties]) (by simp)
  constructor
  · refine (protects_iff_flagsAgree Population.ofList_lawful hstamp).mpr ?_
    intro m hm _
    rw [List.mem_singleton.mp hm]
    have hequal : ∀ d ∈ properties.map Property.toDescriptor,
        (d == stamp.toDescriptor) = true → d.isReadOnly = true := by decide
    exact ⟨rfl, fun _ => hequal⟩
  · intro h
    have hagree := (protects_iff_flagsAgree Population.ofList_lawful hfrozen).mp h frozen
      List.mem_cons_self
      ⟨count.toDescriptor, count_mem, rfl, number 4, rfl, rfl, _, .plain _ fun c hc => nomatch hc⟩
    have hcount := hagree.2 rfl count.toDescriptor count_mem rfl
    cases hcount

open Sample in
/-- A plain write through an equal property stores a value under a computed member, and replaces
that of a protected one. -/
theorem not_protects_derived_frozen :
    (¬∀ c : Contents kinds, c.Reachable population { members := [derived] } →
        ∀ entry ∈ c.storedValues, entry.1.isVirtual = false) ∧
      ¬∀ c : Contents kinds, c.Reachable population { members := [frozen] } →
        ∀ e : Edit kinds, e.Within population → e.overrides = false →
          (c.after e).values.get? frozen.toDescriptor = c.values.get? frozen.toDescriptor := by
  have hwithin : (Edit.set count.toDescriptor (some (5 : Int)) false).Within population := by
    rintro _ ⟨⟩
    exact count_mem
  constructor
  · intro h
    have hlisted := h
      ((Record.create { members := [derived] } ⟨0⟩).run
        [.set count.toDescriptor (some (5 : Int)) false])
      ⟨⟨0⟩, _, by simpa using hwithin, rfl⟩ (derived, number 5) (List.mem_singleton.mpr rfl)
    cases hlisted
  · intro h
    have hwithin' : (Edit.set frozen.toDescriptor (some (4 : Int)) true).Within population := by
      rintro _ ⟨⟩
      exact mem_population (by simp [properties])
    have hkept := h
      ((Record.create { members := [frozen] } ⟨0⟩).run
        [.set frozen.toDescriptor (some (4 : Int)) true])
      ⟨⟨0⟩, _, by simpa using hwithin', rfl⟩ _ hwithin rfl
    have hfive : number 5 = number 4 := Option.some.inj hkept
    cases hfive

end Contents

end TypedRecords
