import TypedRecords.Proofs.Property.Making
import TypedRecords.Proofs.Sample

namespace TypedRecords

variable {U : Universe} {k : U.Kind}

namespace PathDraft

variable {d d' : PathDraft U k}

/-- The path is not both final and below a parent. -/
def Consistent (d : PathDraft U k) : Prop :=
  d.isFinal = true → d.parent = none

theorem call_eq_error_iff {c : Call U k} {e : PropertyError} : d.call c = .error e ↔
    (∃ parent, c = .withParent parent) ∧ d.isFinal = true ∧ e = .parent d.name .isFinal ∨
      c = .makeFinal ∧ d.parent.isSome = true ∧ e = .parent d.name .hasParent := by
  cases c with
  | alter c => simp [call]
  | withParent parent =>
      rw [call, withParent]
      cases d.isFinal <;> simp [@eq_comm _ e]
  | makeFinal =>
      rw [call, makeFinal]
      cases d.parent <;> simp [@eq_comm _ e]
  | withReadOnly readOnly => simp [call]

theorem call_cases {c : Call U k} (h : d.call c = .ok d') :
    (d'.isFinal = d.isFinal ∧ d'.parent = d.parent) ∨
      (d.isFinal = false ∧ d'.isFinal = false) ∨
        (d'.isFinal = true ∧ d.parent = none ∧ d'.parent = none) := by
  cases c with
  | alter c =>
      cases h
      exact .inl ⟨rfl, rfl⟩
  | withParent parent =>
      simp only [call, withParent] at h
      split at h
      · cases h
      next hfinal =>
        cases h
        exact .inr (.inl ⟨Bool.eq_false_iff.mpr hfinal, Bool.eq_false_iff.mpr hfinal⟩)
  | makeFinal =>
      simp only [call, makeFinal] at h
      split at h
      · cases h
      next hparent =>
        cases h
        have hnone := Option.not_isSome_iff_eq_none.mp hparent
        exact .inr (.inr ⟨rfl, hnone, hnone⟩)
  | withReadOnly readOnly =>
      cases h
      exact .inl ⟨rfl, rfl⟩

theorem Consistent.callAll (hd : d.Consistent) {cs : List (Call U k)}
    (h : d.callAll cs = .ok d') :
    d'.Consistent ∧ (d.isFinal = true → d'.isFinal = true) := by
  induction cs generalizing d with
  | nil =>
      cases h
      exact ⟨hd, id⟩
  | cons c cs ih =>
      obtain ⟨d₁, hcall, hcalls⟩ := callAll_cons_eq_ok_iff.mp h
      rcases call_cases hcall with ⟨hfinal, hparent⟩ | ⟨hnot, hnot'⟩ | ⟨hfinal, -, hnone⟩
      · have hd₁ : d₁.Consistent := by rwa [Consistent, hfinal, hparent]
        exact hfinal ▸ ih hd₁ hcalls
      · have hd₁ : d₁.Consistent := fun h => absurd h (by simp [hnot'])
        exact ⟨(ih hd₁ hcalls).1, fun h => absurd h (by simp [hnot])⟩
      · have hd₁ := ih (fun _ => hnone) hcalls
        exact ⟨hd₁.1, fun _ => hd₁.2 hfinal⟩

theorem Consistent.callAll_isOk_iff (hd : d.Consistent) {cs : List (Call U k)} :
    (∃ d', d.callAll cs = .ok d') ↔
      ¬((d.isFinal = true ∨ .makeFinal ∈ cs) ∧
        (d.parent.isSome = true ∨ ∃ parent, .withParent parent ∈ cs)) := by
  induction cs generalizing d with
  | nil =>
      refine iff_of_true ⟨d, rfl⟩ fun ⟨hfinal, hparent⟩ => ?_
      have hnone := hd (by simpa using hfinal)
      simp [hnone] at hparent
  | cons c cs ih =>
      have hnext : ∀ {d₁ : PathDraft U k}, d.call c = .ok d₁ →
          ((∃ d', d.callAll (c :: cs) = .ok d') ↔ ∃ d', d₁.callAll cs = .ok d') := by
        intro d₁ hcall
        simp [callAll_cons_eq_ok_iff, hcall]
      cases c with
      | alter c =>
          rw [hnext rfl, ih (show (d.alter (·.call c)).Consistent from hd)]
          simp [alter]
      | withReadOnly readOnly =>
          rw [hnext rfl, ih (show (d.withReadOnly readOnly).Consistent from hd)]
          simp [withReadOnly, alter]
      | withParent parent =>
          cases hfinal : d.isFinal with
          | true => simp [callAll_cons_eq_ok_iff, call, withParent, hfinal]
          | false =>
              have hcall : d.call (.withParent parent) = .ok { d with parent := some parent } := by
                simp [call, withParent, hfinal]
              rw [hnext hcall, ih fun h => absurd h (by simp [hfinal])]
              simp [hfinal]
      | makeFinal =>
          cases hparent : d.parent with
          | some parent => simp [callAll_cons_eq_ok_iff, call, makeFinal, hparent]
          | none =>
              have hcall : d.call .makeFinal = .ok { d with isFinal := true } := by
                simp [call, makeFinal, hparent]
              have hnext' : ({ d with isFinal := true } : PathDraft U k).Consistent :=
                fun _ => hparent
              rw [hnext hcall, ih hnext']
              simp [hparent]

end PathDraft

namespace VirtualDraft

variable {d : VirtualDraft U k}

theorem name_callAll_eq_none_iff {cs : List (Call U k)} :
    (d.callAll cs).name = none ↔ d.name = none ∧ ∀ name, .withName name ∉ cs := by
  induction cs generalizing d with
  | nil => simp [callAll]
  | cons c cs ih =>
      change ((d.call c).callAll cs).name = none ↔ _
      rw [ih]
      cases c with
      | alter c => simp [call, alter]
      | withName name => exact iff_of_false (nomatch ·.1) fun h => h.2 name List.mem_cons_self
      | withComputation c => simp [call, withComputation]

theorem form_build_iff {id : Ident} : (d.build id).form = .virtual true ↔ d.name = none := by
  simp [build]

end VirtualDraft

namespace Property

/-- A property is built from a new draft that calls have altered. -/
inductive Built (id : Ident) : Property U → Prop
  | path {k : U.Kind} {name : String} {cs : List (PathDraft.Call U k)} {d : PathDraft U k}
      (called : PathDraft.callAll { name } cs = .ok d) : Built id (d.build id)
  | virtual {k : U.Kind} (cs : List (VirtualDraft.Call U k)) :
      Built id ((VirtualDraft.callAll {} cs).build id)

/-- The ways to copy a property: field by field, or by a draft of its sort that calls alter. -/
inductive Copied (p : Property U) (id : Ident) : Property U → Prop
  | duplicate : Copied p id (p.duplicate id)
  | path {cs : List (PathDraft.Call U p.kind)} {source d : PathDraft U p.kind}
      (drafted : p.toPathDraft = .ok source) (called : source.callAll cs = .ok d) :
      Copied p id (d.build id)
  | virtual {source : VirtualDraft U p.kind} (drafted : p.toVirtualDraft = .ok source)
      (cs : List (VirtualDraft.Call U p.kind)) : Copied p id ((source.callAll cs).build id)

/-- The ways to copy a property without altering it. -/
inductive CopiedAsIs (p : Property U) (id : Ident) : Property U → Prop
  | duplicate : CopiedAsIs p id (p.duplicate id)
  | path {d : PathDraft U p.kind} (drafted : p.toPathDraft = .ok d) : CopiedAsIs p id (d.build id)
  | virtual {d : VirtualDraft U p.kind} (drafted : p.toVirtualDraft = .ok d) :
      CopiedAsIs p id (d.build id)

/-- Properties of which each is a copy of the next one, up to the first that was built. -/
inductive CopyChain : List (Property U) → Prop
  | start {p : Property U} {id : Ident} (built : Built id p) : CopyChain [p]
  | copy {p q : Property U} {ps : List (Property U)} {id : Ident} (before : CopyChain (p :: ps))
      (copied : Copied p id q) (fresh : ∀ r ∈ p :: ps, r.id ≠ id) : CopyChain (q :: p :: ps)

structure Regular (p : Property U) : Prop where
  parent?_eq_none : p.isFinal = true → p.parent? = none
  provider_eq : p.isVirtual = false → p.provider = .missing
  name_eq : p.form = .virtual true → p.name = generatedName p.id

theorem regular_build_path {d : PathDraft U k} (hd : d.Consistent) (id : Ident) :
    Regular (d.build id) where
  parent?_eq_none := hd
  provider_eq _ := rfl
  name_eq := nofun

theorem regular_build_virtual (d : VirtualDraft U k) (id : Ident) : Regular (d.build id) where
  parent?_eq_none := nofun
  provider_eq := nofun
  name_eq h := by
    simp [VirtualDraft.build, VirtualDraft.form_build_iff.mp h]

theorem toPathDraft_eq_ok_iff {p : Property U} {d : PathDraft U p.kind} :
    p.toPathDraft = .ok d ↔ p.isVirtual = false ∧
      d = ⟨⟨p.attributes, p.identity⟩, p.name, p.parent?, p.isFinal⟩ := by
  rw [toPathDraft, Signature.isVirtual, Signature.parent?, Signature.isFinal]
  cases p.form <;> simp [eq_comm]

theorem toVirtualDraft_eq_ok_iff {p : Property U} {d : VirtualDraft U p.kind} :
    p.toVirtualDraft = .ok d ↔ p.isVirtual = true ∧
      d = ⟨⟨p.attributes, p.identity⟩, if p.form = .virtual true then none else some p.name,
        p.provider⟩ := by
  rw [toVirtualDraft, Signature.isVirtual]
  cases p.form <;> simp [eq_comm]

variable {p q : Property U} {id : Ident}

theorem CopiedAsIs.eq (hp : p.Regular) (h : CopiedAsIs p id q) :
    q = { p with id, name := if p.form = .virtual true then generatedName id else p.name } := by
  obtain ⟨⟨⟨oldId, name, form, kind, attributes⟩, identity⟩, provider⟩ := p
  cases h with
  | duplicate =>
      rw [Property.duplicate]
      split
      next hform => rw [if_pos hform]
      next hform => rw [if_neg hform]
  | path drafted =>
      obtain ⟨hpath, rfl⟩ := toPathDraft_eq_ok_iff.mp drafted
      have hprovider : provider = .missing := hp.provider_eq hpath
      cases form with
      | path parent isFinal =>
          rw [hprovider]
          rfl
      | virtual isGenerated => cases hpath
  | virtual drafted =>
      obtain ⟨hvirtual, rfl⟩ := toVirtualDraft_eq_ok_iff.mp drafted
      cases form with
      | path parent isFinal => cases hvirtual
      | virtual isGenerated => cases isGenerated <;> rfl

theorem Built.regular (h : Built id p) : p.Regular := by
  cases h with
  | path called =>
      refine regular_build_path (PathDraft.Consistent.callAll ?_ called).1 id
      exact nofun
  | virtual cs => exact regular_build_virtual _ id

theorem Regular.source_consistent (hp : p.Regular) {source : PathDraft U p.kind}
    (h : p.toPathDraft = .ok source) : source.Consistent := by
  obtain ⟨-, rfl⟩ := toPathDraft_eq_ok_iff.mp h
  exact hp.parent?_eq_none

theorem Copied.regular (hp : p.Regular) (h : Copied p id q) : q.Regular := by
  cases h with
  | duplicate =>
      rw [CopiedAsIs.duplicate.eq hp]
      refine ⟨hp.parent?_eq_none, hp.provider_eq, fun hform => ?_⟩
      exact if_pos hform
  | path drafted called =>
      have hconsistent := (hp.source_consistent drafted).callAll called
      exact regular_build_path hconsistent.1 id
  | virtual drafted cs => exact regular_build_virtual _ id

/-- What a copy has in common with a property it goes back to, whatever was altered. -/
structure Follows (later earlier : Property U) : Prop where
  kind_eq : later.kind = earlier.kind
  isVirtual_eq : later.isVirtual = earlier.isVirtual
  isFinal : earlier.isFinal = true → later.isFinal = true

theorem Follows.trans {r : Property U} (h : Follows r q) (h' : Follows q p) : Follows r p :=
  ⟨h.kind_eq.trans h'.kind_eq, h.isVirtual_eq.trans h'.isVirtual_eq, h.isFinal ∘ h'.isFinal⟩

theorem Copied.follows (hp : p.Regular) (h : Copied p id q) : Follows q p := by
  cases h with
  | duplicate =>
      rw [CopiedAsIs.duplicate.eq hp]
      exact ⟨rfl, rfl, fun hfinal => hfinal⟩
  | path drafted called =>
      have hkept := ((hp.source_consistent drafted).callAll called).2
      obtain ⟨hpath, rfl⟩ := toPathDraft_eq_ok_iff.mp drafted
      exact ⟨rfl, hpath.symm, hkept⟩
  | virtual drafted cs =>
      obtain ⟨hvirtual, -⟩ := toVirtualDraft_eq_ok_iff.mp drafted
      refine ⟨rfl, hvirtual.symm, fun hfinal => ?_⟩
      rw [Signature.isVirtual] at hvirtual
      rw [Signature.isFinal] at hfinal
      split at hfinal
      next hform => simp [hform] at hvirtual
      next => cases hfinal

theorem Copied.id_eq (h : Copied p id q) : q.id = id := by
  cases h with
  | duplicate => exact p.duplicate_id id
  | path drafted called => rfl
  | virtual drafted cs => rfl

theorem beq_iff_of_identity_eq (hid : p.id ≠ q.id) (hidentity : p.identity = q.identity) :
    (p == q) = true ↔
      ∃ i, p.identity = some i ∧ i.same p.toSignature q.toSignature = true := by
  change Descriptor.same p.toDescriptor q.toDescriptor = true ↔ _
  rw [Descriptor.same, if_neg hid, ← hidentity]
  cases p.identity <;> simp

namespace CopyChain

variable {ps : List (Property U)}

theorem regular (h : CopyChain ps) : ∀ p ∈ ps, p.Regular := by
  induction h with
  | start built => exact List.forall_mem_singleton.mpr built.regular
  | copy before copied fresh ih =>
      exact List.forall_mem_cons.mpr ⟨copied.regular (ih _ List.mem_cons_self), ih⟩

theorem follows (h : CopyChain ps) : ps.Pairwise Follows := by
  induction h with
  | start built => exact List.pairwise_singleton _ _
  | copy before copied fresh ih =>
      have hfollows := copied.follows (before.regular _ List.mem_cons_self)
      refine List.pairwise_cons.mpr ⟨List.forall_mem_cons.mpr ⟨hfollows, fun r hr => ?_⟩, ih⟩
      exact hfollows.trans ((List.pairwise_cons.mp ih).1 r hr)

theorem pairwise_id_ne (h : CopyChain ps) : ps.Pairwise fun p q => p.id ≠ q.id := by
  induction h with
  | start built => exact List.pairwise_singleton _ _
  | copy before copied fresh ih =>
      refine List.pairwise_cons.mpr ⟨fun r hr => ?_, ih⟩
      rw [copied.id_eq]
      exact (fresh r hr).symm

end CopyChain

/-- What copies keep and what they renew, over a chain of them with the latest first. -/
structure CopyLaws (ps : List (Property U)) : Prop where
  parent?_eq_none : ∀ p ∈ ps, p.isFinal = true → p.parent? = none
  follows : ps.Pairwise Follows
  id_ne : ps.Pairwise fun p q => p.id ≠ q.id
  toPathDraft_eq_error_iff : ∀ p ∈ ps, ∀ e,
    p.toPathDraft = .error e ↔ p.isVirtual = true ∧ e = .sort p.name .path .virtual
  toVirtualDraft_eq_error_iff : ∀ p ∈ ps, ∀ e,
    p.toVirtualDraft = .error e ↔ p.isVirtual = false ∧ e = .sort p.name .virtual .path
  /-- Alterations fail as a whole only if one of them does. -/
  callAll_isOk_iff : ∀ p ∈ ps, ∀ source, p.toPathDraft = .ok source → ∀ cs,
    (∃ d, source.callAll cs = .ok d) ↔
      ¬((p.isFinal = true ∨ .makeFinal ∈ cs) ∧
        (p.parent?.isSome = true ∨ ∃ parent, .withParent parent ∈ cs))
  call_eq_error_iff : ∀ {k} (d : PathDraft U k) c e, d.call c = .error e ↔
    (∃ parent, c = .withParent parent) ∧ d.isFinal = true ∧ e = .parent d.name .isFinal ∨
      c = .makeFinal ∧ d.parent.isSome = true ∧ e = .parent d.name .hasParent
  /-- Whatever was altered, a virtual property that was never given a name is named after its
  identity. -/
  name_eq : ∀ p ∈ ps, p.form = .virtual true → p.name = generatedName p.id
  form_build_new_iff : ∀ {k} (cs : List (VirtualDraft.Call U k)) id,
    ((VirtualDraft.callAll {} cs).build id).form = .virtual true ↔ ∀ name, .withName name ∉ cs
  form_build_iff : ∀ p ∈ ps, ∀ source, p.toVirtualDraft = .ok source → ∀ cs id,
    ((source.callAll cs).build id).form = .virtual true ↔
      p.form = .virtual true ∧ ∀ name, .withName name ∉ cs
  copiedAsIs_eq : ∀ p ∈ ps, ∀ id copy, CopiedAsIs p id copy →
    copy = { p with id, name := if p.form = .virtual true then generatedName id else p.name }
  copiedAsIs_beq_iff : ∀ p ∈ ps, ∀ id copy, p.id ≠ id → CopiedAsIs p id copy →
    ((copy == p) = true ↔
        ∃ i, p.identity = some i ∧ i.same copy.toSignature p.toSignature = true) ∧
      ((p == copy) = true ↔
        ∃ i, p.identity = some i ∧ i.same p.toSignature copy.toSignature = true)

theorem CopyChain.copyLaws {ps : List (Property U)} (h : CopyChain ps) : CopyLaws ps where
  parent?_eq_none p hp := (h.regular p hp).parent?_eq_none
  follows := h.follows
  id_ne := h.pairwise_id_ne
  toPathDraft_eq_error_iff p _ e := by
    rw [toPathDraft, Signature.isVirtual]
    cases p.form <;> simp [eq_comm]
  toVirtualDraft_eq_error_iff p _ e := by
    rw [toVirtualDraft, Signature.isVirtual]
    cases p.form <;> simp [eq_comm]
  callAll_isOk_iff p hp source drafted cs := by
    rw [((h.regular p hp).source_consistent drafted).callAll_isOk_iff]
    obtain ⟨-, rfl⟩ := toPathDraft_eq_ok_iff.mp drafted
    rfl
  call_eq_error_iff d c e := d.call_eq_error_iff
  name_eq p hp := (h.regular p hp).name_eq
  form_build_new_iff cs id := by
    rw [VirtualDraft.form_build_iff, VirtualDraft.name_callAll_eq_none_iff]
    simp
  form_build_iff p _ source drafted cs id := by
    rw [VirtualDraft.form_build_iff, VirtualDraft.name_callAll_eq_none_iff]
    obtain ⟨-, rfl⟩ := toVirtualDraft_eq_ok_iff.mp drafted
    simp
  copiedAsIs_eq p hp id copy hcopy := hcopy.eq (h.regular p hp)
  copiedAsIs_beq_iff p hp id copy hid hcopy := by
    obtain rfl := hcopy.eq (h.regular p hp)
    exact ⟨beq_iff_of_identity_eq hid.symm rfl, beq_iff_of_identity_eq hid rfl⟩

open Sample in
theorem copyLaws_code :
    let code : Property kinds := PathDraft.build (k := Kind.text)
      { name := "code", isFinal := true, identity := some .byName } ⟨1⟩
    let locked : Property kinds := PathDraft.build (k := Kind.text)
      { name := "code", isFinal := true, attributes := { readOnly := true }
        identity := some .byName } ⟨3⟩
    let ps := [locked, code.duplicate ⟨2⟩, code]
    CopyChain ps ∧ CopyLaws ps ∧ locked.isFinal = true ∧ (code.duplicate ⟨2⟩ == code) = true := by
  intro code locked ps
  let calls : List (PathDraft.Call kinds Kind.text) := [.makeFinal, .alter (.withIdentity .byName)]
  let changes : List (PathDraft.Call kinds Kind.text) := [.withReadOnly true]
  let draft : PathDraft kinds Kind.text :=
    { name := "code", isFinal := true, identity := some .byName }
  have hcalled : PathDraft.callAll { name := "code" } calls = .ok draft := rfl
  have hchanged : draft.callAll changes = .ok (draft.withReadOnly true) := rfl
  have hcode : CopyChain [code] := .start (.path hcalled)
  have hcopy : CopyChain [code.duplicate ⟨2⟩, code] := .copy hcode .duplicate (by decide)
  have hdraft : (code.duplicate ⟨2⟩).toPathDraft = .ok draft := rfl
  have hps : CopyChain ps := .copy hcopy (.path hdraft hchanged) (by decide)
  exact ⟨hps, hps.copyLaws, rfl, by decide⟩

end Property

end TypedRecords
