import TypedRecords.Property.Draft
import TypedRecords.Proofs.Property.Population

namespace TypedRecords

variable {U : Universe} {k : U.Kind}

/-- Strategies that may occur together: the one by relative names, and others that were made
separately, each with a key of its own. -/
structure Strategies (U : Universe) where
  Holds : Identity U → Prop
  byName : Holds .byName
  eq_of_key : ∀ {i j}, Holds i → Holds j → i.key = j.key → i = j

namespace Strategies

instance : Membership (Identity U) (Strategies U) :=
  ⟨Strategies.Holds⟩

def Lawful (S : Strategies U) : Prop :=
  ∀ i ∈ S, i.Lawful

/-- The strategy is one of these, if there is one. -/
def Supplies (S : Strategies U) (identity : Option (Identity U)) : Prop :=
  ∀ i, identity = some i → i ∈ S

theorem supplies_none (S : Strategies U) : S.Supplies none :=
  fun _ hi => nomatch hi

end Strategies

variable {S : Strategies U}

namespace Draft

inductive Call (U : Universe) (k : U.Kind) where
  | withConverter (c : Converter U k)
  | withoutConverter
  | withRule (r : Rule U)
  | withoutRules
  | withCaption (f : Caption → Caption)
  | withParameter (key : String) (v : Value U)
  | withIdentity (i : Identity U)

def call (d : Draft U k) : Call U k → Draft U k
  | .withConverter c => d.withConverter c
  | .withoutConverter => d.withoutConverter
  | .withRule r => d.withRule r
  | .withoutRules => d.withoutRules
  | .withCaption f => d.withCaption f
  | .withParameter key v => d.withParameter key v
  | .withIdentity i => d.withIdentity i

def Call.Within (S : Strategies U) : Call U k → Prop
  | withIdentity i => i ∈ S
  | _ => True

theorem supplies_call {d : Draft U k} {c : Call U k} (hd : S.Supplies d.identity)
    (hc : c.Within S) : S.Supplies (d.call c).identity := by
  cases c with
  | withIdentity i =>
      rintro _ ⟨⟩
      exact hc
  | _ => exact hd

end Draft

namespace PathDraft

inductive Call (U : Universe) (k : U.Kind) where
  | alter (c : Draft.Call U k)
  | withParent (parent : Path)
  | makeFinal
  | withReadOnly (readOnly : Bool)

def call (d : PathDraft U k) : Call U k → Except PropertyError (PathDraft U k)
  | .alter c => .ok (d.alter (·.call c))
  | .withParent parent => d.withParent parent
  | .makeFinal => d.makeFinal
  | .withReadOnly readOnly => .ok (d.withReadOnly readOnly)

/-- The draft after several calls, or the error of the first that fails. -/
def callAll (d : PathDraft U k) (cs : List (Call U k)) : Except PropertyError (PathDraft U k) :=
  cs.foldlM call d

theorem callAll_cons_eq_ok_iff {d d' : PathDraft U k} {c : Call U k} {cs : List (Call U k)} :
    d.callAll (c :: cs) = .ok d' ↔ ∃ d₁, d.call c = .ok d₁ ∧ d₁.callAll cs = .ok d' := by
  rw [callAll, List.foldlM_cons]
  cases d.call c with
  | error e => simp [bind, Except.bind]
  | ok d₁ => simp [bind, Except.bind, callAll]

def Call.Within (S : Strategies U) : Call U k → Prop
  | alter c => c.Within S
  | _ => True

theorem supplies_call {d d' : PathDraft U k} {c : Call U k} (hd : S.Supplies d.identity)
    (hc : c.Within S) (h : d.call c = .ok d') : S.Supplies d'.identity := by
  cases c with
  | alter c =>
      cases h
      exact Draft.supplies_call hd hc
  | withParent parent =>
      simp only [call, withParent] at h
      split at h
      · cases h
      · cases h
        exact hd
  | makeFinal =>
      simp only [call, makeFinal] at h
      split at h
      · cases h
      · cases h
        exact hd
  | withReadOnly readOnly =>
      cases h
      exact hd

theorem supplies_callAll {d d' : PathDraft U k} {cs : List (Call U k)}
    (hd : S.Supplies d.identity) (hcs : ∀ c ∈ cs, c.Within S) (h : d.callAll cs = .ok d') :
    S.Supplies d'.identity := by
  induction cs generalizing d with
  | nil =>
      cases h
      exact hd
  | cons c cs ih =>
      obtain ⟨hc, hcs⟩ := List.forall_mem_cons.mp hcs
      obtain ⟨d₁, hcall, hcalls⟩ := callAll_cons_eq_ok_iff.mp h
      exact ih (supplies_call hd hc hcall) hcs hcalls

end PathDraft

namespace VirtualDraft

inductive Call (U : Universe) (k : U.Kind) where
  | alter (c : Draft.Call U k)
  | withName (name : String)
  | withComputation (c : Computation U k)

def call (d : VirtualDraft U k) : Call U k → VirtualDraft U k
  | .alter c => d.alter (·.call c)
  | .withName name => d.withName name
  | .withComputation c => d.withComputation c

def callAll (d : VirtualDraft U k) (cs : List (Call U k)) : VirtualDraft U k :=
  cs.foldl call d

def Call.Within (S : Strategies U) : Call U k → Prop
  | alter c => c.Within S
  | _ => True

theorem supplies_callAll {d : VirtualDraft U k} {cs : List (Call U k)}
    (hd : S.Supplies d.identity) (hcs : ∀ c ∈ cs, c.Within S) :
    S.Supplies (d.callAll cs).identity := by
  induction cs generalizing d with
  | nil => exact hd
  | cons c cs ih =>
      obtain ⟨hc, hcs⟩ := List.forall_mem_cons.mp hcs
      refine ih ?_ hcs
      cases c with
      | alter c => exact Draft.supplies_call hd hc
      | withName name => exact hd
      | withComputation c => exact hd

end VirtualDraft

namespace Property

theorem identity_of_toPathDraft {p : Property U} {d : PathDraft U p.kind}
    (h : p.toPathDraft = .ok d) : d.identity = p.identity := by
  rw [toPathDraft] at h
  split at h
  · cases h
    rfl
  · cases h

theorem identity_of_toVirtualDraft {p : Property U} {d : VirtualDraft U p.kind}
    (h : p.toVirtualDraft = .ok d) : d.identity = p.identity := by
  rw [toVirtualDraft] at h
  split at h
  · cases h
    rfl
  · cases h

theorem duplicate_id (p : Property U) (id : Ident) : (p.duplicate id).id = id := by
  rw [duplicate]
  split <;> rfl

theorem duplicate_identity (p : Property U) (id : Ident) :
    (p.duplicate id).identity = p.identity := by
  rw [duplicate]
  split <;> rfl

theorem property_of_typed? {p : Property U} {t : Typed U k} (h : p.typed? k = some t) :
    t.property = p := by
  rw [typed?] at h
  split at h
  · cases h
    rfl
  · cases h

end Property

/-- Handles of properties that were made one after the other, the last one first, with strategies of
a supply. A typed handle is one more handle of its property. -/
inductive Gathered (S : Strategies U) : List (Property U) → Prop
  | nil : Gathered S []
  | path {ps : List (Property U)} {k : U.Kind} {name : String} {cs : List (PathDraft.Call U k)}
      {d : PathDraft U k} {id : Ident} (before : Gathered S ps) (hcs : ∀ c ∈ cs, c.Within S)
      (called : PathDraft.callAll { name } cs = .ok d) (fresh : ∀ p ∈ ps, p.id ≠ id) :
      Gathered S (d.build id :: ps)
  | virtual {ps : List (Property U)} {k : U.Kind} {cs : List (VirtualDraft.Call U k)} {id : Ident}
      (before : Gathered S ps) (hcs : ∀ c ∈ cs, c.Within S) (fresh : ∀ p ∈ ps, p.id ≠ id) :
      Gathered S ((VirtualDraft.callAll {} cs).build id :: ps)
  | duplicate {ps : List (Property U)} {p : Property U} {id : Ident} (before : Gathered S ps)
      (hp : p ∈ ps) (fresh : ∀ p ∈ ps, p.id ≠ id) : Gathered S (p.duplicate id :: ps)
  | alteredPath {ps : List (Property U)} {p : Property U} {cs : List (PathDraft.Call U p.kind)}
      {source d : PathDraft U p.kind} {id : Ident} (before : Gathered S ps) (hp : p ∈ ps)
      (drafted : p.toPathDraft = .ok source) (hcs : ∀ c ∈ cs, c.Within S)
      (called : source.callAll cs = .ok d) (fresh : ∀ p ∈ ps, p.id ≠ id) :
      Gathered S (d.build id :: ps)
  | alteredVirtual {ps : List (Property U)} {p : Property U}
      {cs : List (VirtualDraft.Call U p.kind)} {source : VirtualDraft U p.kind} {id : Ident}
      (before : Gathered S ps) (hp : p ∈ ps) (drafted : p.toVirtualDraft = .ok source)
      (hcs : ∀ c ∈ cs, c.Within S) (fresh : ∀ p ∈ ps, p.id ≠ id) :
      Gathered S ((source.callAll cs).build id :: ps)
  | downcast {ps : List (Property U)} {p : Property U} {k : U.Kind} {t : Typed U k}
      (before : Gathered S ps) (hp : p ∈ ps) (typed : p.typed? k = some t) :
      Gathered S (t.property :: ps)

namespace Gathered

variable {ps : List (Property U)}

theorem supplies (h : Gathered S ps) : ∀ p ∈ ps, S.Supplies p.identity := by
  induction h with
  | nil => exact fun p hp => nomatch hp
  | path before hcs called fresh ih =>
      exact List.forall_mem_cons.mpr
        ⟨PathDraft.supplies_callAll S.supplies_none hcs called, ih⟩
  | virtual before hcs fresh ih =>
      exact List.forall_mem_cons.mpr ⟨VirtualDraft.supplies_callAll S.supplies_none hcs, ih⟩
  | @duplicate ps p id before hp fresh ih =>
      refine List.forall_mem_cons.mpr ⟨?_, ih⟩
      rw [p.duplicate_identity id]
      exact ih p hp
  | @alteredPath ps p cs source d id before hp drafted hcs called fresh ih =>
      refine List.forall_mem_cons.mpr ⟨PathDraft.supplies_callAll ?_ hcs called, ih⟩
      rw [Property.identity_of_toPathDraft drafted]
      exact ih p hp
  | @alteredVirtual ps p cs source id before hp drafted hcs fresh ih =>
      refine List.forall_mem_cons.mpr ⟨VirtualDraft.supplies_callAll ?_ hcs, ih⟩
      rw [Property.identity_of_toVirtualDraft drafted]
      exact ih p hp
  | downcast before hp typed ih =>
      refine List.forall_mem_cons.mpr ⟨?_, ih⟩
      rw [Property.property_of_typed? typed]
      exact ih _ hp

theorem eq_of_id_cons {p : Property U} (htail : ∀ q ∈ ps, ∀ r ∈ ps, q.id = r.id → q = r)
    (hhead : (∀ q ∈ ps, q.id ≠ p.id) ∨ p ∈ ps) :
    ∀ q ∈ p :: ps, ∀ r ∈ p :: ps, q.id = r.id → q = r := by
  have hp : ∀ q ∈ ps, q.id = p.id → q = p := fun q hq hid =>
    hhead.elim (fun hfresh => absurd hid (hfresh q hq)) fun hp => htail q hq p hp hid
  intro q hq r hr hid
  rcases List.mem_cons.mp hq with hqp | hq
  · subst hqp
    rcases List.mem_cons.mp hr with hrq | hr
    · exact hrq.symm
    · exact (hp r hr hid.symm).symm
  · rcases List.mem_cons.mp hr with hrp | hr
    · exact (hp q hq (hrp ▸ hid)).trans hrp.symm
    · exact htail q hq r hr hid

theorem eq_of_id (h : Gathered S ps) : ∀ p ∈ ps, ∀ q ∈ ps, p.id = q.id → p = q := by
  induction h with
  | nil => exact fun p hp => nomatch hp
  | path before hcs called fresh ih => exact eq_of_id_cons ih (Or.inl fresh)
  | virtual before hcs fresh ih => exact eq_of_id_cons ih (Or.inl fresh)
  | @duplicate ps p id before hp fresh ih =>
      refine eq_of_id_cons ih (Or.inl ?_)
      rw [p.duplicate_id id]
      exact fresh
  | alteredPath before hp drafted hcs called fresh ih => exact eq_of_id_cons ih (Or.inl fresh)
  | alteredVirtual before hp drafted hcs fresh ih => exact eq_of_id_cons ih (Or.inl fresh)
  | downcast before hp typed ih =>
      refine eq_of_id_cons ih (Or.inr ?_)
      rw [Property.property_of_typed? typed]
      exact hp

def population (h : Gathered S ps) : Population U where
  Holds d := ∃ p ∈ ps, p.toDescriptor = d
  eq_of_id := by
    rintro _ _ ⟨p, hp, rfl⟩ ⟨q, hq, rfl⟩ hid
    rw [h.eq_of_id p hp q hq hid]
  eq_of_key := by
    rintro _ _ i j ⟨p, hp, rfl⟩ ⟨q, hq, rfl⟩ hi hj hkey
    exact S.eq_of_key (h.supplies p hp i hi) (h.supplies q hq j hj) hkey

theorem mem_population (h : Gathered S ps) {p : Property U} (hp : p ∈ ps) :
    p.toDescriptor ∈ h.population :=
  ⟨p, hp, rfl⟩

theorem population_lawful (h : Gathered S ps) (hS : S.Lawful) : h.population.Lawful := by
  rintro _ ⟨p, hp, rfl⟩ i hi
  exact hS i (h.supplies p hp i hi)

end Gathered

end TypedRecords
