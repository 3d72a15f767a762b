import TypedRecords.Record.Writing
import TypedRecords.Proofs.Property.Population

namespace TypedRecords

variable {U : Universe}

/-- What a write of a value of any kind makes of it: a value of the model kind is converted. -/
inductive Descriptor.Takes (d : Descriptor U) : Option (Value U) → Option (Value U) → Prop
  | absent : Takes d none none
  | plain (v : Value U) (hv : ∀ c, d.attributes.converter = some c → v.kind ≠ c.modelKind) :
      Takes d (some v) (some v)
  | converted (v : Value U) (c : Converter U d.kind) (x : Option (Value U))
      (hc : d.attributes.converter = some c) (hv : v.kind = c.modelKind)
      (hx : c.fromModel (some v) = .ok x) : Takes d (some v) x

/-- What a write in the form of the model makes of a value: a present value is converted. -/
inductive Descriptor.TakesModel (d : Descriptor U) : Option (Value U) → Option (Value U) → Prop
  | absent : TakesModel d none none
  | plain (m : Value U) (hm : d.attributes.converter = none) : TakesModel d (some m) (some m)
  | converted (m : Value U) (c : Converter U d.kind) (x : Option (Value U))
      (hc : d.attributes.converter = some c) (hx : c.fromModel (some m) = .ok x) :
      TakesModel d (some m) x

structure Descriptor.Stores (d : Descriptor U) (x : Value U) : Prop where
  path : d.isVirtual = false
  kind : x.kind = d.kind
  takes : ∃ v, d.Takes (some v) (some x)

def Descriptor.Storable (d : Descriptor U) : Prop :=
  ∃ x, d.Stores x

namespace Contents

def put (c : Contents U) (d : Descriptor U) (x : Option (Value U)) : Contents U :=
  { c with values := c.values.update d x }

/-- A property that may be written, where `override` lifts the protection of a read-only one. -/
structure Writable (c : Contents U) (d : Descriptor U) (override : Bool) : Prop where
  member : c.contains d = true
  path : d.isVirtual = false
  unprotected : d.isReadOnly = true → override = true

structure Admits (c : Contents U) (d : Descriptor U) (x : Option (Value U)) : Prop where
  kind : ∀ v, x = some v → v.kind = d.kind
  valid : c.invalidAllowed = false → d.validate x = .ok ()

theorem checkWritable_eq_ok_iff {c : Contents U} {d : Descriptor U} {override : Bool} :
    c.checkWritable d override = .ok () ↔ c.Writable d override := by
  unfold checkWritable
  constructor
  · intro h
    split at h
    · cases h
    · rename_i hmember
      split at h
      · cases h
      · rename_i hwritable
        simp only [Bool.not_eq_true', Bool.not_eq_false, Bool.or_eq_true, Bool.and_eq_true,
          not_or, not_and, Bool.not_eq_true] at hmember hwritable
        exact ⟨hmember, hwritable.1, hwritable.2⟩
  · rintro ⟨hmember, hpath, hunprotected⟩
    have hprotected : (d.isReadOnly && !override) = false := by
      cases hread : d.isReadOnly with
      | false => rfl
      | true => simp [hunprotected hread]
    simp [hmember, hpath, hprotected]

theorem checkWritable_error {c : Contents U} {d : Descriptor U} {override : Bool} {e : Error}
    (h : c.checkWritable d override = .error e) : ∃ f, e = .property f := by
  unfold checkWritable notFound at h
  split at h
  · cases h
    exact ⟨_, rfl⟩
  · split at h
    · cases h
      exact ⟨_, rfl⟩
    · cases h

theorem store_of_kind {c : Contents U} {d : Descriptor U} {x : Option (Value U)}
    (hx : ∀ v, x = some v → v.kind = d.kind) :
    c.store d x =
      if c.invalidAllowed = true then .ok (c.put d x)
      else
        match d.validate x with
        | .ok _ => .ok (c.put d x)
        | .error e => .error (.validation e) := by
  obtain ⟨id, schema, values, allowed⟩ := c
  cases x with
  | none =>
      cases allowed with
      | true => rfl
      | false =>
          unfold store
          cases d.validate none <;> rfl
  | some v =>
      have hv : d.expect v = .ok (hx v rfl ▸ v.val) := by
        simp [Signature.expect, Value.as?, hx v rfl]
      simp only [store, hv]
      cases allowed with
      | true => rfl
      | false => cases d.validate (some v) <;> rfl

theorem store_some_of_kind_ne {c : Contents U} {d : Descriptor U} {v : Value U}
    (hv : v.kind ≠ d.kind) :
    c.store d (some v) = .error (.property (.typeMismatch d.name d.typeName v.typeName)) := by
  have he : d.expect v = .error (.typeMismatch d.name d.typeName v.typeName) := by
    simp [Signature.expect, Value.as?_eq_none hv]
  simp only [store, he]
  rfl

theorem store_of_kind_ne {c : Contents U} {d : Descriptor U} {x : Option (Value U)}
    (hx : ¬∀ v, x = some v → v.kind = d.kind) : ∃ f, c.store d x = .error (.property f) := by
  cases x with
  | none => exact absurd (fun v hv => nomatch hv) hx
  | some v =>
      have hv : v.kind ≠ d.kind := fun hk => hx fun w hw => Option.some.inj hw ▸ hk
      exact ⟨_, store_some_of_kind_ne hv⟩

theorem store_eq_ok_iff {c c' : Contents U} {d : Descriptor U} {x : Option (Value U)} :
    c.store d x = .ok c' ↔ c.Admits d x ∧ c' = c.put d x := by
  by_cases hx : ∀ v, x = some v → v.kind = d.kind
  · rw [store_of_kind hx]
    constructor
    · intro h
      split at h
      · rename_i hallowed
        cases h
        exact ⟨⟨hx, fun hnot => absurd hallowed (by simp [hnot])⟩, rfl⟩
      · split at h
        · rename_i hvalid
          cases h
          exact ⟨⟨hx, fun _ => hvalid⟩, rfl⟩
        · cases h
    · rintro ⟨hadmits, rfl⟩
      cases hallowed : c.invalidAllowed with
      | true => simp
      | false => simp [hadmits.valid hallowed]
  · constructor
    · intro h
      obtain ⟨f, hf⟩ := store_of_kind_ne (c := c) hx
      rw [hf] at h
      cases h
    · rintro ⟨hadmits, -⟩
      exact absurd hadmits.kind hx

theorem store_error {c : Contents U} {d : Descriptor U} {x : Option (Value U)} {e : Error}
    (h : c.store d x = .error e) :
    (∃ f, e = .property f) ∨
      c.invalidAllowed = false ∧ ∃ f, d.validate x = .error f ∧ e = .validation f := by
  by_cases hx : ∀ v, x = some v → v.kind = d.kind
  · rw [store_of_kind hx] at h
    split at h
    · cases h
    · rename_i hallowed
      split at h
      · cases h
      · rename_i f hinvalid
        cases h
        exact Or.inr ⟨by simpa using hallowed, f, hinvalid, rfl⟩
  · obtain ⟨f, hf⟩ := store_of_kind_ne (c := c) hx
    rw [hf] at h
    cases h
    exact Or.inl ⟨f, rfl⟩

def offer (c : Contents U) (d : Descriptor U) (override : Bool)
    (r : Except Error (Option (Value U))) : Except Error (Contents U) := do
  c.checkWritable d override
  c.store d (← r)

theorem write_eq_offer (c : Contents U) (d : Descriptor U) (v : Option (Value U))
    (override : Bool) : c.write d v override = c.offer d override (accept d v) := rfl

theorem writeModel_eq_offer (c : Contents U) (d : Descriptor U) (m : Option (Value U)) :
    c.writeModel d m = c.offer d false (acceptModel d m) := rfl

theorem offer_eq_ok_iff {c c' : Contents U} {d : Descriptor U} {override : Bool}
    {r : Except Error (Option (Value U))} :
    c.offer d override r = .ok c' ↔
      c.Writable d override ∧ ∃ x, r = .ok x ∧ c.Admits d x ∧ c' = c.put d x := by
  unfold offer
  cases hcheck : c.checkWritable d override with
  | error e =>
      have hnot : ¬c.Writable d override := by
        rw [← checkWritable_eq_ok_iff, hcheck]
        simp
      simp [bind, Except.bind, hnot]
  | ok _ =>
      have hwritable := checkWritable_eq_ok_iff.mp hcheck
      cases r with
      | error e => simp [bind, Except.bind]
      | ok x => simp [bind, Except.bind, hwritable, store_eq_ok_iff]

theorem accept_eq_ok_iff {d : Descriptor U} {v x : Option (Value U)} :
    accept d v = .ok x ↔ d.Takes v x := by
  constructor
  · intro h
    unfold accept at h
    split at h
    · rename_i v c hc
      split at h
      · rename_i hv
        split at h
        · rename_i y hy
          cases h
          exact .converted v c _ hc hv hy
        · cases h
      · rename_i hv
        cases h
        exact .plain v fun c' hc' => Option.some.inj (hc.symm.trans hc') ▸ hv
    · rename_i hnot
      cases h
      cases x with
      | none => exact .absent
      | some v => exact .plain v fun c hc => absurd hc (hnot v c rfl)
  · intro h
    cases h with
    | absent => rfl
    | plain v hv =>
        unfold accept
        cases hc : d.attributes.converter with
        | none => rfl
        | some c => simp [hv c hc]
    | converted v c x hc hv hx => simp [accept, hc, hv, hx]

theorem accept_error {d : Descriptor U} {v : Option (Value U)} {e : Error}
    (h : accept d v = .error e) : ∃ f, e = .conversion f := by
  unfold accept at h
  split at h
  · split at h
    · split at h
      · cases h
      · cases h
        exact ⟨_, rfl⟩
    · cases h
  · cases h

theorem acceptModel_eq_ok_iff {d : Descriptor U} {m x : Option (Value U)} :
    acceptModel d m = .ok x ↔ d.TakesModel m x := by
  constructor
  · intro h
    unfold acceptModel at h
    split at h
    · rename_i m c hc
      split at h
      · rename_i y hy
        cases h
        exact .converted m c _ hc hy
      · cases h
    · rename_i hnot
      cases h
      cases x with
      | none => exact .absent
      | some m =>
          cases hc : d.attributes.converter with
          | none => exact .plain m hc
          | some c => exact absurd hc (hnot m c rfl)
  · intro h
    cases h with
    | absent => rfl
    | plain m hm => simp [acceptModel, hm]
    | converted m c x hc hx => simp [acceptModel, hc, hx]

theorem write_eq_ok_iff {c c' : Contents U} {d : Descriptor U} {v : Option (Value U)}
    {override : Bool} :
    c.write d v override = .ok c' ↔
      c.Writable d override ∧ ∃ x, d.Takes v x ∧ c.Admits d x ∧ c' = c.put d x := by
  simp only [write_eq_offer, offer_eq_ok_iff, accept_eq_ok_iff]

theorem write_error {c : Contents U} {d : Descriptor U} {v : Option (Value U)} {override : Bool}
    {e : Error} (h : c.write d v override = .error e) :
    (∃ f, e = .property f) ∨ (∃ f, e = .conversion f) ∨
      c.invalidAllowed = false ∧
        ∃ x f, d.Takes v x ∧ d.validate x = .error f ∧ e = .validation f := by
  rw [write_eq_offer, offer] at h
  cases hcheck : c.checkWritable d override with
  | error f =>
      rw [hcheck] at h
      cases h
      exact Or.inl (checkWritable_error hcheck)
  | ok _ =>
      rw [hcheck] at h
      cases haccept : accept d v with
      | error f =>
          rw [haccept] at h
          cases h
          exact Or.inr (Or.inl (accept_error haccept))
      | ok x =>
          rw [haccept] at h
          rcases store_error h with hproperty | ⟨hallowed, f, hinvalid, he⟩
          · exact Or.inl hproperty
          · exact Or.inr (Or.inr ⟨hallowed, x, f, accept_eq_ok_iff.mp haccept, hinvalid, he⟩)

theorem writeModel_eq_ok_iff {c c' : Contents U} {d : Descriptor U} {m : Option (Value U)} :
    c.writeModel d m = .ok c' ↔
      c.Writable d false ∧ ∃ x, d.TakesModel m x ∧ c.Admits d x ∧ c' = c.put d x := by
  simp only [writeModel_eq_offer, offer_eq_ok_iff, acceptModel_eq_ok_iff]

end Contents

theorem Descriptor.Takes.unique {d : Descriptor U} {v x y : Option (Value U)} (hx : d.Takes v x)
    (hy : d.Takes v y) : x = y := by
  have h := Contents.accept_eq_ok_iff.mpr hx
  rw [Contents.accept_eq_ok_iff.mpr hy] at h
  exact (Except.ok.inj h).symm

theorem Converter.kind_eq_of_fromModel {k : U.Kind} {c : Converter U k} {m : Value U}
    {x : Option (Value U)} (h : c.fromModel (some m) = .ok x) : m.kind = c.modelKind := by
  by_cases hm : m.kind = c.modelKind
  · exact hm
  · simp [fromModel, expect, Value.as?_eq_none hm, bind, Except.bind] at h

theorem Descriptor.TakesModel.takes {d : Descriptor U} {m x : Option (Value U)}
    (h : d.TakesModel m x) : d.Takes m x := by
  cases h with
  | absent => exact .absent
  | plain m hm => exact .plain m fun c hc => nomatch hm.symm.trans hc
  | converted m c x hc hx => exact .converted m c x hc (Converter.kind_eq_of_fromModel hx) hx

theorem Descriptor.TakesModel.unique {d : Descriptor U} {m x y : Option (Value U)}
    (hx : d.TakesModel m x) (hy : d.TakesModel m y) : x = y :=
  hx.takes.unique hy.takes

end TypedRecords
