import TypedRecords.Proofs.Collection.Pairing
import TypedRecords.Proofs.Record.Validity

namespace TypedRecords

open ValidationError (combine error? reported)

variable {U : Universe}

namespace Contents

variable {c : Contents U} {ps : List (Property U)} {rs : List (Except ValidationError Unit)}

/-- The current value of a member: the stored one, none if there is no stored one, and for a virtual
member what computing it yields. -/
inductive Current (c : Contents U) (p : Property U) : Option (Value U) → Prop
  | absent (hpath : p.isVirtual = false) (h : c.values.get? p.toDescriptor = none) :
      Current c p none
  | stored {v : Value U} (hpath : p.isVirtual = false)
      (h : c.values.get? p.toDescriptor = some v) (hkind : v.kind = p.kind) : Current c p (some v)
  | computed {x : Option (U.El p.kind)} (hvirtual : p.isVirtual = true)
      (h : c.provide p.name p.provider = .ok x) : Current c p (x.map (Value.mk p.kind))

theorem get_of_virtual {p : Property U} (hp : p ∈ c.schema.members)
    (hvirtual : p.isVirtual = true) :
    c.get p = (c.provide p.name p.provider).map fun x => x.map (Value.mk p.kind) := by
  have hmember : c.contains p.toDescriptor = true := Schema.contains_self hp
  rw [get, read, if_pos hmember, if_pos hvirtual]

theorem get_eq_ok_iff_current {p : Property U} (hp : p ∈ c.schema.members)
    {v : Option (Value U)} : c.get p = .ok v ↔ c.Current p v := by
  have hmember : c.contains p.toDescriptor = true := Schema.contains_self hp
  constructor
  · intro h
    cases hpath : p.isVirtual with
    | false =>
        obtain ⟨-, hv, hkind⟩ := (get_eq_ok_iff hpath).mp h
        cases v with
        | none => exact .absent hpath hv
        | some v => exact .stored hpath hv (hkind v rfl)
    | true =>
        rw [get_of_virtual hp hpath] at h
        cases hx : c.provide p.name p.provider with
        | error e =>
            rw [hx] at h
            cases h
        | ok x =>
            rw [hx] at h
            cases h
            exact .computed hpath hx
  · intro h
    cases h with
    | absent hpath h => exact (get_eq_ok_iff hpath).mpr ⟨hmember, h, by simp⟩
    | stored hpath h hkind =>
        refine (get_eq_ok_iff hpath).mpr ⟨hmember, h, ?_⟩
        rintro _ ⟨⟩
        exact hkind
    | computed hvirtual h => rw [get_of_virtual hp hvirtual, h, Except.map]

/-- The properties can be read, and these are the verdicts on their values. -/
def Verdicts (c : Contents U) : List (Property U) → List (Except ValidationError Unit) → Prop :=
  List.Forall₂ fun p r => ∃ v, c.get p = .ok v ∧ p.validate v = r

theorem exists_verdicts (h : ∀ p ∈ ps, ∃ v, c.get p = .ok v) : ∃ rs, c.Verdicts ps rs :=
  exists_forall₂ fun p hp =>
    let ⟨v, hv⟩ := h p hp
    ⟨p.validate v, v, hv, rfl⟩

theorem failures_of_verdicts (h : c.Verdicts ps rs) :
    c.failures ps = .ok (rs.filterMap error?) := by
  induction h with
  | nil => rfl
  | @cons p r ps rs hp _ ih =>
      obtain ⟨v, hv, hr⟩ := hp
      rw [failures, hv, ih]
      simp only [bind, Except.bind, hr]
      cases r <;> rfl

theorem failures_of_unreadable {before after : List (Property U)} {p : Property U} {e : Error}
    (hbefore : ∀ q ∈ before, ∃ v, c.get q = .ok v) (hp : c.get p = .error e) :
    c.failures (before ++ p :: after) = .error e := by
  induction before with
  | nil =>
      rw [List.nil_append, failures, hp]
      rfl
  | cons q before ih =>
      obtain ⟨⟨v, hv⟩, hothers⟩ := List.forall_mem_cons.mp hbefore
      rw [List.cons_append, failures, hv, ih hothers]
      rfl

theorem validate_of_verdicts (h : c.Verdicts c.schema.members rs) :
    c.validate = (combine rs).mapError Error.validation := by
  rw [validate, failures_of_verdicts h]
  simp only [bind, Except.bind, combine]
  cases ValidationError.ofFailures (rs.filterMap error?) <;> rfl

/-- Validation of the record is that of its members. -/
structure ValidatesMembers (c : Contents U) : Prop where
  get_iff : ∀ p ∈ c.schema.members, ∀ v, c.get p = .ok v ↔ c.Current p v
  accepts_iff : c.validate = .ok () ↔
    ∀ p ∈ c.schema.members, ∃ v, c.get p = .ok v ∧ p.validate v = .ok ()
  unreadable : ∀ before p after e, c.schema.members = before ++ p :: after →
    (∀ q ∈ before, ∃ v, c.get q = .ok v) → c.get p = .error e → c.validate = .error e
  readable : (∀ p ∈ c.schema.members, ∃ v, c.get p = .ok v) →
    ∃ rs, c.Verdicts c.schema.members rs
  invalid : ∀ rs e, c.Verdicts c.schema.members rs → c.validate = .error e →
    ∃ f, e = .validation f ∧ f.leaves = rs.flatMap reported
  single : ∀ before f after, c.Verdicts c.schema.members (before ++ .error f :: after) →
    (∀ r ∈ before ++ after, r = .ok ()) → c.validate = .error (.validation f)

theorem validate_eq_ok_iff_failures :
    c.validate = .ok () ↔ c.failures c.schema.members = .ok [] := by
  rw [validate]
  cases c.failures c.schema.members with
  | error e => simp [bind, Except.bind]
  | ok fs =>
      rw [Except.ok.injEq, ← ValidationError.ofFailures_eq_ok_iff]
      simp only [bind, Except.bind]
      cases ValidationError.ofFailures fs <;> simp [pure, Except.pure]

theorem validate_eq_ok_iff : c.validate = .ok () ↔
    ∀ p ∈ c.schema.members, ∃ v, c.get p = .ok v ∧ p.validate v = .ok () := by
  rw [validate_eq_ok_iff_failures, failures_eq_ok_iff, eq_comm (a := []), List.map_eq_nil_iff,
    List.filterMap_eq_nil_iff, ← forall₂_and]
  refine forall₂_congr fun p _ => ?_
  rw [report?]
  cases c.get p with
  | error e => simp
  | ok v => cases hvalid : p.validate v <;> simp [hvalid]

/-- Whatever a record holds, its validation is that of its members. -/
theorem validatesMembers (c : Contents U) : c.ValidatesMembers where
  get_iff p hp v := get_eq_ok_iff_current hp
  accepts_iff := validate_eq_ok_iff
  unreadable before p after e hmembers hbefore hp := by
    rw [validate, hmembers, failures_of_unreadable hbefore hp]
    rfl
  readable := exists_verdicts
  invalid rs e hrs h := by
    rw [validate_of_verdicts hrs] at h
    rw [← ValidationError.reported_combine]
    cases hcombined : combine rs with
    | ok _ =>
        rw [hcombined] at h
        cases h
    | error f =>
        rw [hcombined] at h
        cases h
        exact ⟨f, rfl, rfl⟩
  single before f after hrs hothers := by
    rw [validate_of_verdicts hrs, ValidationError.combine_single hothers, Except.mapError]

open Sample in
example :
    let untold : Property kinds :=
      VirtualDraft.build (k := Kind.text) { name := some "untold" } ⟨13⟩
    let holding (members : List (Property kinds)) : Contents kinds :=
      { id := ⟨14⟩, schema := .of members, values := ⟨[(score.toDescriptor, number (-3))]⟩ }
    (holding [heading, score, title]).validate =
        .error (.validation (.invalid "must not be negative" none [])) ∧
      (holding [score, untold, title]).validate =
        .error (.property (.missingProvider "untold")) := by
  constructor <;> rfl

end Contents

end TypedRecords
