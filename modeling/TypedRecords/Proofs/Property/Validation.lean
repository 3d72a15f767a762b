import TypedRecords.Proofs.Error
import TypedRecords.Property.Validation

namespace TypedRecords

namespace Signature

variable {U : Universe} {s : Signature U} {v : Option (Value U)} {r : Rule U}

def failure? (s : Signature U) (v : Option (Value U)) (r : Rule U) : Option ValidationError :=
  match r.validate v with
  | .ok _ => none
  | .error e =>
    if e.isUnsupportedType then
      match s.modelOf? v with
      | none => some e
      | some m =>
        match r.validate m with
        | .ok _ => none
        | .error retried => some retried
    else some e

theorem failuresFrom_eq {model : Option (Option (Value U))}
    (hmodel : ∀ m, model = some m → s.modelOf? v = some m) (rules : List (Rule U)) :
    s.failuresFrom v model rules = rules.filterMap (s.failure? v) := by
  induction rules generalizing model with
  | nil => cases model <;> rfl
  | cons r rules ih =>
      rw [List.filterMap_cons, failure?]
      cases hfirst : r.validate v with
      | ok _ => simp [failuresFrom, hfirst, ih hmodel]
      | error e =>
          cases hunsupported : e.isUnsupportedType with
          | false => simp [failuresFrom, hfirst, hunsupported, ih hmodel]
          | true =>
              have hnone : s.failuresFrom v none rules = rules.filterMap (s.failure? v) :=
                ih (by simp)
              cases hm : s.modelOf? v with
              | none =>
                  cases model with
                  | none => simp [failuresFrom, hfirst, hunsupported, hm, hnone]
                  | some m => exact absurd (hmodel m rfl) (by simp [hm])
              | some m =>
                  have hsome : s.failuresFrom v (some m) rules = rules.filterMap (s.failure? v) :=
                    ih (by simp [hm])
                  have hknown : model = none ∨ model = some m := by
                    cases model with
                    | none => exact Or.inl rfl
                    | some m' => exact Or.inr ((hmodel m' rfl).symm.trans hm)
                  cases hretried : r.validate m <;> rcases hknown with rfl | rfl <;>
                    simp [failuresFrom, hfirst, hunsupported, hm, hretried, hsome]

/-- The value satisfies the rule, by itself or in the form of its model. -/
inductive Satisfies (s : Signature U) (v : Option (Value U)) (r : Rule U) : Prop
  | directly (accepts : r.validate v = .ok ())
  | retried {e : ValidationError} {c : Converter U s.kind} {m : Option (Value U)}
      (fails : r.validate v = .error e) (unsupported : e.isUnsupportedType = true)
      (hc : s.attributes.converter = some c) (hm : c.toModel v = .ok m)
      (accepts : r.validate m = .ok ())

theorem modelOf?_eq_some_iff {m : Option (Value U)} :
    s.modelOf? v = some m ↔ ∃ c, s.attributes.converter = some c ∧ c.toModel v = .ok m := by
  rw [modelOf?]
  cases hc : s.attributes.converter with
  | none => simp
  | some c => cases hm : c.toModel v <;> simp [hm, Except.toOption]

theorem failure?_eq_none_iff : s.failure? v r = none ↔ s.Satisfies v r := by
  constructor
  · intro h
    rw [failure?] at h
    split at h
    · exact .directly ‹_›
    · rename_i e hfails
      split at h
      · rename_i hunsupported
        split at h
        · cases h
        · rename_i m hm
          split at h
          · rename_i haccepts
            obtain ⟨c, hc, hm⟩ := modelOf?_eq_some_iff.mp hm
            exact .retried hfails hunsupported hc hm haccepts
          · cases h
      · cases h
  · intro h
    cases h with
    | directly accepts => rw [failure?, accepts]
    | retried fails unsupported hc hm accepts =>
        have hmodel := modelOf?_eq_some_iff.mpr ⟨_, hc, hm⟩
        simp [failure?, fails, unsupported, hmodel, accepts]

theorem validate_eq_ok_iff :
    s.validate v = .ok () ↔ ∀ r ∈ s.attributes.rules, s.Satisfies v r := by
  rw [validate, ValidationError.ofFailures_eq_ok_iff, failuresFrom_eq (by simp),
    List.filterMap_eq_nil_iff]
  exact forall₂_congr fun r _ => failure?_eq_none_iff

end Signature

end TypedRecords
