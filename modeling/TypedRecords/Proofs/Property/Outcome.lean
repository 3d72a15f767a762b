import TypedRecords.Proofs.Property.Validation
import TypedRecords.Proofs.Sample

namespace TypedRecords

variable {U : Universe}

/-- What a rule says of a value. A rule that does not support the value speaks of its model value
instead, if a converter gives it one. -/
def Rule.outcome {k : U.Kind} (r : Rule U) (converter : Option (Converter U k)) :
    Validator (Value U) :=
  fun v =>
    match r.validate v, converter.bind fun c => (c.toModel v).toOption with
    | .error (.unsupportedType ..), some m => r.validate m
    | first, _ => first

namespace Validator

variable {T : Type} {w : Validator T} {x : Option T}

theorem failure?_eq_none_iff : w.failure? x = none ↔ w x = .ok () := by
  rw [failure?]
  cases w x <;> simp

theorem failure?_eq_some_iff {e : ValidationError} :
    w.failure? x = some e ↔ w x = .error e := by
  rw [failure?]
  cases w x <;> simp

end Validator

namespace Signature

variable {s : Signature U} {v : Option (Value U)} {r : Rule U}

def failing (s : Signature U) (v : Option (Value U)) : List ValidationError :=
  s.attributes.rules.filterMap fun r => (r.outcome s.attributes.converter).failure? v

theorem failure?_eq_outcome :
    s.failure? v r = (r.outcome s.attributes.converter).failure? v := by
  have hmodel : s.modelOf? v = s.attributes.converter.bind fun c => (c.toModel v).toOption := by
    rw [modelOf?]
    cases s.attributes.converter <;> rfl
  rw [failure?, Validator.failure?, Rule.outcome, ← hmodel]
  cases hfirst : r.validate v with
  | ok _ => rfl
  | error e =>
      cases e with
      | unsupportedType expected actual =>
          cases s.modelOf? v with
          | none => rfl
          | some m =>
              cases hretried : r.validate m <;>
                simp [ValidationError.isUnsupportedType, hretried]
      | invalid message code arguments => rfl
      | aggregate failures => rfl

theorem failuresFrom_eq_outcomes {model : Option (Option (Value U))}
    (hmodel : model = none ∨ model = s.modelOf? v) (rules : List (Rule U)) :
    s.failuresFrom v model rules =
      rules.filterMap fun r => (r.outcome s.attributes.converter).failure? v := by
  have hknown : ∀ m, model = some m → s.modelOf? v = some m := by
    rintro m rfl
    exact hmodel.elim (fun h => nomatch h) Eq.symm
  rw [failuresFrom_eq hknown]
  congr 1
  funext r
  exact failure?_eq_outcome

theorem validate_eq_ofFailures : s.validate v = ValidationError.ofFailures (s.failing v) := by
  rw [validate, failuresFrom_eq_outcomes (Or.inl rfl), failing]

theorem failing_eq_singleton_iff {e : ValidationError} :
    s.failing v = [e] ↔ ∃ before r after, s.attributes.rules = before ++ r :: after ∧
      r.outcome s.attributes.converter v = .error e ∧
        ∀ q ∈ before ++ after, q.outcome s.attributes.converter v = .ok () := by
  simp only [failing, List.filterMap_eq_cons_iff, List.filterMap_eq_nil_iff,
    Validator.failure?_eq_none_iff, Validator.failure?_eq_some_iff, List.forall_mem_append]
  constructor
  · rintro ⟨before, r, after, hrules, hbefore, hr, hafter⟩
    exact ⟨before, r, after, hrules, hr, hbefore, hafter⟩
  · rintro ⟨before, r, after, hrules, hr, hbefore, hafter⟩
    exact ⟨before, r, after, hrules, hbefore, hr, hafter⟩

/-- A value is valid if the outcome of every rule is to accept it. The failure of a single rule is
reported as it is, and several are put together in the order of their rules. What a rule adds to the
failures is its own outcome, whichever rules stand before and behind it and whether or not the model
value is known when its turn comes. -/
theorem validate_by_outcomes (s : Signature U) (v : Option (Value U)) :
    (s.validate v = .ok () ↔
        ∀ r ∈ s.attributes.rules, r.outcome s.attributes.converter v = .ok ()) ∧
      (∀ e, s.validate v = .error e ↔
        (∃ before r after, s.attributes.rules = before ++ r :: after ∧
            r.outcome s.attributes.converter v = .error e ∧
              ∀ q ∈ before ++ after, q.outcome s.attributes.converter v = .ok ()) ∨
          2 ≤ (s.failing v).length ∧ e = .aggregate (s.failing v)) ∧
        ∀ before r after,
          s.failuresFrom v none (before ++ r :: after) =
              s.failuresFrom v none before ++
                ((r.outcome s.attributes.converter).failure? v).toList ++
                s.failuresFrom v none after ∧
            s.failuresFrom v (s.modelOf? v) (before ++ r :: after) =
              s.failuresFrom v none (before ++ r :: after) := by
  refine ⟨?_, ?_, ?_⟩
  · rw [validate_eq_ofFailures, ValidationError.ofFailures_eq_ok_iff, failing,
      List.filterMap_eq_nil_iff]
    exact forall₂_congr fun r _ => Validator.failure?_eq_none_iff
  · intro e
    rw [validate_eq_ofFailures, ValidationError.ofFailures_eq_error_iff, failing_eq_singleton_iff]
  · intro before r after
    have hunknown := failuresFrom_eq_outcomes (s := s) (v := v) (Or.inl rfl)
    have hknown := failuresFrom_eq_outcomes (s := s) (v := v) (Or.inr rfl)
    refine ⟨?_, (hknown _).trans (hunknown _).symm⟩
    rw [hunknown, hunknown, hunknown, List.filterMap_append, List.filterMap_cons,
      List.append_assoc]
    cases (r.outcome s.attributes.converter).failure? v <;> rfl

open Sample in
example : score.toSignature.validate (some (number 7)) =
    .error (.invalid "must have at most 4 marks" none []) := by
  rfl

end Signature

end TypedRecords
