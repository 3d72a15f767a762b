import Mathlib.Data.List.Basic
import TypedRecords.Error

namespace TypedRecords.ValidationError

variable {e : ValidationError} {fs : List ValidationError}
  {rs before after : List (Except ValidationError Unit)}

theorem leavesOfAll_eq_flatMap (fs : List ValidationError) :
    leavesOfAll fs = fs.flatMap leaves := by
  induction fs with
  | nil => rfl
  | cons f fs ih => rw [leavesOfAll, ih, List.flatMap_cons]

theorem leaves_of_single (h : e.isAggregate = false) : e.leaves = [e] := by
  cases e with
  | invalid message code arguments => rfl
  | unsupportedType expected actual => rfl
  | aggregate failures => cases h

theorem ofFailures_eq_ok_iff : ofFailures fs = .ok () ↔ fs = [] := by
  match fs with
  | [] => simp [ofFailures]
  | [_] => simp [ofFailures]
  | _ :: _ :: _ => simp [ofFailures]

theorem ofFailures_eq_error_iff :
    ofFailures fs = .error e ↔ fs = [e] ∨ 2 ≤ fs.length ∧ e = .aggregate fs := by
  match fs with
  | [] => simp [ofFailures]
  | [_] => simp [ofFailures]
  | _ :: _ :: _ => simp [ofFailures, eq_comm]

def error? : Except ValidationError Unit → Option ValidationError
  | .ok _ => none
  | .error e => some e

/-- The leaves of the error of a verdict; there are none if it is to accept. -/
def reported : Except ValidationError Unit → List ValidationError
  | .ok _ => []
  | .error e => e.leaves

def combine (rs : List (Except ValidationError Unit)) : Except ValidationError Unit :=
  ofFailures (rs.filterMap error?)

theorem error?_eq_none_iff {r : Except ValidationError Unit} : error? r = none ↔ r = .ok () := by
  cases r <;> simp [error?]

theorem combine_eq_ok_iff : combine rs = .ok () ↔ ∀ r ∈ rs, r = .ok () := by
  rw [combine, ofFailures_eq_ok_iff, List.filterMap_eq_nil_iff]
  exact forall₂_congr fun r _ => error?_eq_none_iff

theorem reported_ofFailures (fs : List ValidationError) :
    reported (ofFailures fs) = fs.flatMap leaves := by
  match fs with
  | [] => rfl
  | [f] => exact (List.append_nil _).symm
  | f :: f' :: fs =>
      change (aggregate (f :: f' :: fs)).leaves = _
      rw [leaves, leavesOfAll_eq_flatMap]

theorem reported_combine (rs : List (Except ValidationError Unit)) :
    reported (combine rs) = rs.flatMap reported := by
  rw [combine, reported_ofFailures]
  induction rs with
  | nil => rfl
  | cons r rs ih =>
      rw [List.flatMap_cons, ← ih]
      cases r <;> rfl

theorem combine_single (h : ∀ r ∈ before ++ after, r = .ok ()) (f : ValidationError) :
    combine (before ++ .error f :: after) = .error f := by
  have hnone : ∀ rs ⊆ before ++ after, rs.filterMap error? = [] := fun rs hrs =>
    List.filterMap_eq_nil_iff.mpr fun r hr => error?_eq_none_iff.mpr (h r (hrs hr))
  rw [combine, List.filterMap_append, hnone before (by simp)]
  change ofFailures (f :: after.filterMap error?) = _
  rw [hnone after (by simp), ofFailures]

/-- One error is another one, or stands somewhere among the failures that it puts together. -/
inductive PartOf : ValidationError → ValidationError → Prop
  | self (e : ValidationError) : PartOf e e
  | inside {e f : ValidationError} {fs : List ValidationError} (hf : f ∈ fs) (h : PartOf e f) :
      PartOf e (.aggregate fs)

/-- Wherever the error puts failures together, there are at least two of them. -/
def Compact (e : ValidationError) : Prop :=
  ∀ fs, (aggregate fs).PartOf e → 2 ≤ fs.length

theorem compact_of_single (h : e.isAggregate = false) : e.Compact := by
  intro fs hpart
  cases hpart with
  | self => cases h
  | inside => cases h

theorem compact_aggregate (hfs : ∀ f ∈ fs, f.Compact) (hlength : 2 ≤ fs.length) :
    (aggregate fs).Compact := by
  intro gs hpart
  cases hpart with
  | self => exact hlength
  | inside hf h => exact hfs _ hf gs h

theorem compact_of_combine (hrs : ∀ f, .error f ∈ rs → f.Compact) (h : combine rs = .error e) :
    e.Compact := by
  have herrors : ∀ f ∈ rs.filterMap error?, f.Compact := by
    intro f hf
    obtain ⟨r, hr, hfails⟩ := List.mem_filterMap.mp hf
    cases r with
    | ok _ => cases hfails
    | error f' =>
        cases hfails
        exact hrs f hr
  rcases ofFailures_eq_error_iff.mp h with hsingle | ⟨hlength, rfl⟩
  · exact herrors e (by simp [hsingle])
  · exact compact_aggregate herrors hlength

end TypedRecords.ValidationError
