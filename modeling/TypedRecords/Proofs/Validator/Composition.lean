import TypedRecords.Proofs.Error
import TypedRecords.Proofs.Property.Outcome

namespace TypedRecords

open ValidationError (combine reported)

namespace Validator

variable {T : Type}

/-- The validator speaks for itself only: it never reports failures that are put together, nor that
it does not support a value. -/
def Plain (w : Validator T) : Prop :=
  ∀ x e, w x = .error e → e.isUnsupportedType = false ∧ e.isAggregate = false

theorem plain_predicate (holds : T → Bool) (message : String) (code : Option String)
    (arguments : List String) : (predicate holds message code arguments).Plain := by
  intro x e h
  cases x with
  | none => cases h
  | some x =>
      rw [predicate] at h
      split at h
      · cases h
      · cases h
        exact ⟨rfl, rfl⟩

theorem Plain.reported_eq {w : Validator T} (hw : w.Plain) (x : Option T) :
    reported (w x) = (w.failure? x).toList := by
  rw [failure?]
  cases h : w x with
  | ok _ => rfl
  | error e => exact ValidationError.leaves_of_single (hw x e h).2

theorem allOf_eq_combine (ws : List (Validator T)) (x : Option T) :
    allOf ws x = combine (ws.map (· x)) := by
  rw [allOf, combine, List.filterMap_map]
  rfl

/-- Validators composed to any depth. -/
inductive Tree (T : Type) where
  | leaf (w : Validator T)
  | all (branches : List (Tree T))

namespace Tree

mutual

/-- The validator that the tree composes. -/
def compose : Tree T → Validator T
  | .leaf w => w
  | .all branches => allOf (composeEach branches)

def composeEach : List (Tree T) → List (Validator T)
  | [] => []
  | t :: rest => compose t :: composeEach rest

end

mutual

/-- The validators that the tree is made of, from left to right. -/
def leaves : Tree T → List (Validator T)
  | .leaf w => [w]
  | .all branches => leavesOfAll branches

def leavesOfAll : List (Tree T) → List (Validator T)
  | [] => []
  | t :: rest => leaves t ++ leavesOfAll rest

end

@[elab_as_elim]
theorem induction {motive : Tree T → Prop} (leaf : ∀ w, motive (.leaf w))
    (all : ∀ branches, (∀ t ∈ branches, motive t) → motive (.all branches)) : ∀ t, motive t
  | .leaf w => leaf w
  | .all branches => all branches fun t _ => induction leaf all t

theorem composeEach_eq_map (ts : List (Tree T)) : composeEach ts = ts.map compose := by
  induction ts with
  | nil => rfl
  | cons t ts ih => rw [composeEach, ih, List.map_cons]

theorem compose_all (branches : List (Tree T)) (x : Option T) :
    (all branches).compose x = combine (branches.map (·.compose x)) := by
  rw [compose, allOf_eq_combine, composeEach_eq_map, List.map_map]
  rfl

theorem leavesOfAll_eq_flatMap (ts : List (Tree T)) : leavesOfAll ts = ts.flatMap leaves := by
  induction ts with
  | nil => rfl
  | cons t ts ih => rw [leavesOfAll, ih, List.flatMap_cons]

theorem mem_leaves_all {branches : List (Tree T)} {w : Validator T} :
    w ∈ (all branches).leaves ↔ ∃ t ∈ branches, w ∈ t.leaves := by
  rw [leaves, leavesOfAll_eq_flatMap, List.mem_flatMap]

theorem compose_eq_ok_iff {t : Tree T} {x : Option T} :
    t.compose x = .ok () ↔ ∀ w ∈ t.leaves, w x = .ok () := by
  induction t using induction with
  | leaf w => simp [compose, leaves]
  | all branches ih =>
      rw [compose_all, ValidationError.combine_eq_ok_iff, List.forall_mem_map]
      constructor
      · intro h w hw
        obtain ⟨t, ht, hwt⟩ := mem_leaves_all.mp hw
        exact (ih t ht).mp (h t ht) w hwt
      · intro h t ht
        exact (ih t ht).mpr fun w hw => h w (mem_leaves_all.mpr ⟨t, ht, hw⟩)

theorem reported_compose (t : Tree T) (x : Option T) :
    reported (t.compose x) = t.leaves.flatMap fun w => reported (w x) := by
  induction t using induction with
  | leaf w => exact (List.append_nil _).symm
  | all branches ih =>
      rw [compose_all, ValidationError.reported_combine, List.flatMap_map, leaves,
        leavesOfAll_eq_flatMap, List.flatMap_assoc]
      exact List.flatMap_congr ih

theorem compact_of_compose {t : Tree T} {x : Option T} {e : ValidationError}
    (hleaves : ∀ w ∈ t.leaves, ∀ f, w x = .error f → f.Compact) (h : t.compose x = .error e) :
    e.Compact := by
  induction t using induction generalizing e with
  | leaf w => exact hleaves w List.mem_cons_self e h
  | all branches ih =>
      rw [compose_all] at h
      refine ValidationError.compact_of_combine (fun f hf => ?_) h
      obtain ⟨t, ht, hfails⟩ := List.mem_map.mp hf
      exact ih t ht (fun w hw => hleaves w (mem_leaves_all.mpr ⟨t, ht, hw⟩)) hfails

theorem reported_compose_of_plain {t : Tree T} (ht : ∀ w ∈ t.leaves, w.Plain) (x : Option T) :
    reported (t.compose x) = t.leaves.filterMap (·.failure? x) := by
  rw [reported_compose, List.filterMap_eq_flatMap_toList]
  exact List.flatMap_congr fun w hw => (ht w hw).reported_eq x

theorem plain_of_mem_reported {t : Tree T} (ht : ∀ w ∈ t.leaves, w.Plain) {x : Option T}
    {f : ValidationError} (hf : f ∈ reported (t.compose x)) :
    f.isUnsupportedType = false ∧ f.isAggregate = false := by
  rw [reported_compose_of_plain ht] at hf
  obtain ⟨w, hw, hfails⟩ := List.mem_filterMap.mp hf
  exact ht w hw x f (failure?_eq_some_iff.mp hfails)

theorem supported_of_compose {t : Tree T} (ht : ∀ w ∈ t.leaves, w.Plain) {x : Option T}
    {e : ValidationError} (h : t.compose x = .error e) : e.isUnsupportedType = false := by
  by_contra hunsupported
  have hsingle : e.leaves = [e] := by
    cases e with
    | unsupportedType expected actual => rfl
    | invalid message code arguments => exact absurd rfl hunsupported
    | aggregate failures => exact absurd rfl hunsupported
  have he : e ∈ reported (t.compose x) := by
    rw [h, reported, hsingle]
    exact List.mem_singleton_self e
  exact hunsupported (plain_of_mem_reported ht he).1

/-- What a tree of validators says of a value is what its leaves say of it. -/
structure SpeaksForLeaves (t : Tree T) : Prop where
  accepts_iff : ∀ x, t.compose x = .ok () ↔ ∀ w ∈ t.leaves, w x = .ok ()
  leaves_eq : ∀ x e, t.compose x = .error e → e.leaves = t.leaves.filterMap (·.failure? x)
  single : ∀ x e, t.compose x = .error e → ∀ f ∈ e.leaves, f.isAggregate = false
  compact : ∀ x e, t.compose x = .error e → e.Compact

theorem speaksForLeaves_of_plain {t : Tree T} (ht : ∀ w ∈ t.leaves, w.Plain) :
    t.SpeaksForLeaves where
  accepts_iff x := compose_eq_ok_iff
  leaves_eq x e h := by
    rw [← reported_compose_of_plain ht, h, reported]
  single x e h f hf := by
    refine (plain_of_mem_reported ht (x := x) ?_).2
    rw [h]
    exact hf
  compact x e h := by
    refine compact_of_compose (fun w hw f hf => ?_) h
    exact ValidationError.compact_of_single (ht w hw x f hf).2

end Tree

end Validator

variable {U : Universe}

theorem Rule.validate_map {k : U.Kind} (w : Validator (U.El k)) (x : Option (U.El k)) :
    (Rule.mk k w).validate (x.map (Value.mk k)) = w x := by
  cases x with
  | none => rfl
  | some x => simp [Rule.validate, Value.as?]

theorem Rule.outcome_of_supported {k : U.Kind} {w : Validator (U.El k)} {x : Option (U.El k)}
    (hw : ∀ e, w x = .error e → e.isUnsupportedType = false) (converter : Option (Converter U k)) :
    (Rule.mk k w).outcome converter (x.map (Value.mk k)) = w x := by
  rw [outcome, validate_map]
  split
  · rename_i hunsupported _
    cases hw _ hunsupported
  · rfl

namespace Signature

def withRules (s : Signature U) (rules : List (Rule U)) : Signature U :=
  { s with attributes := { s.attributes with rules } }

theorem validate_eq_combine (s : Signature U) (v : Option (Value U)) :
    s.validate v =
      combine (s.attributes.rules.map fun r => r.outcome s.attributes.converter v) := by
  rw [validate_eq_ofFailures, failing, combine, List.filterMap_map]
  rfl

theorem validate_withRules (s : Signature U) (rules : List (Rule U)) (v : Option (Value U)) :
    (s.withRules rules).validate v =
      combine (rules.map fun r => r.outcome s.attributes.converter v) :=
  validate_eq_combine (s.withRules rules) v

/-- A tree of validators that speak for themselves only says of every value what its leaves say of
it. Among whatever other rules a property has it, with a converter or without one, the verdict and
the failures are those of the property that has its leaves there, one after the other. -/
theorem tree_reports_like_leaves (s : Signature U) (t : Validator.Tree (U.El s.kind))
    (ht : ∀ w ∈ t.leaves, w.Plain) :
    t.SpeaksForLeaves ∧ ∀ before after, ∀ x : Option (U.El s.kind),
      let v := x.map (Value.mk s.kind)
      let whole := (s.withRules (before ++ ⟨s.kind, t.compose⟩ :: after)).validate v
      let parts := (s.withRules (before ++ t.leaves.map (Rule.mk s.kind) ++ after)).validate v
      (whole = .ok () ↔ parts = .ok ()) ∧ reported whole = reported parts := by
  refine ⟨Validator.Tree.speaksForLeaves_of_plain ht, fun before after x => ?_⟩
  have htree := Rule.outcome_of_supported
    (fun e => Validator.Tree.supported_of_compose ht (x := x)) s.attributes.converter
  have hleaf : ∀ w ∈ t.leaves, (Rule.mk s.kind w).outcome s.attributes.converter
      (x.map (Value.mk s.kind)) = w x := fun w hw =>
    Rule.outcome_of_supported (fun e he => (ht w hw x e he).1) s.attributes.converter
  have hverdict : t.compose x = .ok () ↔ ∀ w ∈ t.leaves,
      (Rule.mk s.kind w).outcome s.attributes.converter (x.map (Value.mk s.kind)) = .ok () :=
    Validator.Tree.compose_eq_ok_iff.trans (forall₂_congr fun w hw => by rw [hleaf w hw])
  have hreported : reported (t.compose x) = t.leaves.flatMap fun w =>
      reported ((Rule.mk s.kind w).outcome s.attributes.converter (x.map (Value.mk s.kind))) :=
    (t.reported_compose x).trans (List.flatMap_congr fun w hw => by rw [hleaf w hw])
  dsimp only
  rw [validate_withRules, validate_withRules]
  constructor
  · simp only [ValidationError.combine_eq_ok_iff, List.forall_mem_map, List.forall_mem_append,
      List.forall_mem_cons, htree, hverdict, and_assoc]
  · simp only [ValidationError.reported_combine, List.flatMap_map, List.flatMap_append,
      List.flatMap_cons, htree, hreported, List.append_assoc]

end Signature

namespace Sample

def even : Validator Int :=
  .predicate (fun n => decide (n % 2 = 0)) "must be even" none []

def short : Validator Int :=
  .predicate (fun n => decide (n.natAbs < 10)) "must have one digit" (some "digits") ["1"]

def limits : Validator.Tree Int :=
  .all [.leaf notNegative, .all [.all [.leaf even], .leaf short], .all []]

theorem limits_plain : ∀ w ∈ limits.leaves, w.Plain := by
  have hleaves : limits.leaves = [notNegative, even, short] := rfl
  rw [hleaves]
  simp only [List.forall_mem_cons, List.not_mem_nil, false_imp_iff, implies_true, and_true]
  exact ⟨Validator.plain_predicate _ _ _ _, Validator.plain_predicate _ _ _ _,
    Validator.plain_predicate _ _ _ _⟩

end Sample

open Sample in
theorem Signature.tree_reports_like_leaves_limits :
    let negative : ValidationError := .invalid "must not be negative" none []
    let odd : ValidationError := .invalid "must be even" none []
    let long : ValidationError := .invalid "must have one digit" (some "digits") ["1"]
    let whole := score.toSignature.withRules [⟨Kind.number, limits.compose⟩, ⟨Kind.text, fewMarks⟩]
    let parts := score.toSignature.withRules
      (limits.leaves.map (Rule.mk Kind.number) ++ [⟨Kind.text, fewMarks⟩])
    (∀ w ∈ limits.leaves, w.Plain) ∧ limits.SpeaksForLeaves ∧
      limits.compose (some (-17)) = .error (.aggregate [negative, .aggregate [odd, long]]) ∧
        reported (whole.validate (some (number (-17)))) = [negative, odd, long] ∧
          reported (parts.validate (some (number (-17)))) = [negative, odd, long] := by
  obtain ⟨hspeaks, hattached⟩ :=
    Signature.tree_reports_like_leaves score.toSignature limits limits_plain
  have hsame := (hattached [] [⟨Kind.text, fewMarks⟩] (some (-17 : Int))).2
  exact ⟨limits_plain, hspeaks, rfl, rfl, hsame.symm.trans rfl⟩

end TypedRecords
