import Mathlib.Tactic.ByContra
import TypedRecords.Configuration

namespace TypedRecords.Configuration

inductive Change (U : Universe) where
  | write (key : String) (v : Value U)
  | remove (key : String)

namespace Change

variable {U : Universe}

def key : Change U → String
  | .write key _ => key
  | .remove key => key

def value? : Change U → Option (Value U)
  | .write _ v => some v
  | .remove _ => none

def isWrite (change : Change U) : Bool :=
  change.value?.isSome

theorem eq_write {change : Change U} {v : Value U} (h : change.value? = some v) :
    change = .write change.key v := by
  cases change <;> cases h
  rfl

theorem eq_remove {change : Change U} (h : change.value? = none) :
    change = .remove change.key := by
  cases change <;> cases h
  rfl

variable {changes later : List (Change U)} {key : String} {v : Value U}

/-- The last change of the key is a write of the value. -/
def Leaves (changes : List (Change U)) (key : String) (v : Value U) : Prop :=
  ∃ before after, changes = before ++ .write key v :: after ∧ ∀ change ∈ after, change.key ≠ key

/-- The key was never written, or it was removed after its last write. -/
def LeavesNothing (changes : List (Change U)) (key : String) : Prop :=
  (∀ v, .write key v ∉ changes) ∨
    ∃ before after, changes = before ++ .remove key :: after ∧ ∀ v, .write key v ∉ after

def last? (changes : List (Change U)) (key : String) : Option (Change U) :=
  changes.reverse.find? fun change => change.key == key

def left (changes : List (Change U)) (key : String) : Option (Value U) :=
  (last? changes key).bind value?

/-- The writes that no later change of their keys follows. -/
def inForce : List (Change U) → List (Change U)
  | [] => []
  | change :: later =>
    if change.isWrite && (last? later change.key).isNone then change :: inForce later
    else inForce later

theorem last?_append : last? (changes ++ later) key = (last? later key).or (last? changes key) := by
  rw [last?, List.reverse_append, List.find?_append]
  rfl

theorem last?_cons (change : Change U) : last? (change :: later) key =
    (last? later key).or (if change.key == key then some change else none) := by
  rw [← List.singleton_append, last?_append]
  congr 1
  exact List.find?_singleton

theorem last?_eq_none_iff : last? changes key = none ↔ ∀ change ∈ changes, change.key ≠ key := by
  simp [last?]

theorem last?_eq_some_iff {change : Change U} :
    last? changes key = some change ↔ change.key = key ∧
      ∃ before after, changes = before ++ change :: after ∧ ∀ other ∈ after, other.key ≠ key := by
  rw [last?, List.find?_eq_some_iff_append, beq_iff_eq]
  refine and_congr_right fun _ => ?_
  constructor
  · rintro ⟨after, before, hchanges, hafter⟩
    refine ⟨before.reverse, after.reverse, ?_, ?_⟩
    · rw [← List.reverse_reverse changes, hchanges]
      simp
    · simpa using hafter
  · rintro ⟨before, after, rfl, hafter⟩
    exact ⟨after.reverse, before.reverse, by simp, by simpa using hafter⟩

theorem leaves_iff : Leaves changes key v ↔ left changes key = some v := by
  rw [left, Option.bind_eq_some_iff]
  constructor
  · intro hleaves
    exact ⟨.write key v, last?_eq_some_iff.mpr ⟨rfl, hleaves⟩, rfl⟩
  · rintro ⟨change, hlast, hvalue⟩
    obtain ⟨rfl, hsplit⟩ := last?_eq_some_iff.mp hlast
    rwa [eq_write hvalue] at hsplit

theorem left_eq_none_of_forall_write (h : ∀ v, .write key v ∉ changes) :
    left changes key = none := by
  by_contra hsome
  obtain ⟨v, hv⟩ := Option.ne_none_iff_exists'.mp hsome
  obtain ⟨before, after, rfl, -⟩ := leaves_iff.mpr hv
  exact h v (by simp)

theorem leavesNothing_iff : LeavesNothing changes key ↔ left changes key = none := by
  constructor
  · rintro (hnone | ⟨before, after, rfl, hnone⟩)
    · exact left_eq_none_of_forall_write hnone
    · have hafter := left_eq_none_of_forall_write hnone
      rw [left] at hafter ⊢
      rw [last?_append, last?_cons, Change.key, beq_self_eq_true, if_pos rfl]
      cases hlast : last? after key with
      | none => rfl
      | some change =>
          rw [hlast] at hafter
          exact hafter
  · intro hleft
    rw [left, Option.bind_eq_none_iff] at hleft
    cases hlast : last? changes key with
    | none =>
        refine Or.inl fun v hv => ?_
        exact last?_eq_none_iff.mp hlast _ hv rfl
    | some change =>
        obtain ⟨rfl, before, after, hchanges, hafter⟩ := last?_eq_some_iff.mp hlast
        rw [eq_remove (hleft change hlast)] at hchanges
        exact Or.inr ⟨before, after, hchanges, fun v hv => hafter _ hv rfl⟩

theorem mem_inForce_iff_last? {change : Change U} :
    change ∈ inForce changes ↔ last? changes change.key = some change ∧ change.isWrite = true := by
  induction changes with
  | nil => simp [inForce, last?]
  | cons first later ih =>
      have hmem : change ∈ inForce (first :: later) ↔
          (change = first ∧ first.isWrite = true ∧ last? later first.key = none) ∨
            change ∈ inForce later := by
        rw [inForce]
        split <;> simp_all
      rw [hmem, ih, last?_cons]
      cases hlater : last? later change.key with
      | none =>
          rw [Option.none_or]
          constructor
          · rintro (⟨rfl, hwrite, -⟩ | ⟨hnone, -⟩)
            · simp [hwrite]
            · cases hnone
          · rintro ⟨hfirst, hwrite⟩
            split at hfirst
            · cases hfirst
              exact Or.inl ⟨rfl, hwrite, hlater⟩
            · cases hfirst
      | some other =>
          rw [Option.some_or]
          refine or_iff_right ?_
          rintro ⟨rfl, -, hnone⟩
          rw [hnone] at hlater
          cases hlater

theorem mem_inForce_iff {change : Change U} :
    change ∈ inForce changes ↔ ∃ v, change = .write change.key v ∧ Leaves changes change.key v := by
  rw [mem_inForce_iff_last?, last?_eq_some_iff]
  cases change with
  | write key v =>
      constructor
      · rintro ⟨⟨-, hsplit⟩, -⟩
        exact ⟨v, rfl, hsplit⟩
      · rintro ⟨w, heq, hsplit⟩
        cases heq
        exact ⟨⟨rfl, hsplit⟩, rfl⟩
  | remove key =>
      refine iff_of_false (fun h => ?_) fun ⟨v, heq, _⟩ => ?_
      · cases h.2
      · cases heq

theorem last?_inForce : last? (inForce changes) key = (last? changes key).filter isWrite := by
  induction changes with
  | nil => rfl
  | cons change later ih =>
      rw [inForce, last?_cons]
      by_cases hkey : change.key = key
      · subst hkey
        cases hlast : last? later change.key with
        | some other =>
            rw [hlast] at ih
            simpa using ih
        | none =>
            rw [hlast] at ih
            cases hwrite : change.isWrite <;> simp [last?_cons, ih, hwrite, Option.filter]
      · split <;> simp [last?_cons, ih, hkey]

theorem left_append_inForce :
    left (changes ++ inForce later) key = (left later key).or (left changes key) := by
  simp only [left, last?_append, last?_inForce]
  cases last? later key with
  | none => rfl
  | some change => cases change <;> rfl

theorem left_concat (change : Change U) :
    left (changes ++ [change]) key =
      if key == change.key then change.value? else left changes key := by
  rw [left, last?_append, last?_cons, BEq.comm]
  cases key == change.key <;> rfl

end Change

end TypedRecords.Configuration
