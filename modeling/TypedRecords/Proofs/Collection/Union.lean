import Mathlib.Data.List.Induction
import TypedRecords.Proofs.Collection.Table

namespace TypedRecords

variable {κ : Type} [BEq κ] {P : κ → Prop}

def appendNew (xs : List κ) (y : κ) : List κ :=
  if xs.any (· == y) then xs else xs ++ [y]

/-- The first list, and behind it the elements of the second that equal none of the first. -/
def orderedUnion (xs ys : List κ) : List κ :=
  xs ++ ys.filter fun y => !xs.any (· == y)

theorem orderedUnion_nil (xs : List κ) : orderedUnion xs [] = xs :=
  List.append_nil xs

theorem nil_orderedUnion (ys : List κ) : orderedUnion [] ys = ys := by
  simp [orderedUnion]

theorem orderedUnion_self (hP : EquivAmong P) {xs : List κ} (hxs : ∀ x ∈ xs, P x) :
    orderedUnion xs xs = xs := by
  have hnone : (xs.filter fun y => !xs.any (· == y)) = [] := by
    refine List.filter_eq_nil_iff.mpr fun x hx => ?_
    have hany : xs.any (· == x) = true := List.any_eq_true.mpr ⟨x, hx, hP.refl (hxs x hx)⟩
    simp [hany]
  rw [orderedUnion, hnone, List.append_nil]

theorem any_congr (hP : EquivAmong P) {xs : List κ} (hxs : ∀ x ∈ xs, P x) {y z : κ} (hy : P y)
    (hz : P z) (hyz : (y == z) = true) : xs.any (· == y) = xs.any (· == z) := by
  induction xs with
  | nil => rfl
  | cons x xs ih =>
      obtain ⟨hx, hxs⟩ := List.forall_mem_cons.mp hxs
      rw [List.any_cons, List.any_cons, hP.congr_right hy hz hx hyz, ih hxs]

theorem any_orderedUnion (hP : EquivAmong P) {xs ys : List κ} (hxs : ∀ x ∈ xs, P x)
    (hys : ∀ y ∈ ys, P y) {z : κ} (hz : P z) :
    (orderedUnion xs ys).any (· == z) = (xs.any (· == z) || ys.any (· == z)) := by
  rw [orderedUnion, List.any_append]
  cases hany : xs.any (· == z) with
  | true => rfl
  | false =>
      rw [Bool.false_or, Bool.false_or, Bool.eq_iff_iff, List.any_eq_true, List.any_eq_true]
      constructor
      · rintro ⟨y, hy, hyz⟩
        exact ⟨y, (List.mem_filter.mp hy).1, hyz⟩
      · rintro ⟨y, hy, hyz⟩
        refine ⟨y, List.mem_filter.mpr ⟨hy, ?_⟩, hyz⟩
        rw [any_congr hP hxs (hys y hy) hz hyz, hany]
        rfl

theorem orderedUnion_assoc (hP : EquivAmong P) {xs ys zs : List κ} (hxs : ∀ x ∈ xs, P x)
    (hys : ∀ y ∈ ys, P y) (hzs : ∀ z ∈ zs, P z) :
    orderedUnion (orderedUnion xs ys) zs = orderedUnion xs (orderedUnion ys zs) := by
  have hlast : (zs.filter fun z => !(orderedUnion xs ys).any (· == z)) =
      (zs.filter fun z => !ys.any (· == z)).filter fun z => !xs.any (· == z) := by
    rw [List.filter_filter]
    refine List.filter_congr fun z hz => ?_
    rw [any_orderedUnion hP hxs hys (hzs z hz), Bool.not_or]
  calc
    orderedUnion (orderedUnion xs ys) zs =
        (xs ++ ys.filter fun y => !xs.any (· == y)) ++
          zs.filter fun z => !(orderedUnion xs ys).any (· == z) := rfl
    _ = xs ++ ((ys.filter fun y => !xs.any (· == y)) ++
          (zs.filter fun z => !ys.any (· == z)).filter fun z => !xs.any (· == z)) := by
      rw [hlast, List.append_assoc]
    _ = orderedUnion xs (orderedUnion ys zs) := by
      rw [← List.filter_append]
      rfl

theorem appendNew_orderedUnion (hP : EquivAmong P) {xs ys : List κ} (hxs : ∀ x ∈ xs, P x)
    (hys : ∀ y ∈ ys, P y) {y : κ} (hy : P y) :
    appendNew (orderedUnion xs ys) y = orderedUnion xs (appendNew ys y) := by
  rw [appendNew, appendNew, any_orderedUnion hP hxs hys hy]
  cases hany : ys.any (· == y) with
  | true => simp
  | false =>
      rw [Bool.or_false, if_neg Bool.false_ne_true, orderedUnion, orderedUnion,
        List.filter_append, ← List.append_assoc]
      cases hany' : xs.any (· == y) with
      | true => simp only [↓reduceIte, List.filter_cons, hany', Bool.not_true, Bool.false_eq_true,
          List.filter_nil, List.append_nil]
      | false => simp only [↓reduceIte, List.filter_cons, hany', Bool.not_false, Bool.false_eq_true,
          List.filter_nil]

theorem mem_foldl_appendNew {xs ys : List κ} {z : κ} (h : z ∈ ys.foldl appendNew xs) :
    z ∈ xs ∨ z ∈ ys := by
  induction ys generalizing xs with
  | nil => exact Or.inl h
  | cons y ys ih =>
      rcases ih h with h | h
      · rw [appendNew] at h
        split at h
        · exact Or.inl h
        · rcases List.mem_append.mp h with h | h
          · exact Or.inl h
          · exact Or.inr (List.mem_singleton.mp h ▸ List.mem_cons_self)
      · exact Or.inr (List.mem_cons_of_mem y h)

theorem foldl_appendNew (hP : EquivAmong P) {xs ys : List κ} (hxs : ∀ x ∈ xs, P x)
    (hys : ∀ y ∈ ys, P y) : ys.foldl appendNew xs = orderedUnion xs (ys.foldl appendNew []) := by
  induction ys using List.reverseRecOn with
  | nil => exact (orderedUnion_nil xs).symm
  | append_singleton ys y ih =>
      obtain ⟨hys, hy⟩ := List.forall_mem_append.mp hys
      have hdone : ∀ z ∈ ys.foldl appendNew [], P z := fun z hz =>
        (mem_foldl_appendNew hz).elim (fun h => nomatch h) (hys z)
      rw [List.foldl_append, List.foldl_append, ih hys]
      exact appendNew_orderedUnion hP hxs hdone (hy y List.mem_cons_self)

theorem foldl_appendNew_nil {ys : List κ} (h : ys.Pairwise fun x y => (x == y) = false) :
    ys.foldl appendNew [] = ys := by
  induction ys using List.reverseRecOn with
  | nil => rfl
  | append_singleton ys y ih =>
      obtain ⟨hys, -, hlast⟩ := List.pairwise_append.mp h
      have hnew : ys.any (· == y) = false := List.any_eq_false.mpr fun x hx => by
        rw [hlast x hx y List.mem_cons_self]
        exact Bool.false_ne_true
      rw [List.foldl_append, ih hys, List.foldl_cons, List.foldl_nil, appendNew, hnew,
        if_neg Bool.false_ne_true]

theorem foldl_appendNew_of_pairwise (hP : EquivAmong P) {xs ys : List κ} (hxs : ∀ x ∈ xs, P x)
    (hys : ∀ y ∈ ys, P y) (h : ys.Pairwise fun x y => (x == y) = false) :
    ys.foldl appendNew xs = orderedUnion xs ys := by
  rw [foldl_appendNew hP hxs hys, foldl_appendNew_nil h]

end TypedRecords
