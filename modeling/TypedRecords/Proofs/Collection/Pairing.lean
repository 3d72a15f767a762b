import Mathlib.Data.List.Forall2

namespace TypedRecords

variable {α β γ : Type} {R : α → β → Prop} {xs : List α} {ys : List β}

theorem exists_forall₂ (h : ∀ x ∈ xs, ∃ y, R x y) : ∃ ys, List.Forall₂ R xs ys := by
  induction xs with
  | nil => exact ⟨[], .nil⟩
  | cons x xs ih =>
      obtain ⟨⟨y, hy⟩, hothers⟩ := List.forall_mem_cons.mp h
      obtain ⟨ys, hys⟩ := ih hothers
      exact ⟨y :: ys, .cons hy hys⟩

theorem exists_of_forall₂ (h : List.Forall₂ R xs ys) {x : α} (hx : x ∈ xs) :
    ∃ y ∈ ys, R x y := by
  induction h with
  | nil => cases hx
  | @cons x' y xs ys hxy hrest ih =>
      rcases List.mem_cons.mp hx with rfl | hx
      · exact ⟨y, List.mem_cons_self, hxy⟩
      · obtain ⟨y', hy', hxy'⟩ := ih hx
        exact ⟨y', List.mem_cons_of_mem _ hy', hxy'⟩

theorem pairwise_of_forall₂ {P : β → β → Prop} (h : List.Forall₂ R xs ys) (hys : ys.Pairwise P) :
    xs.Pairwise fun a b => ∃ y z, R a y ∧ R b z ∧ P y z := by
  induction h with
  | nil => exact List.Pairwise.nil
  | @cons x y xs ys hxy hrest ih =>
      obtain ⟨hy, hys⟩ := List.pairwise_cons.mp hys
      refine List.pairwise_cons.mpr ⟨fun b hb => ?_, ih hys⟩
      obtain ⟨z, hz, hbz⟩ := exists_of_forall₂ hrest hb
      exact ⟨y, z, hxy, hbz, hy z hz⟩

theorem flatMap_eq_of_forall₂ {f : α → List γ} {g : β → List γ} (h : List.Forall₂ R xs ys)
    (hfg : ∀ x ∈ xs, ∀ y ∈ ys, R x y → f x = g y) : xs.flatMap f = ys.flatMap g := by
  induction h with
  | nil => rfl
  | @cons x y xs ys hxy hrest ih =>
      have hhead : f x = g y := hfg x List.mem_cons_self y List.mem_cons_self hxy
      have htail : xs.flatMap f = ys.flatMap g := ih fun x' hx' y' hy' =>
        hfg x' (List.mem_cons_of_mem _ hx') y' (List.mem_cons_of_mem _ hy')
      rw [List.flatMap_cons, List.flatMap_cons, hhead, htail]

end TypedRecords
