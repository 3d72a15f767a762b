import Mathlib.Data.List.Forall2
import Mathlib.Logic.Relator

namespace TypedRecords

variable {α β : Type} {same : α → α → Prop} {xs : List α} {x y a : α}

/-- An element of a list, with nothing before it that is the same. -/
def FirstOf (same : α → α → Prop) (xs : List α) (x : α) : Prop :=
  ∃ before after, xs = before ++ x :: after ∧ ∀ y ∈ before, ¬same y x

theorem FirstOf.mem (h : FirstOf same xs x) : x ∈ xs := by
  obtain ⟨before, after, rfl, -⟩ := h
  simp

theorem not_firstOf_nil : ¬FirstOf same [] x :=
  fun h => List.not_mem_nil h.mem

theorem firstOf_cons :
    FirstOf same (a :: xs) x ↔ x = a ∨ ¬same a x ∧ FirstOf same xs x := by
  constructor
  · rintro ⟨before, after, hxs, hbefore⟩
    cases before with
    | nil =>
        cases hxs
        exact Or.inl rfl
    | cons b before =>
        cases hxs
        obtain ⟨ha, hbefore⟩ := List.forall_mem_cons.mp hbefore
        exact Or.inr ⟨ha, before, after, rfl, hbefore⟩
  · rintro (rfl | ⟨ha, before, after, rfl, hbefore⟩)
    · exact ⟨[], xs, rfl, List.forall_mem_nil _⟩
    · exact ⟨a :: before, after, rfl, List.forall_mem_cons.mpr ⟨ha, hbefore⟩⟩

theorem firstOf_concat :
    FirstOf same (xs ++ [a]) x ↔ FirstOf same xs x ∨ x = a ∧ ∀ y ∈ xs, ¬same y a := by
  induction xs with
  | nil => simp [firstOf_cons, not_firstOf_nil]
  | cons b xs ih =>
      rw [List.cons_append, firstOf_cons, firstOf_cons, ih, List.forall_mem_cons]
      constructor
      · rintro (rfl | ⟨hb, hfirst | ⟨rfl, hxs⟩⟩)
        · exact Or.inl (Or.inl rfl)
        · exact Or.inl (Or.inr ⟨hb, hfirst⟩)
        · exact Or.inr ⟨rfl, hb, hxs⟩
      · rintro ((rfl | ⟨hb, hfirst⟩) | ⟨rfl, hb, hxs⟩)
        · exact Or.inl rfl
        · exact Or.inr ⟨hb, Or.inl hfirst⟩
        · exact Or.inr ⟨hb, Or.inr ⟨rfl, hxs⟩⟩

theorem exists_firstOf (hrefl : ∀ x, same x x) (htrans : ∀ x y z, same x y → same y z → same x z)
    (hx : x ∈ xs) : ∃ y, FirstOf same xs y ∧ same y x := by
  induction xs with
  | nil => cases hx
  | cons a xs ih =>
      by_cases ha : same a x
      · exact ⟨a, firstOf_cons.mpr (Or.inl rfl), ha⟩
      · rcases List.mem_cons.mp hx with rfl | hx
        · exact absurd (hrefl x) ha
        · obtain ⟨y, hy, hyx⟩ := ih hx
          have hay : ¬same a y := fun h => ha (htrans a y x h hyx)
          exact ⟨y, firstOf_cons.mpr (Or.inr ⟨hay, hy⟩), hyx⟩

theorem FirstOf.eq_of_same (hsymm : ∀ x y, same x y → same y x) (hx : FirstOf same xs x)
    (hy : FirstOf same xs y) (h : same x y) : x = y := by
  induction xs with
  | nil => exact absurd hx not_firstOf_nil
  | cons a xs ih =>
      rcases firstOf_cons.mp hx with rfl | ⟨hax, hx⟩
      · rcases firstOf_cons.mp hy with rfl | ⟨hay, hy⟩
        · rfl
        · exact absurd h hay
      · rcases firstOf_cons.mp hy with rfl | ⟨hay, hy⟩
        · exact absurd (hsymm x y h) hax
        · exact ih hx hy

/-- No two different elements are the same if and only if each is the first of its kind. -/
theorem forall_firstOf_iff_mem (hsymm : ∀ x y, same x y → same y x) :
    (∀ x, FirstOf same xs x ↔ x ∈ xs) ↔ ∀ x ∈ xs, ∀ y ∈ xs, same x y → x = y := by
  constructor
  · intro h x hx y hy hxy
    exact ((h x).mpr hx).eq_of_same hsymm ((h y).mpr hy) hxy
  · refine fun h x => ⟨FirstOf.mem, fun hx => ?_⟩
    obtain ⟨before, after, rfl, hbefore⟩ := List.eq_append_cons_of_mem hx
    refine ⟨before, after, rfl, fun y hy hyx => hbefore ?_⟩
    rw [← h y (List.mem_append_left _ hy) x hx hyx]
    exact hy

theorem firstOf_iff_of_forall₂ {R : α → β → Prop} (hR : Relator.BiUnique R)
    {same' : β → β → Prop} (hsame : ∀ a b a' b', R a a' → R b b' → (same a b ↔ same' a' b'))
    {ys : List β} (hxs : xs.Forall₂ R ys) {y : β} (hxy : R x y) :
    FirstOf same xs x ↔ FirstOf same' ys y := by
  induction hxs with
  | nil => exact iff_of_false not_firstOf_nil not_firstOf_nil
  | @cons a b xs ys hab hrest ih =>
      have heq : x = a ↔ y = b := by
        constructor
        · rintro rfl
          exact hR.2 hxy hab
        · rintro rfl
          exact hR.1 hxy hab
      rw [firstOf_cons, firstOf_cons, heq, hsame a x b y hab hxy, ih]

end TypedRecords
