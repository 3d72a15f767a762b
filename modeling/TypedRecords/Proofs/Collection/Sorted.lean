import Mathlib.Data.List.Induction
import Mathlib.Data.List.Pairwise
import Mathlib.Data.List.Sort
import TypedRecords.Collection.Sorted
import TypedRecords.Proofs.Collection.First

namespace TypedRecords

variable {α β : Type} [Ord β] {key : α → β}

/-- The order does not tell two values apart. -/
abbrev Tied (x y : β) : Prop :=
  compare x y = .eq

section

variable [Std.TransOrd β]

theorem Tied.refl (x : β) : Tied x x :=
  Std.ReflCmp.compare_self

theorem Tied.symm (x y : β) (h : Tied x y) : Tied y x :=
  Std.OrientedCmp.eq_symm h

theorem Tied.trans (x y z : β) (hxy : Tied x y) (hyz : Tied y z) : Tied x z :=
  Std.TransCmp.eq_trans hxy hyz

theorem Increasing.eq_of_mem_iff {xs ys : List α} (hxs : Increasing key xs)
    (hys : Increasing key ys) (h : ∀ a, a ∈ xs ↔ a ∈ ys) : xs = ys := by
  have hirrefl : Std.Irrefl fun a b : α => compare (key a) (key b) = .lt :=
    ⟨fun a ha => by simp at ha⟩
  have hantisymm : Std.Antisymm fun a b : α => compare (key a) (key b) = .lt := by
    refine ⟨fun a b hab hba => ?_⟩
    have hself : compare (key a) (key a) = .lt := Std.TransCmp.lt_trans hab hba
    simp at hself
  exact List.Pairwise.eq_of_mem_iff hxs hys h

theorem Increasing.eq_of_tied {xs : List α} (h : Increasing key xs) {a b : α} (ha : a ∈ xs)
    (hb : b ∈ xs) (hab : Tied (key a) (key b)) : a = b := by
  have hsymm : Std.Symm fun a b : α => ¬Tied (key a) (key b) :=
    ⟨fun a b => mt (Tied.symm (key b) (key a))⟩
  have hapart : xs.Pairwise fun a b => ¬Tied (key a) (key b) := by
    refine h.imp fun hlt htied => ?_
    rw [htied] at hlt
    cases hlt
  by_contra hne
  exact hapart.forall ha hb hne hab

theorem insertByKey_of_last [Merging key] {a : α} {xs : List α}
    (h : ∀ b ∈ xs, compare (key b) (key a) = .lt) : insertByKey key a xs = xs ++ [a] := by
  induction xs with
  | nil => rfl
  | cons b xs ih =>
      obtain ⟨hb, hxs⟩ := List.forall_mem_cons.mp h
      have hgt : compare (key a) (key b) = .gt := Std.OrientedCmp.gt_iff_lt.mpr hb
      rw [insertByKey, hgt]
      exact congrArg (b :: ·) (ih hxs)

namespace SortedBy

theorem ext_mem {s t : SortedBy key} (h : ∀ a, a ∈ s.toList ↔ a ∈ t.toList) : s = t :=
  ext (s.increasing.eq_of_mem_iff t.increasing h)

variable [Merging key]

theorem insertAll_cons (s : SortedBy key) (x : α) (xs : List α) :
    s.insertAll (x :: xs) = (s.insert x).insertAll xs :=
  rfl

theorem insertAll_concat (s : SortedBy key) (xs : List α) (x : α) :
    s.insertAll (xs ++ [x]) = (s.insertAll xs).insert x := by
  rw [insertAll, List.foldl_append]
  rfl

theorem toList_insertAll {s : SortedBy key} {xs : List α} (h : Increasing key (s.toList ++ xs)) :
    (s.insertAll xs).toList = s.toList ++ xs := by
  induction xs generalizing s with
  | nil => exact (List.append_nil _).symm
  | cons x xs ih =>
      have hlast : (s.insert x).toList = s.toList ++ [x] :=
        insertByKey_of_last fun b hb => (List.pairwise_append.mp h).2.2 b hb x List.mem_cons_self
      rw [insertAll_cons, ih, hlast, List.append_assoc, List.singleton_append]
      rw [hlast, List.append_assoc]
      exact h

theorem ofList_toList (s : SortedBy key) : ofList s.toList = s :=
  ext (toList_insertAll s.increasing)

end SortedBy

namespace SortedSet

variable {s : SortedSet β} {x : β}

theorem mem_insertByKey_iff {a : β} {xs : List β} (h : Increasing (fun b : β => b) xs) :
    x ∈ insertByKey (fun b : β => b) a xs ↔ x ∈ xs ∨ x = a ∧ ∀ y ∈ xs, ¬Tied y a := by
  induction xs with
  | nil => simp [insertByKey]
  | cons b xs ih =>
      obtain ⟨hb, hxs⟩ := List.pairwise_cons.mp h
      unfold insertByKey
      split
      next hlt =>
        have hnone : ∀ y ∈ b :: xs, ¬Tied y a := by
          intro y hy htied
          have hay : compare a y = .lt := by
            rcases List.mem_cons.mp hy with rfl | hy
            · exact hlt
            · exact Std.TransCmp.lt_trans hlt (hb y hy)
          simp [Tied.symm y a htied] at hay
        rw [List.mem_cons, or_comm, and_iff_left hnone]
      next heq =>
        have hsome : ¬∀ y ∈ b :: xs, ¬Tied y a :=
          fun hnone => hnone b List.mem_cons_self (Tied.symm a b heq)
        exact (or_iff_left fun hx => hsome hx.2).symm
      next hgt =>
        have hba : ¬Tied b a := by
          intro htied
          rw [Tied.symm b a htied] at hgt
          cases hgt
        rw [List.mem_cons, ih hxs, List.mem_cons, List.forall_mem_cons, and_iff_right hba, or_assoc]

/-- Of the elements put into a set that its order does not tell apart, the first stays. -/
theorem mem_insertAll {xs : List β} :
    x ∈ (s.insertAll xs).toList ↔ FirstOf Tied (s.toList ++ xs) x := by
  induction xs using List.reverseRecOn generalizing x with
  | nil =>
      have hfirst : ∀ y, FirstOf Tied s.toList y ↔ y ∈ s.toList :=
        (forall_firstOf_iff_mem Tied.symm).mpr fun a ha b hb => s.increasing.eq_of_tied ha hb
      rw [List.append_nil]
      exact (hfirst x).symm
  | append_singleton xs a ih =>
      have hnone : (∀ y ∈ (s.insertAll xs).toList, ¬Tied y a) ↔
          ∀ y ∈ s.toList ++ xs, ¬Tied y a := by
        constructor
        · intro h y hy hya
          obtain ⟨z, hz, hzy⟩ := exists_firstOf Tied.refl Tied.trans hy
          exact h z (ih.mpr hz) (Tied.trans z y a hzy hya)
        · intro h y hy
          exact h y (ih.mp hy).mem
      rw [SortedBy.insertAll_concat, SortedBy.insert,
        mem_insertByKey_iff (s.insertAll xs).increasing, ih, hnone, ← List.append_assoc,
        firstOf_concat]

end SortedSet

end

end TypedRecords
