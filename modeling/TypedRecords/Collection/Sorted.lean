/-!
A sorted set keeps the element that is there when an equal one is put in; a sorted map keeps the
key and takes the new value.
-/

namespace TypedRecords

variable {α β : Type}

/-- Whether the keys of a list increase from each element to every later one. -/
def Increasing [Ord β] (key : α → β) (xs : List α) : Prop :=
  xs.Pairwise fun a b => compare (key a) (key b) = .lt

/-- What becomes of an element when one with an equal key is added; its key stays. -/
class Merging (key : α → β) where
  merge (present added : α) : α
  key_merge (present added : α) : key (merge present added) = key present

instance : Merging fun a : α => a where
  merge present _ := present
  key_merge _ _ := rfl

instance {κ ν : Type} : Merging fun entry : κ × ν => entry.1 where
  merge present added := (present.1, added.2)
  key_merge _ _ := rfl

/-- The list with `a` put at its place, or merged into the element with an equal key. -/
def insertByKey [Ord β] (key : α → β) [Merging key] (a : α) : List α → List α
  | [] => [a]
  | b :: rest =>
    match compare (key a) (key b) with
    | .lt => a :: b :: rest
    | .eq => Merging.merge key b a :: rest
    | .gt => b :: insertByKey key a rest

section

variable [Ord β] {key : α → β} [Merging key]

theorem exists_key_of_mem_insertByKey {a x : α} {xs : List α} (h : x ∈ insertByKey key a xs) :
    ∃ y ∈ a :: xs, key x = key y := by
  induction xs with
  | nil => exact ⟨x, h, rfl⟩
  | cons b rest ih =>
    unfold insertByKey at h
    split at h
    · exact ⟨x, h, rfl⟩
    · rcases List.mem_cons.1 h with rfl | hx
      · exact ⟨b, by simp, Merging.key_merge b a⟩
      · exact ⟨x, by simp [hx], rfl⟩
    · rcases List.mem_cons.1 h with rfl | hx
      · exact ⟨x, by simp, rfl⟩
      · obtain ⟨y, hy, hkey⟩ := ih hx
        refine ⟨y, ?_, hkey⟩
        rcases List.mem_cons.1 hy with rfl | hy
        · exact List.mem_cons_self
        · exact List.mem_cons_of_mem _ (List.mem_cons_of_mem _ hy)

theorem Increasing.insertByKey [Std.TransOrd β] (a : α) {xs : List α} (h : Increasing key xs) :
    Increasing key (insertByKey key a xs) := by
  induction xs with
  | nil => exact List.pairwise_singleton _ _
  | cons b rest ih =>
    obtain ⟨hb, hrest⟩ := List.pairwise_cons.1 h
    unfold TypedRecords.insertByKey
    split
    next hlt =>
      refine List.pairwise_cons.2 ⟨fun x hx => ?_, h⟩
      rcases List.mem_cons.1 hx with rfl | hx
      · exact hlt
      · exact Std.TransCmp.lt_trans hlt (hb x hx)
    next heq =>
      refine List.pairwise_cons.2 ⟨fun x hx => ?_, hrest⟩
      have hkey : key (Merging.merge key b a) = key b := Merging.key_merge b a
      rw [hkey]
      exact hb x hx
    next hgt =>
      refine List.pairwise_cons.2 ⟨fun x hx => ?_, ih hrest⟩
      obtain ⟨y, hy, hkey⟩ := exists_key_of_mem_insertByKey hx
      rw [hkey]
      rcases List.mem_cons.1 hy with rfl | hy
      · exact Std.OrientedCmp.gt_iff_lt.1 hgt
      · exact hb y hy

end

structure SortedBy [Ord β] (key : α → β) where
  toList : List α
  increasing : Increasing key toList

namespace SortedBy

variable [Ord β] {key : α → β}

instance [DecidableEq α] : DecidableEq (SortedBy key) :=
  fun a b =>
    if h : a.toList = b.toList then
      isTrue (by cases a; cases b; simp_all)
    else isFalse (fun e => h (congrArg toList e))

def empty : SortedBy key :=
  ⟨[], List.Pairwise.nil⟩

variable [Merging key] [Std.TransOrd β]

def insert (s : SortedBy key) (a : α) : SortedBy key :=
  ⟨insertByKey key a s.toList, s.increasing.insertByKey a⟩

def insertAll (s : SortedBy key) (xs : List α) : SortedBy key :=
  xs.foldl insert s

def ofList (xs : List α) : SortedBy key :=
  empty.insertAll xs

omit [Merging key] [Std.TransOrd β] in
theorem ext {a b : SortedBy key} (h : a.toList = b.toList) : a = b := by
  cases a
  cases b
  simp_all

end SortedBy

abbrev SortedSet (α : Type) [Ord α] : Type :=
  SortedBy fun a : α => a

abbrev SortedMap (κ ν : Type) [Ord κ] : Type :=
  SortedBy fun entry : κ × ν => entry.1

end TypedRecords
