import TypedRecords.Proofs.Collection.Distinct
import TypedRecords.Proofs.Collection.Union

namespace TypedRecords

theorem EquivAmong.of_lawful {κ : Type} [BEq κ] [LawfulBEq κ] : EquivAmong fun _ : κ => True where
  refl _ := BEq.rfl
  symm _ _ := BEq.symm
  trans _ _ _ := BEq.trans

namespace Table

variable {κ ν : Type} [BEq κ] [LawfulBEq κ] {t u w : Table κ ν}

omit [BEq κ] [LawfulBEq κ] in
theorem keysIn_true (t : Table κ ν) : t.KeysIn fun _ => True :=
  fun _ _ => trivial

omit [LawfulBEq κ] in
theorem Distinct.keys (ht : t.Distinct) : t.keys.Pairwise fun a b => (a == b) = false :=
  List.pairwise_map.mpr ht

theorem Distinct.insert (ht : t.Distinct) (k : κ) (v : ν) : (t.insert k v).Distinct :=
  ht.update .of_lawful t.keysIn_true trivial (some v)

theorem get?_insert (t : Table κ ν) (a b : κ) (v : ν) :
    (t.insert a v).get? b = if b == a then some v else t.get? b :=
  get?_update .of_lawful t.keysIn_true trivial trivial (some v)

theorem keys_insert (t : Table κ ν) (k : κ) (v : ν) : (t.insert k v).keys = appendNew t.keys k := by
  have hentries : ∀ entries : List (κ × ν), (insertEntry k v entries).map Prod.fst =
      appendNew (entries.map Prod.fst) k := by
    intro entries
    induction entries with
    | nil => rfl
    | cons first rest ih =>
        obtain ⟨k', v'⟩ := first
        rw [insertEntry]
        by_cases hk : k = k'
        · simp [appendNew, hk]
        · have hk' : ¬k' = k := fun h => hk h.symm
          rw [appendNew] at ih ⊢
          simp only [beq_iff_eq, hk, if_false, List.map_cons, ih, List.any_cons, hk',
            Bool.or_eq_true, false_or]
          split <;> rfl
  exact hentries t.entries

omit [LawfulBEq κ] in
theorem insertAll_cons (t : Table κ ν) (k : κ) (v : ν) (entries : List (κ × ν)) :
    t.insertAll ⟨(k, v) :: entries⟩ = (t.insert k v).insertAll ⟨entries⟩ :=
  rfl

theorem keys_insertAll (t u : Table κ ν) :
    (t.insertAll u).keys = u.keys.foldl appendNew t.keys := by
  obtain ⟨entries⟩ := u
  induction entries generalizing t with
  | nil => rfl
  | cons first rest ih =>
      obtain ⟨k, v⟩ := first
      rw [insertAll_cons, ih, keys_insert]
      rfl

theorem keys_insertAll_eq_union (t : Table κ ν) (hu : u.Distinct) :
    (t.insertAll u).keys = orderedUnion t.keys u.keys := by
  rw [keys_insertAll]
  exact foldl_appendNew_of_pairwise .of_lawful (fun _ _ => trivial) (fun _ _ => trivial) hu.keys

theorem Distinct.insertAll (ht : t.Distinct) (u : Table κ ν) : (t.insertAll u).Distinct := by
  obtain ⟨entries⟩ := u
  induction entries generalizing t with
  | nil => exact ht
  | cons first rest ih => exact ih (ht.insert first.1 first.2)

theorem get?_insertAll (t : Table κ ν) (hu : u.Distinct) (k : κ) :
    (t.insertAll u).get? k = (u.get? k).or (t.get? k) := by
  obtain ⟨entries⟩ := u
  induction entries generalizing t with
  | nil => rfl
  | cons first rest ih =>
      obtain ⟨k', v⟩ := first
      obtain ⟨hfirst, hrest⟩ := List.pairwise_cons.mp hu
      have hget : (⟨(k', v) :: rest⟩ : Table κ ν).get? k =
          if k == k' then some v else (⟨rest⟩ : Table κ ν).get? k := by
        rw [get?, List.lookup_cons]
        cases k == k' <;> rfl
      rw [insertAll_cons, ih (t.insert k' v) hrest, get?_insert, hget]
      cases hk : k == k' with
      | false => rfl
      | true =>
          have hnone : (⟨rest⟩ : Table κ ν).get? k = none := by
            by_contra hsome
            obtain ⟨w, hw⟩ := Option.ne_none_iff_exists'.mp hsome
            obtain ⟨entry, hentry, hequal, -⟩ := exists_entry_of_get? hw
            have hne : (k' == entry.1) = false := hfirst entry hentry
            rw [← beq_iff_eq.mp hk, hequal] at hne
            cases hne
          rw [hnone]
          rfl

theorem Distinct.entries_eq (ht : t.Distinct) :
    t.entries = t.keys.filterMap fun k => (t.get? k).map (k, ·) := by
  have hget : ∀ entry ∈ t.entries, t.get? entry.1 = some entry.2 := fun entry hentry =>
    ht.get?_of_mem .of_lawful t.keysIn_true hentry trivial BEq.rfl
  rw [Table.keys, List.filterMap_map]
  calc
    t.entries = t.entries.filterMap some := List.filterMap_some.symm
    _ = t.entries.filterMap _ := List.filterMap_congr fun entry hentry => by
      rw [Function.comp_apply, hget entry hentry, Option.map_some]

theorem Distinct.ext (ht : t.Distinct) (hu : u.Distinct) (hkeys : t.keys = u.keys)
    (hget : ∀ k, t.get? k = u.get? k) : t = u := by
  have hentries : t.entries = u.entries := by
    rw [ht.entries_eq, hu.entries_eq, hkeys]
    simp only [hget]
  cases t
  cases u
  exact congrArg mk hentries

theorem Distinct.insertAll_assoc (ht : t.Distinct) (hu : u.Distinct) (hw : w.Distinct) :
    (t.insertAll u).insertAll w = t.insertAll (u.insertAll w) := by
  have huw := hu.insertAll w
  refine ((ht.insertAll u).insertAll w).ext (ht.insertAll _) ?_ fun k => ?_
  · rw [keys_insertAll_eq_union _ hw, keys_insertAll_eq_union _ hu, keys_insertAll_eq_union _ huw,
      keys_insertAll_eq_union _ hw]
    exact orderedUnion_assoc .of_lawful (fun _ _ => trivial) (fun _ _ => trivial)
      fun _ _ => trivial
  · rw [get?_insertAll _ hw, get?_insertAll _ hu, get?_insertAll _ huw, get?_insertAll _ hw,
      Option.or_assoc]

theorem Distinct.empty_insertAll (ht : t.Distinct) : ({} : Table κ ν).insertAll t = t := by
  refine (distinct_empty.insertAll t).ext ht ?_ fun k => ?_
  · rw [keys_insertAll_eq_union _ ht]
    exact nil_orderedUnion t.keys
  · rw [get?_insertAll _ ht]
    exact Option.or_none

theorem Distinct.insertAll_self (ht : t.Distinct) : t.insertAll t = t := by
  refine (ht.insertAll t).ext ht ?_ fun k => ?_
  · rw [keys_insertAll_eq_union _ ht]
    exact orderedUnion_self .of_lawful fun _ _ => trivial
  · rw [get?_insertAll _ ht, Option.or_self]

end Table

end TypedRecords
