import Mathlib.Data.List.Forall2
import TypedRecords.Proofs.Collection.Table

namespace TypedRecords

theorem filter_eq_singleton {α : Type} {f : α → Bool} {xs : List α} {x : α}
    (hxs : xs.Pairwise fun a b => f a = true → f b = false) (hx : x ∈ xs) (hfx : f x = true) :
    xs.filter f = [x] := by
  induction xs with
  | nil => cases hx
  | cons a xs ih =>
      obtain ⟨hhead, htail⟩ := List.pairwise_cons.mp hxs
      rcases List.mem_cons.mp hx with rfl | hx
      · rw [List.filter_cons_of_pos hfx, List.filter_eq_nil_iff.mpr]
        intro b hb
        rw [hhead b hb hfx]
        exact Bool.false_ne_true
      · have hfa : ¬f a = true := fun hfa => by
          have hnot := hhead x hx hfa
          rw [hfx] at hnot
          cases hnot
        rw [List.filter_cons_of_neg hfa, ih htail hx]

namespace Table

variable {κ ν : Type} [BEq κ] {P : κ → Prop}

def Distinct (t : Table κ ν) : Prop :=
  t.entries.Pairwise fun a b => (a.1 == b.1) = false

theorem distinct_empty : Distinct ({} : Table κ ν) :=
  .nil

theorem pairwise_insertEntry (hP : EquivAmong P) {entries : List (κ × ν)}
    (hentries : ∀ entry ∈ entries, P entry.1) {k : κ} (hk : P k) (v : ν)
    (h : entries.Pairwise fun a b => (a.1 == b.1) = false) :
    (insertEntry k v entries).Pairwise fun a b => (a.1 == b.1) = false := by
  induction entries with
  | nil => exact List.pairwise_singleton _ _
  | cons first rest ih =>
      obtain ⟨k', v'⟩ := first
      obtain ⟨hfirst, hrest⟩ := List.pairwise_cons.mp h
      obtain ⟨hk', hkeys⟩ := List.forall_mem_cons.mp hentries
      rw [insertEntry]
      split
      · exact List.pairwise_cons.mpr ⟨hfirst, hrest⟩
      · rename_i hne
        refine List.pairwise_cons.mpr ⟨?_, ih hkeys hrest⟩
        intro entry hentry
        rcases mem_insertEntry hentry with heq | ⟨old, hold, heq⟩
        · rw [heq, hP.comm hk' hk]
          exact Bool.eq_false_iff.mpr hne
        · rw [← heq]
          exact hfirst old hold

theorem Distinct.update (hP : EquivAmong P) {t : Table κ ν} (ht : t.Distinct)
    (hkeys : t.KeysIn P) {k : κ} (hk : P k) (x : Option ν) : (t.update k x).Distinct := by
  cases x with
  | some v => exact pairwise_insertEntry hP hkeys hk v ht
  | none => exact ht.filter _

theorem exists_entry_of_get? {t : Table κ ν} {k : κ} {v : ν} (h : t.get? k = some v) :
    ∃ entry ∈ t.entries, (k == entry.1) = true ∧ entry.2 = v := by
  obtain ⟨entries⟩ := t
  simp only [get?] at h ⊢
  induction entries with
  | nil => cases h
  | cons first rest ih =>
      rw [List.lookup_cons] at h
      cases hk : k == first.1 with
      | true =>
          rw [hk] at h
          exact ⟨first, List.mem_cons_self, hk, Option.some.inj h⟩
      | false =>
          rw [hk] at h
          obtain ⟨entry, hentry, hfound⟩ := ih h
          exact ⟨entry, List.mem_cons_of_mem _ hentry, hfound⟩

theorem Distinct.get?_of_mem (hP : EquivAmong P) {t : Table κ ν} (ht : t.Distinct)
    (hkeys : t.KeysIn P) {entry : κ × ν} (hentry : entry ∈ t.entries) {k : κ} (hk : P k)
    (hequal : (k == entry.1) = true) : t.get? k = some entry.2 := by
  obtain ⟨entries⟩ := t
  simp only [get?]
  induction entries with
  | nil => cases hentry
  | cons first rest ih =>
      obtain ⟨hfirst, hrest⟩ := List.pairwise_cons.mp ht
      obtain ⟨hk', hkeys'⟩ := List.forall_mem_cons.mp hkeys
      rw [List.lookup_cons]
      rcases List.mem_cons.mp hentry with rfl | hentry
      · rw [hequal]
      · have hne : (k == first.1) = false := by
          rw [hP.congr_left hk (hkeys' entry hentry) hk' hequal,
            hP.comm (hkeys' entry hentry) hk']
          exact hfirst entry hentry
        rw [hne]
        exact ih hrest hkeys' hentry

theorem Distinct.filter_entries (hP : EquivAmong P) {t : Table κ ν} (ht : t.Distinct)
    (hkeys : t.KeysIn P) {entry : κ × ν} (hentry : entry ∈ t.entries) {k : κ} (hk : P k)
    (hequal : (k == entry.1) = true) : t.entries.filter (k == ·.1) = [entry] := by
  refine filter_eq_singleton (ht.imp_of_mem ?_) hentry hequal
  intro a b ha hb hne
  exact hP.apart (hkeys a ha) (hkeys b hb) hk hne

theorem Distinct.exists_listing (hP : EquivAmong P) {α : Type} {f : α → κ} {xs : List α}
    (hxs : ∀ x ∈ xs, P (f x)) (hdistinct : xs.Pairwise fun x y => (f x == f y) = false)
    {t : Table κ ν} (ht : t.Distinct) (hkeys : t.KeysIn P)
    (hall : ∀ entry ∈ t.entries, ∃ x ∈ xs, (f x == entry.1) = true) :
    ∃ listed : List (κ × ν), listed.Perm t.entries ∧
      List.Forall₂ (fun entry y => (f y.1 == entry.1) = true ∧ entry.2 = y.2) listed
        (xs.filterMap fun x => (t.get? (f x)).map (x, ·)) := by
  induction xs generalizing t with
  | nil =>
      have hnone : t.entries = [] := List.eq_nil_iff_forall_not_mem.mpr fun entry hentry => by
        obtain ⟨x, hx, -⟩ := hall entry hentry
        cases hx
      exact ⟨[], hnone ▸ .nil, .nil⟩
  | cons x xs ih =>
      obtain ⟨hx, hxs⟩ := List.forall_mem_cons.mp hxs
      obtain ⟨hfirst, hdistinct⟩ := List.pairwise_cons.mp hdistinct
      have hall' : ∀ entry ∈ (t.update (f x) none).entries, ∃ y ∈ xs, (f y == entry.1) = true := by
        intro entry hentry
        obtain ⟨hentry, hne⟩ := List.mem_filter.mp hentry
        obtain ⟨y, hy, hequal⟩ := hall entry hentry
        rcases List.mem_cons.mp hy with rfl | hy
        · rw [hequal] at hne
          cases hne
        · exact ⟨y, hy, hequal⟩
      obtain ⟨listed, hperm, hlisted⟩ :=
        ih hxs hdistinct (ht.update hP hkeys hx none) (hkeys.update hx none) hall'
      have hrest : (xs.filterMap fun y => ((t.update (f x) none).get? (f y)).map (y, ·)) =
          xs.filterMap fun y => (t.get? (f y)).map (y, ·) := by
        refine List.filterMap_congr fun y hy => ?_
        have hget := get?_update hP hkeys hx (hxs y hy) none
        rw [hP.comm (hxs y hy) hx, hfirst y hy, if_neg Bool.false_ne_true] at hget
        exact congrArg _ hget
      rw [hrest] at hlisted
      cases hget : t.get? (f x) with
      | none =>
          refine ⟨listed, ?_, by simpa [hget] using hlisted⟩
          have hsame : (t.update (f x) none).entries = t.entries := by
            refine List.filter_eq_self.mpr fun entry hentry => ?_
            cases hequal : f x == entry.1 with
            | false => rfl
            | true =>
                rw [ht.get?_of_mem hP hkeys hentry hx hequal] at hget
                cases hget
          rw [← hsame]
          exact hperm
      | some v =>
          obtain ⟨entry, hentry, hequal, rfl⟩ := exists_entry_of_get? hget
          refine ⟨entry :: listed, ?_, ?_⟩
          · have hsplit := List.filter_append_perm (f x == ·.1) t.entries
            rw [ht.filter_entries hP hkeys hentry hx hequal] at hsplit
            exact (hperm.cons entry).trans hsplit
          · rw [List.filterMap_cons, hget]
            exact .cons ⟨hequal, rfl⟩ hlisted

end Table

end TypedRecords
