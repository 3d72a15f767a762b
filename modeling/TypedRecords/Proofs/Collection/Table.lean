import TypedRecords.Collection.Table

/-!
The equality of keys has to be an equivalence only among the keys that occur, which a predicate
singles out.
-/

namespace TypedRecords

/-- The equality of keys is an equivalence among those that satisfy `P`. -/
structure EquivAmong {κ : Type} [BEq κ] (P : κ → Prop) : Prop where
  refl : ∀ {a : κ}, P a → (a == a) = true
  symm : ∀ {a b : κ}, P a → P b → (a == b) = true → (b == a) = true
  trans : ∀ {a b c : κ}, P a → P b → P c → (a == b) = true → (b == c) = true → (a == c) = true

namespace EquivAmong

variable {κ : Type} [BEq κ] {P : κ → Prop}

theorem comm (hP : EquivAmong P) {a b : κ} (ha : P a) (hb : P b) : (a == b) = (b == a) :=
  Bool.eq_iff_iff.mpr ⟨hP.symm ha hb, hP.symm hb ha⟩

theorem congr_left (hP : EquivAmong P) {a b c : κ} (ha : P a) (hb : P b) (hc : P c)
    (hab : (a == b) = true) : (a == c) = (b == c) := by
  apply Bool.eq_iff_iff.mpr
  constructor
  · intro hac
    exact hP.trans hb ha hc (hP.symm ha hb hab) hac
  · intro hbc
    exact hP.trans ha hb hc hab hbc

theorem congr_right (hP : EquivAmong P) {a b c : κ} (ha : P a) (hb : P b) (hc : P c)
    (hab : (a == b) = true) : (c == a) = (c == b) := by
  rw [hP.comm hc ha, hP.comm hc hb]
  exact hP.congr_left ha hb hc hab

theorem apart (hP : EquivAmong P) {a b c : κ} (ha : P a) (hb : P b) (hc : P c)
    (hab : (a == b) = false) (hca : (c == a) = true) : (c == b) = false := by
  rw [hP.congr_left hc ha hb hca, hab]

end EquivAmong

namespace Table

variable {κ ν : Type} [BEq κ] {P : κ → Prop}

def KeysIn (P : κ → Prop) (t : Table κ ν) : Prop :=
  ∀ entry ∈ t.entries, P entry.1

def update (t : Table κ ν) (k : κ) : Option ν → Table κ ν
  | some v => t.insert k v
  | none => t.erase k

omit [BEq κ] in
theorem keysIn_empty : KeysIn P ({} : Table κ ν) := by
  intro entry hentry
  cases hentry

theorem mem_insertEntry {k : κ} {v : ν} {entries : List (κ × ν)} {entry : κ × ν}
    (h : entry ∈ insertEntry k v entries) :
    entry.1 = k ∨ ∃ old ∈ entries, old.1 = entry.1 := by
  induction entries with
  | nil =>
      left
      rw [insertEntry, List.mem_singleton] at h
      rw [h]
  | cons first rest ih =>
      obtain ⟨k', v'⟩ := first
      rw [insertEntry] at h
      split at h
      · right
        rcases List.mem_cons.mp h with rfl | hrest
        · exact ⟨(k', v'), List.mem_cons_self, rfl⟩
        · exact ⟨entry, List.mem_cons_of_mem _ hrest, rfl⟩
      · rcases List.mem_cons.mp h with rfl | hrest
        · exact Or.inr ⟨(k', v'), List.mem_cons_self, rfl⟩
        · rcases ih hrest with hk | ⟨old, hold, heq⟩
          · exact Or.inl hk
          · exact Or.inr ⟨old, List.mem_cons_of_mem _ hold, heq⟩

theorem KeysIn.update {t : Table κ ν} (ht : t.KeysIn P) {k : κ} (hk : P k) (x : Option ν) :
    (t.update k x).KeysIn P := by
  intro entry hentry
  cases x with
  | some v =>
      rcases mem_insertEntry hentry with heq | ⟨old, hold, heq⟩
      · exact heq ▸ hk
      · exact heq ▸ ht old hold
  | none => exact ht entry (List.mem_filter.mp hentry).1

theorem get?_congr (hP : EquivAmong P) {t : Table κ ν} (ht : t.KeysIn P) {a b : κ} (ha : P a)
    (hb : P b) (hab : (a == b) = true) : t.get? a = t.get? b := by
  obtain ⟨entries⟩ := t
  simp only [get?]
  induction entries with
  | nil => rfl
  | cons first rest ih =>
      have hfirst : P first.1 := ht first List.mem_cons_self
      have hrest := ih fun entry hentry => ht entry (List.mem_cons_of_mem _ hentry)
      rw [List.lookup_cons, List.lookup_cons, hP.congr_left ha hb hfirst hab, hrest]

theorem lookup_insertEntry (hP : EquivAmong P) {entries : List (κ × ν)}
    (hentries : ∀ entry ∈ entries, P entry.1) {a b : κ} (ha : P a) (hb : P b) (v : ν) :
    (insertEntry a v entries).lookup b = if b == a then some v else entries.lookup b := by
  induction entries with
  | nil =>
      rw [insertEntry, List.lookup_cons]
      cases b == a <;> rfl
  | cons first rest ih =>
      obtain ⟨k', v'⟩ := first
      have hk' : P k' := hentries (k', v') List.mem_cons_self
      have hrest := ih fun entry hentry => hentries entry (List.mem_cons_of_mem _ hentry)
      rw [insertEntry]
      split
      · rename_i hak
        rw [List.lookup_cons, List.lookup_cons, hP.congr_right ha hk' hb hak]
        cases b == k' <;> rfl
      · rename_i hak
        rw [List.lookup_cons, List.lookup_cons, hrest]
        cases hbk : b == k' with
        | false => rfl
        | true =>
            have hba : (b == a) = false := by
              rw [hP.congr_left hb hk' ha hbk, hP.comm hk' ha]
              simpa using hak
            simp [hba]

theorem lookup_eraseEntries (hP : EquivAmong P) {entries : List (κ × ν)}
    (hentries : ∀ entry ∈ entries, P entry.1) {a b : κ} (ha : P a) (hb : P b) :
    (entries.filter fun entry => !(a == entry.1)).lookup b =
      if b == a then none else entries.lookup b := by
  induction entries with
  | nil => simp
  | cons first rest ih =>
      obtain ⟨k', v'⟩ := first
      have hk' : P k' := hentries (k', v') List.mem_cons_self
      have hrest := ih fun entry hentry => hentries entry (List.mem_cons_of_mem _ hentry)
      rw [List.filter_cons]
      cases hak : a == k' with
      | true =>
          rw [List.lookup_cons, ← hP.congr_right ha hk' hb hak]
          simp only [Bool.not_true, Bool.false_eq_true, ↓reduceIte, hrest]
          cases b == a <;> rfl
      | false =>
          simp only [Bool.not_false, ↓reduceIte, List.lookup_cons, hrest]
          cases hbk : b == k' with
          | false => rfl
          | true =>
              have hba : (b == a) = false := by
                rw [hP.congr_left hb hk' ha hbk, hP.comm hk' ha]
                exact hak
              simp [hba]

theorem get?_update (hP : EquivAmong P) {t : Table κ ν} (ht : t.KeysIn P) {a b : κ} (ha : P a)
    (hb : P b) (x : Option ν) :
    (t.update a x).get? b = if b == a then x else t.get? b := by
  cases x with
  | some v => exact lookup_insertEntry hP ht ha hb v
  | none => exact lookup_eraseEntries hP ht ha hb

end Table

end TypedRecords
