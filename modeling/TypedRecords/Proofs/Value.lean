import TypedRecords.Value

namespace TypedRecords

/-- The equality of every kind is an equivalence, and equal values hash alike. -/
structure Universe.Lawful (U : Universe) : Prop where
  refl : ∀ k (x : U.El k), U.same k x x = true
  symm : ∀ k {x y : U.El k}, U.same k x y = true → U.same k y x = true
  trans : ∀ k {x y z : U.El k}, U.same k x y = true → U.same k y z = true → U.same k x z = true
  feed_eq : ∀ k {x y : U.El k}, U.same k x y = true → U.feed k x = U.feed k y

variable {U : Universe}

namespace Value

theorem same_mk {k : U.Kind} {x y : U.El k} : (mk k x).same (mk k y) = U.same k x y := by
  simp [same, as?]

theorem kind_eq_of_same {a b : Value U} (h : a.same b = true) : b.kind = a.kind := by
  by_cases hk : b.kind = a.kind
  · exact hk
  · rw [same, as?_eq_none hk] at h
    cases h

theorem same_refl (hU : U.Lawful) (a : Value U) : a.same a = true := by
  obtain ⟨k, x⟩ := a
  rw [same_mk]
  exact hU.refl k x

theorem same_symm (hU : U.Lawful) {a b : Value U} (h : a.same b = true) : b.same a = true := by
  have hk := kind_eq_of_same h
  obtain ⟨k, x⟩ := a
  obtain ⟨k', y⟩ := b
  subst hk
  rw [same_mk] at h ⊢
  exact hU.symm k' h

theorem same_trans (hU : U.Lawful) {a b c : Value U} (hab : a.same b = true)
    (hbc : b.same c = true) : a.same c = true := by
  have hk := kind_eq_of_same hab
  have hk' := kind_eq_of_same hbc
  obtain ⟨k, x⟩ := a
  obtain ⟨k', y⟩ := b
  obtain ⟨k'', z⟩ := c
  subst hk
  subst hk'
  rw [same_mk] at hab hbc ⊢
  exact hU.trans k'' hab hbc

theorem feed_eq_of_same (hU : U.Lawful) {a b : Value U} (h : a.same b = true) :
    a.feed = b.feed := by
  have hk := kind_eq_of_same h
  obtain ⟨k, x⟩ := a
  obtain ⟨k', y⟩ := b
  subst hk
  rw [same_mk] at h
  simp only [feed, hU.feed_eq k' h]

end Value

theorem sameOption_refl (hU : U.Lawful) (x : Option (Value U)) : sameOption x x = true := by
  cases x with
  | none => rfl
  | some v => exact v.same_refl hU

theorem sameOption_symm (hU : U.Lawful) {x y : Option (Value U)} (h : sameOption x y = true) :
    sameOption y x = true := by
  cases x <;> cases y
  · rfl
  · cases h
  · cases h
  · exact Value.same_symm hU h

theorem sameOption_trans (hU : U.Lawful) {x y z : Option (Value U)} (hxy : sameOption x y = true)
    (hyz : sameOption y z = true) : sameOption x z = true := by
  cases x with
  | none =>
      cases y with
      | none => exact hyz
      | some b => cases hxy
  | some a =>
      cases y with
      | none => cases hxy
      | some b =>
          cases z with
          | none => cases hyz
          | some c => exact Value.same_trans hU hxy hyz

end TypedRecords
