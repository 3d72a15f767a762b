import Mathlib.Algebra.Ring.Nat
import TypedRecords.Text.Digits

namespace TypedRecords.Text

theorem decimalValue_decimalDigits (n : Nat) : decimalValue (decimalDigits n) = n := by
  have hfold : decimalValue (decimalDigits n) = Nat.ofDigitChars 10 (decimalDigits n) 0 := by
    rw [decimalValue, Nat.ofDigitChars_eq_foldl]
    congr 1
    funext m c
    rw [Nat.mul_comm]
    rfl
  rw [hfold, decimalDigits, Nat.ofDigitChars_ten_toDigits]

theorem decimalDigits_ne_nil (n : Nat) : decimalDigits n ≠ [] :=
  Nat.toDigits_ne_nil

theorem isDigit_of_mem_decimalDigits {n : Nat} {d : Char} (h : d ∈ decimalDigits n) :
    d.isDigit = true :=
  Nat.isDigit_of_mem_toDigits (by decide) (Nat.le_refl 10) h

theorem eq_zero_of_head?_decimalDigits {n : Nat} (h : (decimalDigits n).head? = some '0') :
    n = 0 := by
  induction n using Nat.strongRecOn with
  | ind n ih =>
      rcases Nat.lt_or_ge n 10 with hsmall | hlarge
      · rw [decimalDigits, Nat.toDigits_of_lt_base hsmall, List.head?_cons, Option.some.injEq,
          Nat.digitChar_eq_zero] at h
        exact h
      · have hsplit := Nat.toDigits_of_base_le (by decide) hlarge
        cases hhigh : decimalDigits (n / 10) with
        | nil => exact absurd hhigh (decimalDigits_ne_nil _)
        | cons d ds =>
            have hzero : n / 10 = 0 := by
              refine ih (n / 10) (by omega) ?_
              rw [decimalDigits, hsplit, ← decimalDigits, hhigh] at h
              rw [hhigh]
              exact h
            omega

theorem hexNumber?_hexDigits {width n : Nat} (hwidth : 0 < width) (h : n < 16 ^ width) :
    hexNumber? (hexDigits width n) = some n := by
  have hfold : ∀ width n, n < 16 ^ width →
      (hexDigits width n).foldlM (fun m c => (hexValue? c).map (m * 16 + ·)) 0 = some n := by
    intro width
    induction width with
    | zero =>
        intro n hn
        rw [pow_zero, Nat.lt_one_iff] at hn
        rw [hexDigits, hn]
        rfl
    | succ width ih =>
        intro n hn
        have hhigh : n / 16 < 16 ^ width := by
          rw [pow_succ'] at hn
          exact Nat.div_lt_of_lt_mul hn
        have hlow : hexValue? (hexDigit (n % 16)) = some (n % 16) :=
          hexValue?_hexDigit (Nat.mod_lt n (by decide))
        simp only [hexDigits, List.foldlM_append, ih _ hhigh, List.foldlM_cons, List.foldlM_nil,
          hlow, Option.map_some, Option.bind_eq_bind, Option.bind_some, Option.pure_def,
          Option.some.injEq]
        omega
  have hne : (hexDigits width n).isEmpty = false := by
    rw [List.isEmpty_eq_false_iff, ← List.length_pos_iff, length_hexDigits]
    exact hwidth
  rw [hexNumber?, hne]
  exact hfold width n h

end TypedRecords.Text
