import Mathlib.Data.Nat.Init
import TypedRecords.Calendar.DateTime

namespace TypedRecords

namespace Date

theorem startOfYear_add_le (y : Int) : startOfYear y + 365 ≤ startOfYear (y + 1) := by
  unfold startOfYear
  omega

theorem startOfYear_mono {y y' : Int} (h : y ≤ y') : startOfYear y ≤ startOfYear y' := by
  unfold startOfYear
  omega

theorem lt_of_startOfYear_lt {y y' : Int} (h : startOfYear y < startOfYear y') : y < y' := by
  apply Int.lt_of_not_ge
  intro hge
  have hle := startOfYear_mono hge
  omega

theorem startOfYear_near_average (y : Int) :
    146097 * (y - 1970) - 800 < 400 * startOfYear y ∧
      400 * startOfYear y < 146097 * (y - 1970) + 800 := by
  unfold startOfYear
  omega

theorem yearEstimate_near (n : Int) :
    146097 * (yearEstimate n - 1970) ≤ n * 400 ∧ n * 400 < 146097 * (yearEstimate n - 1969) := by
  unfold yearEstimate
  omega

theorem startOfYear_le_and_lt (d : Date) :
    startOfYear d.year ≤ d.dayNumber ∧ d.dayNumber < startOfYear (d.year + 1) := by
  -- the estimate is wrong by at most one, as the years next to it but one are too far away
  have hestimate := yearEstimate_near d.dayNumber
  have hbefore := startOfYear_near_average (yearEstimate d.dayNumber - 1)
  have hbehind := startOfYear_near_average (yearEstimate d.dayNumber + 1 + 1)
  rw [year]
  split
  · rw [Int.sub_add_cancel]
    omega
  · split <;> omega

theorem year_eq_iff {d : Date} {y : Int} :
    d.year = y ↔ startOfYear y ≤ d.dayNumber ∧ d.dayNumber < startOfYear (y + 1) := by
  constructor
  · rintro rfl
    exact d.startOfYear_le_and_lt
  · rintro ⟨hle, hlt⟩
    have hd := d.startOfYear_le_and_lt
    have h₁ := lt_of_startOfYear_lt (Int.lt_of_le_of_lt hle hd.2)
    have h₂ := lt_of_startOfYear_lt (Int.lt_of_le_of_lt hd.1 hlt)
    omega

theorem daysBefore_succ (y : Int) {m : Nat} (hm : m - 1 < (monthLengths y).length) (hpos : 1 ≤ m) :
    daysBefore y (m + 1) = daysBefore y m + (monthLengths y)[m - 1] := by
  obtain ⟨k, rfl⟩ := Nat.exists_eq_add_of_le' hpos
  simp only [Nat.add_sub_cancel] at hm
  simp only [daysBefore, Nat.add_sub_cancel, List.take_succ_eq_append_getElem hm,
    List.foldl_append, List.foldl_cons, List.foldl_nil]

theorem le_of_mem_monthLengths {y : Int} {n : Nat} (h : n ∈ monthLengths y) : 28 ≤ n ∧ n ≤ 31 := by
  unfold monthLengths at h
  split at h <;> simp only [List.mem_cons, List.not_mem_nil, or_false] at h <;> omega

theorem daysBefore_add_le (y : Int) {m m' : Nat} (hm : 1 ≤ m) (hlt : m < m') (hm' : m' ≤ 12) :
    daysBefore y m + 28 ≤ daysBefore y m' := by
  induction m', hlt using Nat.le_induction with
  | base =>
      have hlength : m - 1 < (monthLengths y).length := by
        rw [show (monthLengths y).length = 12 from rfl]
        omega
      rw [daysBefore_succ y hlength hm]
      exact Nat.add_le_add_left (le_of_mem_monthLengths (List.getElem_mem hlength)).1 _
  | succ n hn ih =>
      have hlength : n - 1 < (monthLengths y).length := by
        rw [show (monthLengths y).length = 12 from rfl]
        omega
      rw [daysBefore_succ y hlength (by omega)]
      have h := ih (by omega)
      omega

theorem daysBefore_last (y : Int) : daysBefore y 12 ≤ 335 := by
  unfold daysBefore monthLengths
  split <;> decide

theorem nthSunday_bounds (y : Int) (m n : Nat) :
    startOfMonth y m + 7 * (n - 1) ≤ nthSunday y m n ∧
      nthSunday y m n ≤ startOfMonth y m + 7 * (n - 1) + 6 := by
  simp only [nthSunday]
  omega

theorem nthSunday_add_le (y : Int) {m m' n n' : Nat} (hm : 1 ≤ m) (hlt : m < m') (hm' : m' ≤ 12)
    (hn : n ≤ 3) (hn' : 1 ≤ n') : nthSunday y m n + 8 ≤ nthSunday y m' n' := by
  have h := nthSunday_bounds y m n
  have h' := nthSunday_bounds y m' n'
  have hdays := daysBefore_add_le y hm hlt hm'
  unfold startOfMonth at h h'
  omega

theorem nthSunday_within (y : Int) {m n : Nat} (hm : 2 ≤ m) (hm' : m ≤ 11) (hn : 1 ≤ n)
    (hn' : n ≤ 4) :
    startOfYear y + 28 ≤ nthSunday y m n ∧ nthSunday y m n + 30 ≤ startOfYear (y + 1) := by
  have h := nthSunday_bounds y m n
  have hstart := daysBefore_add_le y (m := 1) (Nat.le_refl 1) (by omega : 1 < m) (by omega)
  have hstop := daysBefore_add_le y (by omega) (by omega : m < 12) (Nat.le_refl 12)
  have hlast := daysBefore_last y
  have hnext := startOfYear_add_le y
  unfold startOfMonth at h
  omega

end Date

namespace DateTime

def yearStart (year : Int) : Int :=
  Date.startOfYear year * 86400

theorem year_eq_iff {dt : DateTime} {y : Int} :
    dt.date.year = y ↔ yearStart y ≤ dt.second ∧ dt.second < yearStart (y + 1) := by
  rw [Date.year_eq_iff]
  simp only [date, yearStart]
  omega

theorem yearStart_le_and_lt (dt : DateTime) :
    yearStart dt.date.year ≤ dt.second ∧ dt.second < yearStart (dt.date.year + 1) :=
  year_eq_iff.mp rfl

theorem yearStart_mono {y y' : Int} (h : y ≤ y') : yearStart y ≤ yearStart y' :=
  Int.mul_le_mul_of_nonneg_right (Date.startOfYear_mono h) (by decide)

end DateTime

end TypedRecords
