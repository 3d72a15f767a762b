import TypedRecords.Calendar.Zone
import TypedRecords.Proofs.Calendar.Date

namespace TypedRecords

open DateTime (yearStart)

namespace YearlyChange

variable {c c' : YearlyChange}

/-- The change lies at least three days from the ends of every year. -/
def Inside (c : YearlyChange) : Prop :=
  ∀ year, yearStart year + 259200 ≤ c.inYear year ∧ c.inYear year + 259200 ≤ yearStart (year + 1)

/-- The change lies on one of the first three Sundays of a month from February to November. -/
def Usual (c : YearlyChange) : Prop :=
  (2 ≤ c.month ∧ c.month ≤ 11) ∧ (1 ≤ c.sunday ∧ c.sunday ≤ 3) ∧
    0 ≤ c.secondOfDay ∧ c.secondOfDay < 86400

instance (c : YearlyChange) : Decidable c.Usual :=
  inferInstanceAs (Decidable (_ ∧ _))

theorem Usual.inside (h : c.Usual) : c.Inside := by
  intro year
  obtain ⟨hmonth, hsunday, hsecond⟩ := h
  have hwithin := Date.nthSunday_within year hmonth.1 hmonth.2 hsunday.1
    (Nat.le_succ_of_le hsunday.2)
  unfold inYear yearStart
  omega

theorem Usual.inYear_add_lt (h : c.Usual) (h' : c'.Usual) (hlt : c.month < c'.month) (year : Int) :
    c.inYear year + 7200 < c'.inYear year := by
  obtain ⟨hmonth, hsunday, hsecond⟩ := h
  obtain ⟨hmonth', hsunday', hsecond'⟩ := h'
  have hapart := Date.nthSunday_add_le year (by omega) hlt (by omega) hsunday.2 hsunday'.1
  unfold inYear
  omega

end YearlyChange

namespace DaylightRule

variable {r : DaylightRule}

/-- Both changes lie well inside the year, more than two hours apart and in the order of the
hemisphere, and the offsets are less than a day. -/
structure Regular (r : DaylightRule) : Prop where
  standard_gt : -86400 < r.standard
  daylight_lt : r.standard + 3600 < 86400
  start_inside : r.start.Inside
  stop_inside : r.stop.Inside
  apart : ∀ year, if r.southern then r.stop.inYear year + 7200 < r.start.inYear year
    else r.start.inYear year + 7200 < r.stop.inYear year

/-- The clock skips a second of a year: it lies in the hour from the start of daylight saving. -/
def Skips (r : DaylightRule) (year s : Int) : Prop :=
  r.start.inYear year ≤ s ∧ s < r.start.inYear year + 3600

instance (r : DaylightRule) (year s : Int) : Decidable (r.Skips year s) :=
  inferInstanceAs (Decidable (_ ∧ _))

/-- The first second of the skipped hour, in the north. -/
def StartsNorth (r : DaylightRule) (year s : Int) : Prop :=
  r.southern = false ∧ s = r.start.inYear year

theorem regular_of_usual (hoffset : -86400 < r.standard ∧ r.standard + 3600 < 86400)
    (hstart : r.start.Usual) (hstop : r.stop.Usual)
    (horder : if r.southern then r.stop.month < r.start.month else r.start.month < r.stop.month) :
    r.Regular where
  standard_gt := hoffset.1
  daylight_lt := hoffset.2
  start_inside := hstart.inside
  stop_inside := hstop.inside
  apart year := by
    split at horder
    next hsouthern =>
      rw [if_pos hsouthern]
      exact hstop.inYear_add_lt hstart horder year
    next hnorthern =>
      rw [if_neg hnorthern]
      exact hstart.inYear_add_lt hstop horder year

theorem offsetAtInstant_eq_or (r : DaylightRule) (year s : Int) :
    r.offsetAtInstant year s = r.standard ∨ r.offsetAtInstant year s = r.standard + 3600 := by
  unfold offsetAtInstant daylight
  grind

theorem Regular.offsetAtLocal?_add (hr : r.Regular) (year s : Int) :
    r.offsetAtLocal? year (s + r.offsetAtInstant year s) =
      some (min (r.offsetAtInstant year s) (r.offsetAtInstant year (s + 3600))) := by
  have hapart := hr.apart year
  unfold offsetAtLocal? offsetAtInstant daylight
  grind

theorem Regular.not_skips_add (hr : r.Regular) (year s : Int) :
    ¬r.Skips year (s + r.offsetAtInstant year s) := by
  have hapart := hr.apart year
  unfold Skips offsetAtInstant daylight
  grind

/-- Within one year, an offset that is told for a second that is not skipped is in force. -/
theorem Regular.offsetAtInstant_sub (hr : r.Regular) {year s offset : Int}
    (h : r.offsetAtLocal? year s = some offset) (hskips : ¬r.Skips year s) :
    r.offsetAtInstant year (s - offset) = offset := by
  have hapart := hr.apart year
  unfold offsetAtLocal? daylight at h
  unfold Skips at hskips
  unfold offsetAtInstant daylight
  grind

theorem Regular.offsetAtLocal?_eq_none_iff (hr : r.Regular) (year s : Int) :
    r.offsetAtLocal? year s = none ↔ r.Skips year s ∧ ¬r.StartsNorth year s := by
  have hapart := hr.apart year
  unfold offsetAtLocal? Skips StartsNorth
  grind

theorem StartsNorth.skips {year s : Int} (h : r.StartsNorth year s) : r.Skips year s := by
  obtain ⟨-, rfl⟩ := h
  unfold Skips
  omega

theorem StartsNorth.offsetAtLocal? {year s : Int} (h : r.StartsNorth year s) :
    r.offsetAtLocal? year s = some r.standard := by
  obtain ⟨hnorth, rfl⟩ := h
  simp [DaylightRule.offsetAtLocal?, hnorth]

theorem offsetAtLocal?_eq_or {year s offset : Int} (h : r.offsetAtLocal? year s = some offset) :
    offset = r.standard ∨ offset = r.standard + 3600 := by
  unfold offsetAtLocal? daylight at h
  grind

/-- Up to two days from a year, it does not matter that an instant lies in another one. -/
theorem Regular.offsetAtInstant_near (hr : r.Regular) (dt : DateTime) (year : Int)
    (hle : yearStart year - 172800 ≤ dt.second) (hlt : dt.second < yearStart (year + 1) + 172800) :
    r.offsetAtInstant dt.date.year dt.second = r.offsetAtInstant year dt.second := by
  have hdt := dt.yearStart_le_and_lt
  have hgt := hr.standard_gt
  have hdaylight := hr.daylight_lt
  have hstart := hr.start_inside year
  have hstop := hr.stop_inside year
  have hstart' := hr.start_inside dt.date.year
  have hstop' := hr.stop_inside dt.date.year
  unfold offsetAtInstant daylight
  rcases Int.lt_trichotomy dt.date.year year with hyear | hyear | hyear
  · have hbefore := DateTime.yearStart_mono (Int.add_one_le_iff.mpr hyear)
    grind
  · rw [hyear]
  · have hbehind := DateTime.yearStart_mono (Int.add_one_le_iff.mpr hyear)
    grind

theorem Regular.offsetAtInstant_bounds (hr : r.Regular) (year s : Int) :
    -86400 < r.offsetAtInstant year s ∧ r.offsetAtInstant year s < 86400 := by
  have hgt := hr.standard_gt
  have hlt := hr.daylight_lt
  have h := offsetAtInstant_eq_or r year s
  omega

theorem Regular.offsetAtInstant_add_eq_iff (hr : r.Regular) (year s : Int) :
    r.offsetAtInstant year (s + 3600) = r.offsetAtInstant year s - 3600 ↔
      r.stop.inYear year - r.daylight - 3600 ≤ s ∧ s < r.stop.inYear year - r.daylight := by
  have hapart := hr.apart year
  unfold offsetAtInstant daylight
  grind

end DaylightRule

namespace Zone

def Skips : Zone → DateTime → Prop
  | .fixed _, _ => False
  | .seasonal r, dt => r.Skips dt.date.year dt.second

/-- Daylight saving starts with a date-time, in the north. -/
def StartsNorth : Zone → DateTime → Prop
  | .fixed _, _ => False
  | .seasonal r, dt => r.StartsNorth dt.date.year dt.second

theorem StartsNorth.skips {z : Zone} {dt : DateTime} (h : z.StartsNorth dt) : z.Skips dt := by
  cases z with
  | fixed offset => exact h
  | seasonal r => exact DaylightRule.StartsNorth.skips h

/-- The clock of the zone differs from universal time by less than a day, and it is changed by a
regular rule, if at all. -/
inductive Regular : Zone → Prop
  | fixed {offset : Int} (h : -86400 < offset ∧ offset < 86400) : Regular (.fixed offset)
  | seasonal {r : DaylightRule} (h : r.Regular) : Regular (.seasonal r)

theorem Regular.offsetAtLocal?_eq_none_iff {z : Zone} (hz : z.Regular) {dt : DateTime} :
    z.offsetAtLocal? dt = none ↔ z.Skips dt ∧ ¬z.StartsNorth dt := by
  cases hz with
  | fixed hbounds => simp [offsetAtLocal?, Skips]
  | seasonal hr => exact hr.offsetAtLocal?_eq_none_iff _ _

theorem Regular.offsetAtLocal?_bounds {z : Zone} (hz : z.Regular) {dt : DateTime} {offset : Int}
    (h : z.offsetAtLocal? dt = some offset) : -86400 < offset ∧ offset < 86400 := by
  cases hz with
  | fixed hbounds =>
      cases h
      exact hbounds
  | seasonal hr =>
      have hgt := hr.standard_gt
      have hlt := hr.daylight_lt
      have hoffset := DaylightRule.offsetAtLocal?_eq_or h
      omega

def named : List Zone :=
  [utc, india, easternAmerica, brazil]

theorem regular_of_mem_named {z : Zone} (h : z ∈ named) : z.Regular := by
  simp only [named, List.mem_cons, List.not_mem_nil, or_false] at h
  rcases h with rfl | rfl | rfl | rfl
  · exact .fixed (by decide)
  · exact .fixed (by decide)
  · exact .seasonal (DaylightRule.regular_of_usual (by decide) (by decide) (by decide) (by decide))
  · exact .seasonal (DaylightRule.regular_of_usual (by decide) (by decide) (by decide) (by decide))

end Zone

end TypedRecords
