import Mathlib.Order.MinMax
import TypedRecords.Calendar.Timestamp
import TypedRecords.Proofs.Calendar.Zone

namespace TypedRecords

open DateTime (yearStart)

namespace DateTime

@[simp]
theorem addSeconds_addSeconds (dt : DateTime) (m n : Int) :
    (dt.addSeconds m).addSeconds n = dt.addSeconds (m + n) := by
  simp [addSeconds, Int.add_assoc]

@[simp]
theorem addSeconds_zero (dt : DateTime) : dt.addSeconds 0 = dt := by
  simp [addSeconds]

theorem isRepresentable_iff {dt : DateTime} :
    dt.isRepresentable = true ↔ yearStart (-262143) ≤ dt.second ∧ dt.second < yearStart 262143 := by
  rw [isRepresentable, Bool.and_eq_true, decide_eq_true_eq, decide_eq_true_eq]
  rfl

theorem isRepresentable_addSeconds {dt : DateTime} {n : Int} (h : dt.isRepresentable = true)
    (hle : yearStart dt.date.year ≤ dt.second + n)
    (hlt : dt.second + n < yearStart (dt.date.year + 1)) :
    (dt.addSeconds n).isRepresentable = true := by
  rw [isRepresentable_iff] at h ⊢
  have hdt := dt.yearStart_le_and_lt
  have hfirst : -262143 ≤ dt.date.year := by
    by_contra hless
    have hmono := yearStart_mono (Int.add_one_le_iff.mpr (Int.not_le.mp hless))
    omega
  have hlast : dt.date.year < 262143 := by
    by_contra hge
    have hmono := yearStart_mono (Int.not_lt.mp hge)
    omega
  have hlow := yearStart_mono hfirst
  have hhigh := yearStart_mono (Int.add_one_le_iff.mpr hlast)
  simp only [addSeconds]
  omega

end DateTime

namespace Zone

/-- There is an instant at which the clock of the zone shows a date-time. -/
def Shows (z : Zone) (dt : DateTime) : Prop :=
  ∃ i, (Timestamp.ofInstant z i).localTime = dt

/-- The clock of the zone shows at an instant what it shows again an hour later. -/
def Repeats (z : Zone) (instant : DateTime) : Prop :=
  (Timestamp.ofInstant z (instant.addSeconds 3600)).localTime =
    (Timestamp.ofInstant z instant).localTime

instance (z : Zone) (instant : DateTime) : Decidable (z.Repeats instant) :=
  inferInstanceAs (Decidable (_ = _))

theorem repeats_iff {z : Zone} {i : DateTime} :
    z.Repeats i ↔ z.offsetAtInstant (i.addSeconds 3600) = z.offsetAtInstant i - 3600 := by
  simp only [Repeats, Timestamp.localTime, Timestamp.ofInstant, DateTime.addSeconds,
    DateTime.mk.injEq, and_true]
  omega

theorem repeats_of_lt {z : Zone} {i : DateTime}
    (h : z.offsetAtInstant (i.addSeconds 3600) < z.offsetAtInstant i) : z.Repeats i := by
  rw [repeats_iff]
  cases z with
  | fixed offset => exact absurd h (Int.lt_irrefl offset)
  | seasonal r =>
      have hnow := r.offsetAtInstant_eq_or i.date.year i.second
      have hlater := r.offsetAtInstant_eq_or (i.addSeconds 3600).date.year
        (i.addSeconds 3600).second
      simp only [offsetAtInstant] at h ⊢
      omega

end Zone

namespace DaylightRule

variable {r : DaylightRule}

theorem Regular.offsetAtInstant_addSeconds (hr : r.Regular) (dt : DateTime) (n year : Int)
    (hle : yearStart year - 172800 ≤ dt.second + n)
    (hlt : dt.second + n < yearStart (year + 1) + 172800) :
    (Zone.seasonal r).offsetAtInstant (dt.addSeconds n) = r.offsetAtInstant year (dt.second + n) :=
  hr.offsetAtInstant_near (dt.addSeconds n) year hle hlt

theorem Regular.repeats_iff (hr : r.Regular) {i : DateTime} : (Zone.seasonal r).Repeats i ↔
    r.stop.inYear i.date.year - r.daylight - 3600 ≤ i.second ∧
      i.second < r.stop.inYear i.date.year - r.daylight := by
  have hi := i.yearStart_le_and_lt
  have hlater := hr.offsetAtInstant_addSeconds i 3600 i.date.year (by omega) (by omega)
  rw [Zone.repeats_iff, hlater]
  exact hr.offsetAtInstant_add_eq_iff i.date.year i.second

theorem Regular.isRepresentable_of_repeats (hr : r.Regular) {i : DateTime}
    (hi : i.isRepresentable = true) (h : (Zone.seasonal r).Repeats i) :
    (i.addSeconds 3600).isRepresentable = true := by
  have hyear := i.yearStart_le_and_lt
  have hstop := hr.stop_inside i.date.year
  have hgt := hr.standard_gt
  have hrepeats := hr.repeats_iff.mp h
  unfold daylight at hrepeats
  exact DateTime.isRepresentable_addSeconds hi (by omega) (by omega)

theorem Regular.isRepresentable_of_startsNorth (hr : r.Regular) {dt : DateTime}
    (hdt : dt.isRepresentable = true) (h : (Zone.seasonal r).StartsNorth dt) :
    (dt.addSeconds (-r.standard)).isRepresentable = true := by
  have hstart := hr.start_inside dt.date.year
  have hgt := hr.standard_gt
  have hlt := hr.daylight_lt
  have hsecond : dt.second = r.start.inYear dt.date.year := h.2
  exact DateTime.isRepresentable_addSeconds hdt (by omega) (by omega)

theorem Regular.offsetAtInstant_shown (hr : r.Regular) (i : DateTime) :
    r.offsetAtInstant i.date.year i.second =
      r.offsetAtInstant (Timestamp.ofInstant (.seasonal r) i).localTime.date.year i.second := by
  have hlocal := (Timestamp.ofInstant (.seasonal r) i).localTime.yearStart_le_and_lt
  have hbounds := hr.offsetAtInstant_bounds i.date.year i.second
  generalize (Timestamp.ofInstant (.seasonal r) i).localTime.date.year = year at hlocal ⊢
  simp only [Timestamp.localTime, Timestamp.ofInstant, Zone.offsetAtInstant,
    DateTime.addSeconds] at hlocal
  exact hr.offsetAtInstant_near i year (by omega) (by omega)

end DaylightRule

namespace Timestamp

variable {z : Zone} {dt i : DateTime} {t : Timestamp}

@[simp]
theorem localTime_addSeconds_neg (dt : DateTime) (offset : Int) :
    localTime ⟨dt.addSeconds (-offset), offset⟩ = dt := by
  rw [localTime, DateTime.addSeconds_addSeconds, Int.add_left_neg, DateTime.addSeconds_zero]

theorem localTime_ofInstant (z : Zone) (i : DateTime) :
    (ofInstant z i).localTime = i.addSeconds (z.offsetAtInstant i) :=
  rfl

theorem ofLocal?_eq_some_iff : ofLocal? z dt = some t ↔
    ∃ offset, z.offsetAtLocal? dt = some offset ∧
      (dt.addSeconds (-offset)).isRepresentable = true ∧ t = ⟨dt.addSeconds (-offset), offset⟩ := by
  rw [ofLocal?, Option.bind_eq_bind, Option.bind_eq_some_iff]
  refine exists_congr fun offset => and_congr_right fun _ => ?_
  by_cases h : (dt.addSeconds (-offset)).isRepresentable = true <;> simp [h, eq_comm]

theorem offsetAtLocal?_localTime (hz : z.Regular) (i : DateTime) :
    z.offsetAtLocal? (ofInstant z i).localTime =
      some (min (z.offsetAtInstant i) (z.offsetAtInstant (i.addSeconds 3600))) := by
  cases hz with
  | fixed _ => simp [Zone.offsetAtLocal?, Zone.offsetAtInstant]
  | @seasonal r hr =>
      have hlocal := (ofInstant (.seasonal r) i).localTime.yearStart_le_and_lt
      have hbounds := hr.offsetAtInstant_bounds i.date.year i.second
      have hnow := hr.offsetAtInstant_shown i
      rw [Zone.offsetAtLocal?]
      generalize (ofInstant (.seasonal r) i).localTime.date.year = year at hlocal hnow ⊢
      simp only [localTime_ofInstant, Zone.offsetAtInstant, DateTime.addSeconds] at hlocal
      have hlater := hr.offsetAtInstant_addSeconds i 3600 year (by omega) (by omega)
      have hadd := hr.offsetAtLocal?_add year i.second
      rw [← hnow, ← hlater] at hadd
      exact hadd

theorem isRepresentable_of_repeats (hz : z.Regular) (hi : i.isRepresentable = true)
    (h : z.Repeats i) : (i.addSeconds 3600).isRepresentable = true := by
  cases hz with
  | @fixed offset _ =>
      have hoffset : offset = offset - 3600 := Zone.repeats_iff.mp h
      omega
  | seasonal hr => exact hr.isRepresentable_of_repeats hi h

theorem ofLocal?_of_offset (hoffset : z.offsetAtLocal? dt = some (z.offsetAtInstant i))
    (hi : i.isRepresentable = true) (h : (ofInstant z i).localTime = dt) :
    ofLocal? z dt = some (ofInstant z i) := by
  have hinstant : dt.addSeconds (-z.offsetAtInstant i) = i := by
    rw [← h, localTime_ofInstant, DateTime.addSeconds_addSeconds, Int.add_right_neg,
      DateTime.addSeconds_zero]
  refine ofLocal?_eq_some_iff.mpr ⟨z.offsetAtInstant i, hoffset, ?_, ?_⟩
  · rwa [hinstant]
  · rw [hinstant, ofInstant]

/-- What the clock shows at an instant is told to be the instant, or the one an hour later if the
clock shows the same then. -/
theorem ofLocal?_localTime (hz : z.Regular) (hi : i.isRepresentable = true) :
    ofLocal? z (ofInstant z i).localTime =
      some (ofInstant z (if z.Repeats i then i.addSeconds 3600 else i)) := by
  have hoffset := offsetAtLocal?_localTime hz i
  by_cases h : z.Repeats i
  · have hless := Zone.repeats_iff.mp h
    rw [min_eq_right (by omega)] at hoffset
    rw [if_pos h]
    exact ofLocal?_of_offset hoffset (isRepresentable_of_repeats hz hi h) h
  · rw [min_eq_left (Int.not_lt.mp (mt Zone.repeats_of_lt h))] at hoffset
    rw [if_neg h]
    exact ofLocal?_of_offset hoffset hi rfl

theorem ofInstant_of_offset (hz : z.Regular) {offset : Int}
    (h : z.offsetAtLocal? dt = some offset) (hskips : ¬z.Skips dt) :
    ofInstant z (dt.addSeconds (-offset)) = ⟨dt.addSeconds (-offset), offset⟩ := by
  cases hz with
  | fixed _ =>
      cases h
      rfl
  | @seasonal r hr =>
      have hforce := hr.offsetAtInstant_sub h hskips
      have hdt := dt.yearStart_le_and_lt
      have hbounds := hr.offsetAtInstant_bounds dt.date.year (dt.second - offset)
      have hnear := hr.offsetAtInstant_addSeconds dt (-offset) dt.date.year (by omega) (by omega)
      rw [ofInstant, hnear, Timestamp.mk.injEq]
      exact ⟨rfl, hforce⟩

/-- The clock shows all date-times but those that it skips. -/
theorem shows_iff (hz : z.Regular) : z.Shows dt ↔ ¬z.Skips dt := by
  constructor
  · rintro ⟨i, rfl⟩ hskips
    cases hz with
    | fixed _ => exact hskips
    | @seasonal r hr =>
        have hnot := hr.not_skips_add (ofInstant (.seasonal r) i).localTime.date.year i.second
        rw [← hr.offsetAtInstant_shown i] at hnot
        exact hnot hskips
  · intro hskips
    cases hoffset : z.offsetAtLocal? dt with
    | none => exact absurd (hz.offsetAtLocal?_eq_none_iff.mp hoffset).1 hskips
    | some offset =>
        refine ⟨dt.addSeconds (-offset), ?_⟩
        rw [ofInstant_of_offset hz hoffset hskips, localTime_addSeconds_neg]

theorem localTime_of_ofLocal? (h : ofLocal? z dt = some t) : t.localTime = dt := by
  obtain ⟨offset, -, -, rfl⟩ := ofLocal?_eq_some_iff.mp h
  exact localTime_addSeconds_neg dt offset

theorem eq_ofInstant_of_ofLocal? (hz : z.Regular) (hskips : ¬z.Skips dt)
    (h : ofLocal? z dt = some t) : t = ofInstant z t.instant := by
  obtain ⟨offset, hoffset, -, rfl⟩ := ofLocal?_eq_some_iff.mp h
  exact (ofInstant_of_offset hz hoffset hskips).symm

theorem exists_ofLocal?_of_startsNorth (hz : z.Regular) (hstart : z.StartsNorth dt)
    (hdt : dt.isRepresentable = true) : ∃ r, z = .seasonal r ∧
      ofLocal? z dt = some ⟨dt.addSeconds (-r.standard), r.standard⟩ := by
  cases hz with
  | fixed _ => exact absurd hstart id
  | @seasonal r hr =>
      exact ⟨r, rfl, ofLocal?_eq_some_iff.mpr ⟨r.standard, hstart.offsetAtLocal?,
        hr.isRepresentable_of_startsNorth hdt hstart, rfl⟩⟩

theorem ofLocal?_eq_none_iff (hz : z.Regular) (hstart : ¬z.StartsNorth dt) : ofLocal? z dt = none ↔
    ∀ i, (ofInstant z i).localTime = dt → i.isRepresentable = false := by
  constructor
  · intro hnone i hshown
    cases hi : i.isRepresentable with
    | false => rfl
    | true =>
        have hfound := ofLocal?_localTime hz hi
        rw [hshown, hnone] at hfound
        cases hfound
  · intro h
    cases hfound : ofLocal? z dt with
    | none => rfl
    | some t =>
        obtain ⟨offset, hoffset, hrepresentable, rfl⟩ := ofLocal?_eq_some_iff.mp hfound
        have hskips : ¬z.Skips dt := by
          intro hskips
          rw [hz.offsetAtLocal?_eq_none_iff.mpr ⟨hskips, hstart⟩] at hoffset
          cases hoffset
        have hinstant := eq_ofInstant_of_ofLocal? hz hskips hfound
        have hfalse := h _ (hinstant ▸ localTime_of_ofLocal? hfound)
        rw [hrepresentable] at hfalse
        cases hfalse

theorem exists_ofLocal?_of_not_skips (hz : z.Regular) (h : ¬z.Skips dt)
    (hle : yearStart (-262143) + 86400 ≤ dt.second) (hlt : dt.second + 86400 ≤ yearStart 262143) :
    ∃ t, ofLocal? z dt = some t := by
  cases hoffset : z.offsetAtLocal? dt with
  | none => exact absurd (hz.offsetAtLocal?_eq_none_iff.mp hoffset).1 h
  | some offset =>
      have hbounds := hz.offsetAtLocal?_bounds hoffset
      refine ⟨_, ofLocal?_eq_some_iff.mpr ⟨offset, hoffset, ?_, rfl⟩⟩
      rw [DateTime.isRepresentable_iff]
      simp only [DateTime.addSeconds]
      omega

end Timestamp

end TypedRecords
