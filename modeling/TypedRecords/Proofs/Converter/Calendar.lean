import TypedRecords.Converter.Calendar
import TypedRecords.Proofs.Calendar.Timestamp

namespace TypedRecords

variable {z : Zone} {dt : DateTime}

theorem timestampOf_eq_ok_iff {t : Timestamp} :
    timestampOf z dt = .ok t ↔ Timestamp.ofLocal? z dt = some t := by
  rw [timestampOf]
  cases Timestamp.ofLocal? z dt <;> simp

theorem timestampOf_eq_error_iff {e : ConversionError} : timestampOf z dt = .error e ↔
    Timestamp.ofLocal? z dt = none ∧
      e = .temporal (dt.textWith " " ++ " does not exist in the local timezone") := by
  rw [timestampOf]
  cases Timestamp.ofLocal? z dt <;> simp [eq_comm]

/-- Values that stand for date-times are kept as timestamps of a zone that show these. -/
structure Conversion.KeepsOnClock {T : Type} (c : Conversion T Timestamp) (z : Zone)
    (shown : T → DateTime) : Prop where
  back : ∀ v r, c.toModel (some v) = .ok r → ∃ t, r = some t ∧ c.fromModel r = .ok (some v)
  /-- There is no timestamp if no instant shows the date-time, or none that is representable. -/
  fails_iff : ∀ v, ¬z.StartsNorth (shown v) → ((∃ e, c.toModel (some v) = .error e) ↔
    ∀ i, (Timestamp.ofInstant z i).localTime = shown v → i.isRepresentable = false)
  /-- The moment at which daylight saving starts in the north is not shown, but there is one. -/
  startsNorth : ∀ v, z.StartsNorth (shown v) → (shown v).isRepresentable = true →
    ¬z.Shows (shown v) ∧ ∃ r, z = .seasonal r ∧
      c.toModel (some v) = .ok (some ⟨(shown v).addSeconds (-r.standard), r.standard⟩)
  reason : ∀ v e, c.toModel (some v) = .error e →
    e = .temporal ((shown v).textWith " " ++ " does not exist in the local timezone")

theorem keepsOnClock {T : Type} {c : Conversion T Timestamp} {shown : T → DateTime}
    (told : DateTime → T) (hz : z.Regular) (htold : ∀ v, told (shown v) = v)
    (hfrom : ∀ t, c.fromModel (some t) = .ok (some (told t.localTime)))
    (hto : ∀ v, c.toModel (some v) = (timestampOf z (shown v)).map some) :
    c.KeepsOnClock z shown := by
  have herror (v : T) (e : ConversionError) :
      c.toModel (some v) = .error e ↔ timestampOf z (shown v) = .error e := by
    rw [hto]
    cases timestampOf z (shown v) <;> simp [Except.map]
  refine ⟨fun v r hr => ?_, fun v hstart => ?_, fun v hstart hv => ?_, fun v e he => ?_⟩
  · rw [hto] at hr
    cases hmade : timestampOf z (shown v) with
    | error e =>
        rw [hmade] at hr
        cases hr
    | ok t =>
        rw [hmade] at hr
        cases hr
        have hshown := Timestamp.localTime_of_ofLocal? (timestampOf_eq_ok_iff.mp hmade)
        exact ⟨t, rfl, by rw [hfrom, hshown, htold]⟩
  · simp only [herror, timestampOf_eq_error_iff, exists_and_left, exists_eq, and_true]
    exact Timestamp.ofLocal?_eq_none_iff hz hstart
  · obtain ⟨r, hr, hmade⟩ := Timestamp.exists_ofLocal?_of_startsNorth hz hstart hv
    refine ⟨fun hshows => (Timestamp.shows_iff hz).mp hshows hstart.skips, r, hr, ?_⟩
    rw [hto, timestampOf_eq_ok_iff.mpr hmade]
    rfl
  · exact (timestampOf_eq_error_iff.mp ((herror v e).mp he)).2

theorem DateTime.date_of (d : Date) (t : TimeOfDay) : (DateTime.of d t).date = d := by
  obtain ⟨n⟩ := d
  have hsecond := t.second_lt
  simp only [of, date, Date.mk.injEq]
  omega

theorem DateTime.time_of (d : Date) (t : TimeOfDay) : (DateTime.of d t).time = t := by
  obtain ⟨second, nano, hsecond, hnano⟩ := t
  simp only [of, time, TimeOfDay.mk.injEq, and_true]
  omega

theorem calendar_keepsOnClock (hz : z ∈ Zone.named) :
    (Date.conversion z).KeepsOnClock z (fun d => .of d .midnight) ∧
      (DateTime.conversion z).KeepsOnClock z (fun dt => dt) ∧
      (TimeOfDay.conversion z).KeepsOnClock z (fun t => .of ⟨0⟩ t) := by
  have hregular := Zone.regular_of_mem_named hz
  refine ⟨?_, ?_, ?_⟩
  · exact keepsOnClock DateTime.date hregular (fun d => DateTime.date_of d .midnight)
      (fun _ => rfl) fun _ => rfl
  · exact keepsOnClock id hregular (fun _ => rfl) (fun _ => rfl) fun _ => rfl
  · exact keepsOnClock DateTime.time hregular (fun t => DateTime.time_of ⟨0⟩ t) (fun _ => rfl)
      fun _ => rfl

namespace Sample

/-- Half past one on the day on which an hour is repeated in Eastern North America. -/
def repeatedHour : DateTime :=
  ⟨1636248600, 500000000, by decide⟩

/-- Two o'clock on the day on which an hour is skipped there. -/
def startOfDaylight : DateTime :=
  (DateTime.of ⟨18700⟩ .midnight).addSeconds 7200

def firstMoment : DateTime :=
  .of ⟨Date.startOfYear (-262143)⟩ .midnight

end Sample

open Sample

theorem calendar_keepsOnClock_easternAmerica : .easternAmerica ∈ Zone.named ∧
    (∃ t, (DateTime.conversion .easternAmerica).toModel (some repeatedHour) = .ok (some t) ∧
      (DateTime.conversion .easternAmerica).fromModel (some t) = .ok (some repeatedHour)) ∧
    ∃ e, (DateTime.conversion .easternAmerica).toModel (some (startOfDaylight.addSeconds 1)) =
      .error e := by
  have hnamed : .easternAmerica ∈ Zone.named := by simp [Zone.named]
  obtain ⟨-, hkeeps, -⟩ := calendar_keepsOnClock hnamed
  refine ⟨hnamed, ?_, (hkeeps.fails_iff _ ?_).mpr ?_⟩
  · have hmade : (DateTime.conversion .easternAmerica).toModel (some repeatedHour) =
        .ok (some ⟨repeatedHour.addSeconds 18000, -18000⟩) := rfl
    obtain ⟨t, ht, hback⟩ := hkeeps.back repeatedHour _ hmade
    cases ht
    exact ⟨_, hmade, hback⟩
  · exact fun hstart => absurd hstart.2 (by decide)
  · have hskips : Zone.easternAmerica.Skips (startOfDaylight.addSeconds 1) :=
      ⟨by decide, by decide⟩
    intro i hshown
    exact absurd hskips ((Timestamp.shows_iff (Zone.regular_of_mem_named hnamed)).mp ⟨i, hshown⟩)

/-- Two o'clock is skipped, but has a timestamp; the first date-time of the range is shown in India,
but before the first instant. -/
theorem calendar_not_fails_iff_not_shows : .easternAmerica ∈ Zone.named ∧ .india ∈ Zone.named ∧
    startOfDaylight.isRepresentable = true ∧ ¬Zone.easternAmerica.Shows startOfDaylight ∧
    (DateTime.conversion .easternAmerica).toModel (some startOfDaylight) =
      .ok (some ⟨startOfDaylight.addSeconds 18000, -18000⟩) ∧
    firstMoment.isRepresentable = true ∧ Zone.india.Shows firstMoment ∧
    (DateTime.conversion .india).toModel (some firstMoment) =
      .error (.temporal "-262143-01-01 00:00:00 does not exist in the local timezone") := by
  have hnamed : .easternAmerica ∈ Zone.named := by simp [Zone.named]
  have hskips : Zone.easternAmerica.Skips startOfDaylight := ⟨by decide, by decide⟩
  refine ⟨hnamed, by simp [Zone.named], by decide, fun hshows => ?_, rfl, by decide, ?_, rfl⟩
  · exact (Timestamp.shows_iff (Zone.regular_of_mem_named hnamed)).mp hshows hskips
  · exact ⟨firstMoment.addSeconds (-19800), rfl⟩

/-- What becomes of the timestamps of a zone that are read as date-times and made of them again. -/
structure Zone.ReturnsInstants (z : Zone) : Prop where
  once : ∀ i, i.isRepresentable = true → ¬z.Repeats i →
    ∃ dt, (DateTime.conversion z).fromModel (some (.ofInstant z i)) = .ok (some dt) ∧
      (DateTime.conversion z).toModel (some dt) = .ok (some (.ofInstant z i))
  again : ∀ i, i.isRepresentable = true → z.Repeats i →
    ∃ dt, (DateTime.conversion z).fromModel (some (.ofInstant z i)) = .ok (some dt) ∧
      (DateTime.conversion z).toModel (some dt) =
        .ok (some (.ofInstant z (i.addSeconds 3600)))
  /-- The first pass of a repeated hour is the last hour of daylight saving. -/
  repeats_iff : ∀ i, z.Repeats i ↔ ∃ r, z = .seasonal r ∧
    r.stop.inYear i.date.year - r.daylight - 3600 ≤ i.second ∧
      i.second < r.stop.inYear i.date.year - r.daylight

theorem toModel_localTime (hz : z.Regular) {i : DateTime} (hi : i.isRepresentable = true) :
    (DateTime.conversion z).toModel (some (Timestamp.ofInstant z i).localTime) =
      .ok (some (.ofInstant z (if z.Repeats i then i.addSeconds 3600 else i))) := by
  change (timestampOf z _).map some = _
  rw [timestampOf_eq_ok_iff.mpr (Timestamp.ofLocal?_localTime hz hi)]
  rfl

theorem Zone.Regular.returnsInstants (hz : z.Regular) : z.ReturnsInstants where
  once i hi hnot := ⟨_, rfl, by rw [toModel_localTime hz hi, if_neg hnot]⟩
  again i hi hrepeats := ⟨_, rfl, by rw [toModel_localTime hz hi, if_pos hrepeats]⟩
  repeats_iff i := by
    cases hz with
    | @fixed offset _ =>
        rw [Zone.repeats_iff]
        constructor
        · intro h
          have hoffset : offset = offset - 3600 := h
          omega
        · rintro ⟨r, h, -⟩
          cases h
    | @seasonal r hr =>
        rw [hr.repeats_iff]
        constructor
        · intro h
          exact ⟨r, rfl, h⟩
        · rintro ⟨r', h, hlast⟩
          cases h
          exact hlast

/-- In a zone whose clock is changed twice a year by a regular rule, as in those that are named
here, reading a timestamp as a date-time loses no more than which pass of a repeated hour it lies
in. -/
theorem returnsInstants_of_regular :
    (∀ z ∈ Zone.named, z.Regular) ∧ ∀ z : Zone, z.Regular → z.ReturnsInstants :=
  ⟨fun _ => Zone.regular_of_mem_named, fun _ => Zone.Regular.returnsInstants⟩

theorem returnsInstants_easternAmerica : Zone.easternAmerica.Regular ∧
    Zone.easternAmerica.Repeats (repeatedHour.addSeconds 14400) ∧
    ¬Zone.easternAmerica.Repeats (repeatedHour.addSeconds 18000) ∧
    (∃ dt, (DateTime.conversion .easternAmerica).fromModel
        (some (.ofInstant .easternAmerica (repeatedHour.addSeconds 14400))) = .ok (some dt) ∧
      (DateTime.conversion .easternAmerica).toModel (some dt) =
        .ok (some (.ofInstant .easternAmerica (repeatedHour.addSeconds 18000)))) := by
  have hregular := returnsInstants_of_regular.1 .easternAmerica (by simp [Zone.named])
  have hreturns := returnsInstants_of_regular.2 .easternAmerica hregular
  have hrepeats : Zone.easternAmerica.Repeats (repeatedHour.addSeconds 14400) := by decide
  exact ⟨hregular, hrepeats, by decide, hreturns.again _ (by decide) hrepeats⟩

end TypedRecords
