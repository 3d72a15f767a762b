import TypedRecords.Catalogue.Conversions
import TypedRecords.Proofs.Converter.Calendar
import TypedRecords.Proofs.Converter.Standard
import TypedRecords.Record.Basic

namespace TypedRecords

namespace Date

/-- The clock of the zone skips the midnight with which the date starts. -/
def LacksMidnight (z : Zone) (d : Date) : Prop :=
  z = .brazil ∧ d.dayNumber = nthSunday d.year 10 3

theorem second_midnight (d : Date) : (DateTime.of d .midnight).second = d.dayNumber * 86400 :=
  Int.add_zero _

theorem not_skips_midnight_easternAmerica (d : Date) :
    ¬Zone.easternAmerica.Skips (.of d .midnight) := by
  simp only [Zone.easternAmerica, Zone.Skips, DaylightRule.Skips, YearlyChange.inYear,
    DateTime.date_of, second_midnight]
  omega

theorem skips_midnight_brazil_iff (d : Date) :
    Zone.brazil.Skips (.of d .midnight) ↔ d.dayNumber = nthSunday d.year 10 3 := by
  simp only [Zone.brazil, Zone.Skips, DaylightRule.Skips, YearlyChange.inYear, DateTime.date_of,
    second_midnight]
  omega

theorem skips_midnight_iff {z : Zone} (hz : z ∈ Zone.named) {d : Date} :
    z.Skips (.of d .midnight) ↔ d.LacksMidnight z := by
  simp only [Zone.named, List.mem_cons, List.not_mem_nil, or_false] at hz
  rcases hz with rfl | rfl | rfl | rfl
  · exact iff_of_false (fun h => h) (by simp [LacksMidnight, Zone.utc, Zone.brazil])
  · exact iff_of_false (fun h => h) (by simp [LacksMidnight, Zone.india, Zone.brazil])
  · exact iff_of_false (not_skips_midnight_easternAmerica d)
      (by simp [LacksMidnight, Zone.easternAmerica, Zone.brazil])
  · rw [skips_midnight_brazil_iff, LacksMidnight, and_iff_right rfl]

theorem midnight_within {d : Date} (hfirst : 1 ≤ d.year) (hlast : d.year ≤ 9999) :
    DateTime.yearStart (-262143) + 86400 ≤ (DateTime.of d .midnight).second ∧
      (DateTime.of d .midnight).second + 86400 ≤ DateTime.yearStart 262143 := by
  have hd := (DateTime.of d .midnight).yearStart_le_and_lt
  rw [DateTime.date_of] at hd
  have hle := DateTime.yearStart_mono hfirst
  have hlt := DateTime.yearStart_mono (show d.year + 1 ≤ 10000 by omega)
  have hlow : DateTime.yearStart (-262143) + 86400 ≤ DateTime.yearStart 1 := by decide
  have hhigh : DateTime.yearStart 10000 + 86400 ≤ DateTime.yearStart 262143 := by decide
  omega

theorem exists_timestamp_of_not_lacksMidnight {z : Zone} (hz : z ∈ Zone.named) {d : Date}
    (hfirst : 1 ≤ d.year) (hlast : d.year ≤ 9999) (h : ¬d.LacksMidnight z) :
    ∃ i, (Date.conversion z).toModel (some d) = .ok (some (.ofInstant z i)) ∧
      (Timestamp.ofInstant z i).localTime.date = d := by
  have hregular := Zone.regular_of_mem_named hz
  have hskips := mt (skips_midnight_iff hz).mp h
  obtain ⟨hle, hlt⟩ := midnight_within hfirst hlast
  obtain ⟨t, ht⟩ := Timestamp.exists_ofLocal?_of_not_skips hregular hskips hle hlt
  have hforce := Timestamp.eq_ofInstant_of_ofLocal? hregular hskips ht
  refine ⟨t.instant, ?_, ?_⟩
  · rw [← hforce]
    exact congrArg (Except.map some) (timestampOf_eq_ok_iff.mpr ht)
  · rw [← hforce, Timestamp.localTime_of_ofLocal? ht, DateTime.date_of]

theorem text_midnight (d : Date) :
    (DateTime.of d .midnight).textWith " " = d.text ++ " 00:00:00" := by
  rw [DateTime.textWith, DateTime.date_of, DateTime.time_of, String.append_assoc]
  rfl

theorem toModel_of_lacksMidnight {z : Zone} (hz : z ∈ Zone.named) {d : Date}
    (h : d.LacksMidnight z) : (Date.conversion z).toModel (some d) =
      .error (.temporal (d.text ++ " 00:00:00" ++ " does not exist in the local timezone")) := by
  have hregular := Zone.regular_of_mem_named hz
  have hsouth : ¬z.StartsNorth (.of d .midnight) := by
    obtain ⟨rfl, -⟩ := h
    exact fun hstart => Bool.noConfusion hstart.1
  have hnone := (Timestamp.ofLocal?_eq_none_iff hregular hsouth).mpr fun i hi =>
    absurd ((skips_midnight_iff hz).mpr h) ((Timestamp.shows_iff hregular).mp ⟨i, hi⟩)
  have herror := timestampOf_eq_error_iff.mpr ⟨hnone, rfl⟩
  rw [text_midnight] at herror
  exact congrArg (Except.map some) herror

end Date

namespace Contents

open Catalogue

variable {names : Kind → String} {z : Zone} {c : Contents (kinds names)}
  {p : Property (kinds names)} {d : Date}

/-- A property with dates as its values and timestamps as their models. -/
structure KeepsDates (z : Zone) (p : Property (kinds names)) : Prop where
  kind : p.kind = .one .date
  converter : p.attributes.converter = Choice.clock.converter? names z p.kind

theorem getModel_of_date (hp : KeepsDates z p) (hd : c.get p = .ok (some ⟨.one .date, d⟩)) :
    c.getModel p = (((Date.conversion z).toModel (some d)).map
      (Option.map (Value.mk (U := kinds names) (.one .timestamp)))).mapError .conversion := by
  obtain ⟨hkind, hconverter⟩ := hp
  rw [getModel, hd]
  change p.model _ = _
  obtain ⟨⟨⟨id, name, form, kind, attributes⟩, identity⟩, provider⟩ := p
  subst hkind
  simp only [Choice.converter?] at hconverter
  have hmodel := Converter.toModel_map (U := kinds names) (k := .one .date)
    ⟨.one .timestamp, Date.conversion z⟩ (some d)
  rw [Option.map_some] at hmodel
  simp only [Property.model, hconverter, hmodel]
  cases (Date.conversion z).toModel (some d) <;> rfl

end Contents

open Catalogue

/-- A date has a timestamp of the zone that falls on it, and records can be read accordingly, unless
its midnight is skipped. -/
structure Date.HasModel (z : Zone) (d : Date) : Prop where
  made : ¬d.LacksMidnight z →
    ∃ i, (Date.conversion z).toModel (some d) = .ok (some (.ofInstant z i)) ∧
      (Timestamp.ofInstant z i).localTime.date = d
  refused : d.LacksMidnight z → (Date.conversion z).toModel (some d) =
    .error (.temporal (d.text ++ " 00:00:00" ++ " does not exist in the local timezone"))
  read_iff : ∀ {names : Kind → String} (c : Contents (kinds names)) (p : Property (kinds names)),
    Contents.KeepsDates z p → c.get p = .ok (some ⟨.one .date, d⟩) →
      ((∃ m, c.getModel p = .ok m) ↔ ¬d.LacksMidnight z)

theorem Date.hasModel {z : Zone} (hz : z ∈ Zone.named) {d : Date} (hfirst : 1 ≤ d.year)
    (hlast : d.year ≤ 9999) : d.HasModel z where
  made := exists_timestamp_of_not_lacksMidnight hz hfirst hlast
  refused := toModel_of_lacksMidnight hz
  read_iff c p hp hd := by
    rw [Contents.getModel_of_date hp hd]
    by_cases h : d.LacksMidnight z
    · rw [toModel_of_lacksMidnight hz h]
      simp [h, Except.map, Except.mapError]
    · obtain ⟨i, hi, -⟩ := exists_timestamp_of_not_lacksMidnight hz hfirst hlast h
      rw [hi]
      simp [h, Except.map, Except.mapError]

theorem Date.hasModel_dayAfter : .brazil ∈ Zone.named ∧ 1 ≤ (Date.mk 18918).year ∧
    (Date.mk 18918).year ≤ 9999 ∧ ¬(Date.mk 18918).LacksMidnight .brazil ∧
    ∃ i, (Date.conversion .brazil).toModel (some ⟨18918⟩) = .ok (some (.ofInstant .brazil i)) ∧
      (Timestamp.ofInstant .brazil i).localTime.date = ⟨18918⟩ := by
  have hnamed : .brazil ∈ Zone.named := by simp [Zone.named]
  have hmidnight : ¬(Date.mk 18918).LacksMidnight .brazil := fun h => absurd h.2 (by decide)
  have hmodel := Date.hasModel hnamed (d := ⟨18918⟩) (by decide) (by decide)
  exact ⟨hnamed, by decide, by decide, hmidnight, hmodel.made hmidnight⟩

theorem Date.no_model_thirdSunday : .brazil ∈ Zone.named ∧ 1 ≤ (Date.mk 18917).year ∧
    (Date.mk 18917).year ≤ 9999 ∧ (Date.conversion .brazil).toModel (some ⟨18917⟩) =
      .error (.temporal "2021-10-17 00:00:00 does not exist in the local timezone") := by
  refine ⟨by simp [Zone.named], by decide, by decide, rfl⟩

end TypedRecords
