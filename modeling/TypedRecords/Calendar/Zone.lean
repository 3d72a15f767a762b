import TypedRecords.Calendar.DateTime

/-!
A local time that is shown twice is taken to have the standard offset. Zones look at whole seconds
only.
-/

namespace TypedRecords

/-- The day and hour of a yearly change of the clock. -/
structure YearlyChange where
  month : Nat
  sunday : Nat
  /-- Seconds after midnight on the clock in force before the change. -/
  secondOfDay : Int

/-- The local second, on the clock in force before it, of the change in a year. -/
def YearlyChange.inYear (c : YearlyChange) (year : Int) : Int :=
  Date.nthSunday year c.month c.sunday * 86400 + c.secondOfDay

/-- A rule of daylight saving, which lasts over the end of the year south of the equator. -/
structure DaylightRule where
  standard : Int
  start : YearlyChange
  stop : YearlyChange
  southern : Bool

inductive Zone where
  | fixed (offset : Int)
  | seasonal (rule : DaylightRule)

namespace DaylightRule

def daylight (r : DaylightRule) : Int :=
  r.standard + 3600

/-- The offset of a local second of a year, unless the clock skips that second. In the north, the
first second that is skipped is taken to have the standard offset. -/
def offsetAtLocal? (r : DaylightRule) (year second : Int) : Option Int :=
  let start := r.start.inYear year
  let stop := r.stop.inYear year
  if r.southern then
    if second < stop - 3600 then some r.daylight
    else if second < start then some r.standard
    else if second < start + 3600 then none
    else some r.daylight
  else
    if second ≤ start then some r.standard
    else if second < start + 3600 then none
    else if second < stop - 3600 then some r.daylight
    else some r.standard

/-- The offset of a second of universal time in a year of universal time. -/
def offsetAtInstant (r : DaylightRule) (year second : Int) : Int :=
  let start := r.start.inYear year - r.standard
  let stop := r.stop.inYear year - r.daylight
  if r.southern then
    if stop ≤ second ∧ second < start then r.standard else r.daylight
  else
    if start ≤ second ∧ second < stop then r.daylight else r.standard

end DaylightRule

namespace Zone

def utc : Zone :=
  .fixed 0

def india : Zone :=
  .fixed 19800

/-- Eastern North America: daylight saving from March to November, changing at two o'clock. -/
def easternAmerica : Zone :=
  .seasonal
    { standard := -18000
      start := { month := 3, sunday := 2, secondOfDay := 7200 }
      stop := { month := 11, sunday := 1, secondOfDay := 7200 }
      southern := false }

/-- Brazil: daylight saving from October to February, changing at midnight. -/
def brazil : Zone :=
  .seasonal
    { standard := -10800
      start := { month := 10, sunday := 3, secondOfDay := 0 }
      stop := { month := 2, sunday := 3, secondOfDay := 0 }
      southern := true }

def offsetAtLocal? : Zone → DateTime → Option Int
  | .fixed offset, _ => some offset
  | .seasonal rule, dt => rule.offsetAtLocal? dt.date.year dt.second

def offsetAtInstant : Zone → DateTime → Int
  | .fixed offset, _ => offset
  | .seasonal rule, dt => rule.offsetAtInstant dt.date.year dt.second

end Zone

end TypedRecords
