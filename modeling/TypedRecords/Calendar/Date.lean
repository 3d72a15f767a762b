import TypedRecords.Text.Digits
import TypedRecords.Text.Pieces

namespace TypedRecords

/-- A calendar date, by its distance in days from 1970-01-01. -/
structure Date where
  dayNumber : Int
  deriving DecidableEq

namespace Date

def isLeapYear (year : Int) : Bool :=
  year % 4 == 0 && (year % 100 != 0 || year % 400 == 0)

def monthLengths (year : Int) : List Nat :=
  [31, if isLeapYear year then 29 else 28, 31, 30, 31, 30, 31, 31, 30, 31, 30, 31]

def startOfYear (year : Int) : Int :=
  365 * (year - 1970) + (year - 1) / 4 - (year - 1) / 100 + (year - 1) / 400 - 477

/-- The number of days of a year that lie before a month, counted from one. -/
def daysBefore (year : Int) (month : Nat) : Nat :=
  ((monthLengths year).take (month - 1)).foldl (· + ·) 0

def startOfMonth (year : Int) (month : Nat) : Int :=
  startOfYear year + daysBefore year month

def ofCivil? (year : Int) (month day : Nat) : Option Date := do
  let length ← (monthLengths year)[month - 1]?
  if 1 ≤ month ∧ 1 ≤ day ∧ day ≤ length then some ⟨startOfMonth year month + (day - 1)⟩ else none

def yearEstimate (dayNumber : Int) : Int :=
  dayNumber * 400 / 146097 + 1970

def year (d : Date) : Int :=
  let estimate := yearEstimate d.dayNumber
  if d.dayNumber < startOfYear estimate then estimate - 1
  else if d.dayNumber < startOfYear (estimate + 1) then estimate
  else estimate + 1

/-- The month, counted from one, and the day of month of a day `rest` days into the months. -/
def monthDay : (month rest : Nat) → (lengths : List Nat) → Nat × Nat
  | month, rest, [] => (month, rest + 1)
  | month, rest, length :: lengths =>
    if rest < length then (month, rest + 1) else monthDay (month + 1) (rest - length) lengths

def civil (d : Date) : Int × Nat × Nat :=
  let y := d.year
  (y, monthDay 1 (d.dayNumber - startOfYear y).toNat (monthLengths y))

/-- The day of the week, counted from Sunday as zero. -/
def weekday (dayNumber : Int) : Int :=
  (dayNumber + 4) % 7

/-- The day number of the `n`-th Sunday of a month, counted from one. -/
def nthSunday (year : Int) (month n : Nat) : Int :=
  let first := startOfMonth year month
  first + (7 - weekday first) % 7 + 7 * (n - 1)

/-- The text of a year: four digits, or a sign and at least four digits outside 0 to 9999. -/
def yearText (year : Int) : List Char :=
  if 0 ≤ year ∧ year ≤ 9999 then Text.padded 4 year.toNat
  else (if year < 0 then '-' else '+') :: Text.padded 4 year.natAbs

def text (d : Date) : String :=
  let (y, m, day) := d.civil
  String.ofList (yearText y ++ ['-'] ++ Text.padded 2 m ++ ['-'] ++ Text.padded 2 day)

def ofPieces? (negative : Bool) (pieces : List (List Char)) : Option Date :=
  match pieces with
  | [y, m, d] => do
    let y ← Text.digits? y
    ofCivil? (if negative then -(y : Int) else y) (← Text.digits? m) (← Text.digits? d)
  | _ => none

def ofChars? : List Char → Option Date
  | '-' :: cs => ofPieces? true (Text.cutAt '-' cs)
  | '+' :: cs => ofPieces? false (Text.cutAt '-' cs)
  | cs => ofPieces? false (Text.cutAt '-' cs)

def ofText? (s : String) : Option Date :=
  ofChars? s.toList

instance : LT Date :=
  ⟨fun a b => a.dayNumber < b.dayNumber⟩

instance (a b : Date) : Decidable (a < b) :=
  inferInstanceAs (Decidable (a.dayNumber < b.dayNumber))

end Date

end TypedRecords
