import TypedRecords.Calendar.Date

namespace TypedRecords

/-- A time of day: whole seconds since midnight, and nanoseconds. -/
structure TimeOfDay where
  second : Nat
  nano : Nat
  second_lt : second < 86400
  nano_lt : nano < 2000000000
  deriving DecidableEq

/-- A local date and time of day: whole seconds from 1970-01-01T00:00:00, and nanoseconds. -/
structure DateTime where
  second : Int
  nano : Nat
  nano_lt : nano < 2000000000
  deriving DecidableEq

/-- The digits of a fraction of a second: none, three, six or nine, the fewest that are exact. -/
def fractionText (nano : Nat) : List Char :=
  if nano = 0 then []
  else if nano % 1000000 = 0 then '.' :: Text.padded 3 (nano / 1000000)
  else if nano % 1000 = 0 then '.' :: Text.padded 6 (nano / 1000)
  else '.' :: Text.padded 9 nano

/-- Reads the digits of a fraction as nanoseconds; digits behind the ninth do not count. -/
def fraction? (digits : List Char) : Option Nat :=
  (Text.digits? digits).map fun _ =>
    Text.decimalValue (digits.take 9) * Nat.pow 10 (9 - digits.length)

namespace TimeOfDay

def midnight : TimeOfDay :=
  ⟨0, 0, by decide, by decide⟩

def text (t : TimeOfDay) : String :=
  let leap := t.nano / 1000000000
  String.ofList (Text.padded 2 (t.second / 3600) ++ [':'] ++ Text.padded 2 (t.second / 60 % 60) ++
    [':'] ++ Text.padded 2 (t.second % 60 + leap) ++ fractionText (t.nano % 1000000000))

def ofClock? (hour minute second nano : Nat) : Option TimeOfDay :=
  if h : hour < 24 ∧ minute < 60 ∧ second ≤ 60 ∧ nano < 1000000000 then
    if second = 60 then
      some ⟨hour * 3600 + minute * 60 + 59, nano + 1000000000, by omega, by omega⟩
    else some ⟨hour * 3600 + minute * 60 + second % 60, nano, by omega, by omega⟩
  else none

/-- Reads the text of a time of day, which may end with the minutes. -/
def ofChars? (cs : List Char) : Option TimeOfDay :=
  match Text.cutAt ':' cs with
  | [h, m] => do
    ofClock? (← Text.digits? h) (← Text.digits? m) 0 0
  | [h, m, s] => do
    let h ← Text.digits? h
    let m ← Text.digits? m
    match Text.cutAt '.' s with
    | [s] => ofClock? h m (← Text.digits? s) 0
    | [s, fraction] => ofClock? h m (← Text.digits? s) (← fraction? fraction)
    | _ => none
  | _ => none

def ofText? (s : String) : Option TimeOfDay :=
  ofChars? s.toList

end TimeOfDay

namespace DateTime

def of (d : Date) (t : TimeOfDay) : DateTime :=
  ⟨d.dayNumber * 86400 + t.second, t.nano, t.nano_lt⟩

def date (dt : DateTime) : Date :=
  ⟨dt.second / 86400⟩

def time (dt : DateTime) : TimeOfDay :=
  ⟨(dt.second % 86400).toNat, dt.nano, by omega, dt.nano_lt⟩

/-- The date-time some whole seconds later; the fraction stays. -/
def addSeconds (dt : DateTime) (n : Int) : DateTime :=
  { dt with second := dt.second + n }

def textWith (sep : String) (dt : DateTime) : String :=
  dt.date.text ++ sep ++ dt.time.text

def ofChars? (cs : List Char) : Option DateTime :=
  match Text.cutAt 'T' cs with
  | [d, t] => do
    return of (← Date.ofChars? d) (← TimeOfDay.ofChars? t)
  | _ => none

def ofText? (s : String) : Option DateTime :=
  ofChars? s.toList

instance : LT DateTime :=
  ⟨fun a b => a.second < b.second ∨ a.second = b.second ∧ a.nano < b.nano⟩

instance (a b : DateTime) : Decidable (a < b) :=
  inferInstanceAs (Decidable (a.second < b.second ∨ a.second = b.second ∧ a.nano < b.nano))

instance : Ord DateTime :=
  ⟨compareLex (compareOn second) (compareOn nano)⟩

instance : Std.TransOrd DateTime :=
  inferInstanceAs (Std.TransCmp (compareLex (compareOn second) (compareOn nano)))

/-- The first date-time of the representable range, which starts with the year -262143. -/
def firstSecond : Int :=
  Date.startOfYear (-262143) * 86400

/-- The second after the representable range, which ends with the year 262142. -/
def endSecond : Int :=
  Date.startOfYear 262143 * 86400

def isRepresentable (dt : DateTime) : Bool :=
  firstSecond ≤ dt.second && dt.second < endSecond

end DateTime

end TypedRecords
