import TypedRecords.Calendar.Zone

namespace TypedRecords

/-- An instant in universal time, and the offset of the clock that shows it. -/
structure Timestamp where
  instant : DateTime
  offset : Int
  deriving DecidableEq

namespace Timestamp

def localTime (t : Timestamp) : DateTime :=
  t.instant.addSeconds t.offset

def sameInstant (a b : Timestamp) : Bool :=
  decide (a.instant = b.instant)

instance : Ord Timestamp :=
  ⟨compareOn instant⟩

instance : Std.TransOrd Timestamp :=
  inferInstanceAs (Std.TransCmp (compareOn instant))

def ofInstant (z : Zone) (instant : DateTime) : Timestamp :=
  ⟨instant, z.offsetAtInstant instant⟩

/-- The timestamp of a local date-time of a zone; none if it has no offset, or if its instant lies
outside the representable range. -/
def ofLocal? (z : Zone) (dt : DateTime) : Option Timestamp := do
  let offset ← z.offsetAtLocal? dt
  let instant := dt.addSeconds (-offset)
  if instant.isRepresentable then some ⟨instant, offset⟩ else none

def offsetText (offset : Int) : String :=
  let minutes := offset.natAbs / 60
  String.ofList ((if offset < 0 then '-' else '+') :: Text.padded 2 (minutes / 60) ++ [':'] ++
    Text.padded 2 (minutes % 60))

def text (t : Timestamp) : String :=
  t.localTime.textWith "T" ++ offsetText t.offset

/-- Whether an offset starts with a character; the minus sign may be the hyphen or U+2212. -/
def startsOffset (c : Char) : Bool :=
  c == 'Z' || c == 'z' || c == '+' || c == '-' || c == '\u2212'

/-- Reads an offset: `Z` for universal time, or a sign with hours and minutes. -/
def offset? : List Char → Option Int
  | ['Z'] => some 0
  | ['z'] => some 0
  | sign :: cs =>
    match Text.cutAt ':' cs with
    | [h, m] => do
      let seconds : Int := ((← Text.digits? h) * 60 + (← Text.digits? m)) * 60
      return if sign = '+' then seconds else -seconds
    | _ => none
  | [] => none

/--
Reads a date, a time and an offset as an instant. Between the date and the time stands a `T` of
either case or a space.
-/
def instantOfText? (s : String) : Option DateTime := do
  let inDate (c : Char) := c != 'T' && c != 't' && c != ' '
  let date ← Date.ofChars? (s.toList.takeWhile inDate)
  let clock := (s.toList.dropWhile inDate).drop 1
  let time ← TimeOfDay.ofChars? (clock.takeWhile fun c => !startsOffset c)
  let offset ← offset? (clock.dropWhile fun c => !startsOffset c)
  return (DateTime.of date time).addSeconds (-offset)

end Timestamp

end TypedRecords
