import TypedRecords.Calendar.Timestamp
import TypedRecords.Collection.Sorted
import TypedRecords.Number.Fixed
import TypedRecords.Number.Shortest
import TypedRecords.Value

namespace TypedRecords.Catalogue

inductive Status where
  | active
  | suspended
  | closed
  deriving DecidableEq

namespace Status

def rank : Status → Nat
  | .active => 0
  | .suspended => 1
  | .closed => 2

def all : List Status :=
  [.active, .suspended, .closed]

def text : Status → String
  | .active => "Active"
  | .suspended => "Suspended"
  | .closed => "Closed"

def constantName : Status → String
  | .active => "ACTIVE"
  | .suspended => "SUSPENDED"
  | .closed => "CLOSED"

instance : Ord Status :=
  ⟨compareOn rank⟩

instance : Std.TransOrd Status :=
  inferInstanceAs (Std.TransCmp (compareOn rank))

end Status

/-- A level. Two levels share a name, and one is not listed among the constants. -/
inductive Level where
  | low
  | mid
  | high
  | otherMid
  | off
  deriving DecidableEq

namespace Level

def all : List Level :=
  [.low, .mid, .high, .otherMid, .off]

def listed : List Level :=
  [.low, .mid, .high, .otherMid]

def text : Level → String
  | .low => "Low"
  | .mid => "Mid"
  | .high => "High"
  | .otherMid => "Alias"
  | .off => "Off"

def constantName : Level → String
  | .low => "LOW"
  | .mid => "MID"
  | .high => "HIGH"
  | .otherMid => "MID"
  | .off => "OFF"

def rank : Level → Nat
  | .low => 0
  | .mid => 1
  | .high => 2
  | .otherMid => 3
  | .off => 4

end Level

structure Point where
  x : Fixed .int32
  y : Fixed .int32
  deriving DecidableEq

/-- A number type that takes over no small number but zero. -/
structure ZeroOnly where
  val : Fixed .int64
  deriving DecidableEq

namespace TemporalPart

def all : List TemporalPart :=
  [.date, .time, .dateTime]

def text : TemporalPart → String
  | .date => "Date"
  | .time => "Time"
  | .dateTime => "DateTime"

def rank : TemporalPart → Nat
  | .date => 0
  | .time => 1
  | .dateTime => 2

end TemporalPart

inductive Scalar where
  | text
  | bool
  | int (f : IntFormat)
  | zeroOnly
  | date
  | dateTime
  | time
  | timestamp
  | status
  | level
  | point
  | temporal
  deriving DecidableEq

abbrev Scalar.El : Scalar → Type
  | .text => String
  | .bool => Bool
  | .int f => Fixed f
  | .zeroOnly => ZeroOnly
  | .date => Date
  | .dateTime => DateTime
  | .time => TimeOfDay
  | .timestamp => Timestamp
  | .status => Status
  | .level => Level
  | .point => Point
  | .temporal => TemporalPart

inductive Element where
  | bool
  | int32
  | int64
  | text
  | status
  deriving DecidableEq

def Element.scalar : Element → Scalar
  | .bool => .bool
  | .int32 => .int .int32
  | .int64 => .int .int64
  | .text => .text
  | .status => .status

abbrev Element.El : Element → Type
  | .bool => Bool
  | .int32 => Fixed .int32
  | .int64 => Fixed .int64
  | .text => String
  | .status => Status

def Element.toScalar : (e : Element) → e.El → e.scalar.El
  | .bool, x => x
  | .int32, x => x
  | .int64, x => x
  | .text, x => x
  | .status, x => x

def Element.ofScalar : (e : Element) → e.scalar.El → e.El
  | .bool, x => x
  | .int32, x => x
  | .int64, x => x
  | .text, x => x
  | .status, x => x

instance : (e : Element) → Ord e.El
  | .bool => inferInstanceAs (Ord Bool)
  | .int32 => inferInstanceAs (Ord (Fixed .int32))
  | .int64 => inferInstanceAs (Ord (Fixed .int64))
  | .text => inferInstanceAs (Ord String)
  | .status => inferInstanceAs (Ord Status)

instance : (e : Element) → Std.TransOrd e.El
  | .bool => inferInstanceAs (Std.TransOrd Bool)
  | .int32 => inferInstanceAs (Std.TransOrd (Fixed .int32))
  | .int64 => inferInstanceAs (Std.TransOrd (Fixed .int64))
  | .text => inferInstanceAs (Std.TransOrd String)
  | .status => inferInstanceAs (Std.TransOrd Status)

inductive Kind where
  | one (s : Scalar)
  | list (e : Element)
  | set (e : Element)
  | map
  deriving DecidableEq

abbrev Kind.El : Kind → Type
  | .one s => s.El
  | .list e => List e.El
  | .set e => SortedSet e.El
  | .map => SortedMap String (Fixed .int64)

end TypedRecords.Catalogue
