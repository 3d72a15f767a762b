import TypedRecords.Catalogue.Profile
import TypedRecords.Converter.Calendar
import TypedRecords.Converter.Collection
import TypedRecords.Converter.Enumeration
import TypedRecords.Converter.Flag
import TypedRecords.Converter.Structured
import TypedRecords.Number.Reading

namespace TypedRecords.Catalogue

inductive Choice where
  | flag (model : Kind)
  | json
  | enumName
  | enumOrdinal
  | clock
  | cents
  | marked
  | selective
  /-- Lists element by element; truth values become numbers. -/
  | list (element : Option Choice)
  /-- Lists of cents behind the elements that a collection starts with. -/
  | seeded
  | listFromSet
  | set
  | setFromList

def statuses (typeName : String) : Enumeration Status :=
  ⟨typeName, Status.all, Status.constantName⟩

def levels (typeName : String) : Enumeration Level :=
  ⟨typeName, Level.listed, Level.constantName⟩

def noConstants (typeName : String) : Enumeration Empty :=
  ⟨typeName, [], nofun⟩

def fixedNumber (f : IntFormat) (typeName : String) : NumberType (Fixed f) where
  typeName
  zero := Fixed.zero f
  same a b := a == b
  ofBit b :=
    match Fixed.ofInt? f (if b then 1 else 0) with
    | some n => .ok n
    | none => .error "TooBig"

def binaryNumber (f : BinaryFormat) (typeName : String) : NumberType (Binary f) where
  typeName
  zero := Binary.zero
  same := Binary.same
  ofBit b := .ok (Binary.ofFraction f false (if b then 1 else 0) 1)

def zeroOnlyNumber (typeName : String) : NumberType ZeroOnly where
  typeName
  zero := ⟨Fixed.zero .int64⟩
  same a b := a == b
  ofBit b := if b then .error "TooBig" else .ok ⟨Fixed.zero .int64⟩

/-- Integers as decimal texts, which cannot be negative. -/
def centsText : Conversion (Fixed .int64) String :=
  .ofFunctions
    (fun s =>
      match Fixed.read .int64 s.toList with
      | .ok n => .ok n
      | .error e => .error (.failed e.text))
    (fun n => if n.val < 0 then .error (.failed "negative") else .ok n.text)

def markedText : Conversion String String :=
  .ofFunctions
    (fun s =>
      match s.toList with
      | 'm' :: ':' :: rest => .ok (String.ofList rest)
      | _ => .error (.failed "no prefix"))
    (fun s => .ok ("m:" ++ s))

/-- Integers as themselves, where odd models and negative values are left out. -/
def selectiveInt : Conversion (Fixed .int64) (Fixed .int64) where
  fromModel m := .ok (m.filter fun n => n.val % 2 == 0)
  toModel v := .ok (v.filter fun n => decide (0 ≤ n.val))

def pointCodec : Codec Point :=
  (Codec.fields "x" "y" (Codec.fixed .int32) (Codec.fixed .int32)).map (fun p => ⟨p.1, p.2⟩)
    (fun p => (p.x, p.y))

def temporalCodec : Codec TemporalPart :=
  Codec.constants TemporalPart.all TemporalPart.text

def codec? : (k : Kind) → Option (Codec k.El)
  | .one .bool => some Codec.bool
  | .one (.int f) => some (Codec.fixed f)
  | .one .text => some Codec.string
  | .one .point => some pointCodec
  | .one .temporal => some temporalCodec
  | .list .int64 => some (Codec.list (Codec.fixed .int64))
  | .list .text => some (Codec.list Codec.string)
  | .set .int64 => some (Codec.sortedSet (Codec.fixed .int64))
  | .map => some (Codec.sortedMap (Codec.fixed .int64))
  | _ => none

def flag? (names : Kind → String) : (model : Kind) → Option (Converter (kinds names) (.one .bool))
  | .one (.int f) => some ⟨.one (.int f), (fixedNumber f (names (.one (.int f)))).flag⟩
  | .one .zeroOnly => some ⟨.one .zeroOnly, (zeroOnlyNumber (names (.one .zeroOnly))).flag⟩
  | _ => none

def bitFlag (names : Kind → String) : Conversion Bool (Fixed .int32) :=
  (fixedNumber .int32 (names (.one (.int .int32)))).flag

/-- The converter that a choice stands for on properties of a kind, in a time zone. -/
def Choice.converter? (names : Kind → String) (zone : Zone) :
    Choice → (k : Kind) → Option (Converter (kinds names) k)
  | .flag model, .one .bool => flag? names model
  | .json, k => (codec? k).map fun c => ⟨.one .text, c.conversion⟩
  | .enumName, .one .status => some ⟨.one .text, (statuses (names (.one .status))).byName⟩
  | .enumName, .one .level => some ⟨.one .text, (levels (names (.one .level))).byName⟩
  | .enumOrdinal, .one .status =>
    some ⟨.one (.int .int64), (statuses (names (.one .status))).byOrdinal⟩
  | .enumOrdinal, .one .level =>
    some ⟨.one (.int .int64), (levels (names (.one .level))).byOrdinal⟩
  | .clock, .one .date => some ⟨.one .timestamp, Date.conversion zone⟩
  | .clock, .one .dateTime => some ⟨.one .timestamp, DateTime.conversion zone⟩
  | .clock, .one .time => some ⟨.one .timestamp, TimeOfDay.conversion zone⟩
  | .cents, .one (.int ⟨true, 64⟩) => some ⟨.one .text, centsText⟩
  | .marked, .one .text => some ⟨.one .text, markedText⟩
  | .selective, .one (.int ⟨true, 64⟩) => some ⟨.one (.int .int64), selectiveInt⟩
  | .list none, .list .bool => some ⟨.list .int32, Conversion.each (bitFlag names) [] []⟩
  | .list (some .cents), .list .int64 => some ⟨.list .text, Conversion.each centsText [] []⟩
  | .list (some .selective), .list .int64 => some ⟨.list .int64, Conversion.each selectiveInt [] []⟩
  | .list (some .enumName), .list .status =>
    some ⟨.list .text, Conversion.each (statuses (names (.one .status))).byName [] []⟩
  | .list (some .enumOrdinal), .list .status =>
    some ⟨.list .int64, Conversion.each (statuses (names (.one .status))).byOrdinal [] []⟩
  | .seeded, .list .int64 =>
    let start := [100, 200].filterMap (Fixed.ofInt? .int64)
    some ⟨.list .text, Conversion.each centsText start ["seed"]⟩
  | .listFromSet, .list .status =>
    let start : SortedSet String := SortedBy.empty
    some ⟨.set .text, Conversion.each (statuses (names (.one .status))).byName [] start⟩
  | .set, .set .bool =>
    let start : SortedSet Bool := SortedBy.empty
    let startModel : SortedSet (Fixed .int32) := SortedBy.empty
    some ⟨.set .int32, Conversion.each (bitFlag names) start startModel⟩
  | .set, .set .status =>
    let start : SortedSet Status := SortedBy.empty
    let startModel : SortedSet String := SortedBy.empty
    some ⟨.set .text, Conversion.each (statuses (names (.one .status))).byName start startModel⟩
  | .setFromList, .set .status =>
    let start : SortedSet Status := SortedBy.empty
    some ⟨.list .text, Conversion.each (statuses (names (.one .status))).byName start []⟩
  | _, _ => none

end TypedRecords.Catalogue
