import TypedRecords.Number.Binary

/-!
Of the decimals that round to a number those with the fewest digits are taken, of these the
nearest, and of two equally near the greater.
-/

namespace TypedRecords.Binary

/--
Decimal digits and the place of the point: the digits stand after it, shifted by the exponent.
-/
structure Decimal where
  digits : List Char
  point : Int

/-- The `p` for which the positive fraction is at least `10 ^ (p - 1)` and less than `10 ^ p`. -/
def decimalPoint (num den : Nat) : Int :=
  if den ≤ num then ((Text.decimalDigits (num / den)).length : Int)
  else 1 - (Text.decimalDigits ((den + num - 1) / num - 1)).length

def Decimal.ofUnits (d : Nat) (unit : Int) : Decimal :=
  let digits := Text.decimalDigits d
  { digits := (digits.reverse.dropWhile (· == '0')).reverse
    point := digits.length + unit }

/--
The decimal of exactly `count` digits nearest to `mantissa · 2 ^ exponent` that still rounds to it.
The numbers that round to it reach from half the gap below to half the gap above it; they are
compared in quarters of the gap above.
-/
def decimalOfLength? (f : BinaryFormat) (mantissa : Nat) (exponent : Int) (count : Nat) :
    Option Decimal :=
  let (num, den) := scaled 2 (4 * mantissa) (exponent - 2)
  let (quarter, _) := scaled 2 1 (exponent - 2)
  let below := if mantissa = Nat.pow 2 (f.precision - 1) ∧ f.minExponent < exponent then 1 else 2
  let unit := decimalPoint num den - count
  let (unitNum, unitDen) := scaled 10 1 unit
  let step := unitNum * den
  let target := num * unitDen
  let low := target - below * quarter * unitDen
  let high := target + 2 * quarter * unitDen
  let reads (d : Nat) : Bool :=
    if mantissa % 2 = 0 then low ≤ d * step && d * step ≤ high
    else low < d * step && d * step < high
  let d := target / step
  let downward := target - d * step
  let upward := (d + 1) * step - target
  if reads d && (downward < upward || !reads (d + 1)) then some (.ofUnits d unit)
  else if reads (d + 1) then some (.ofUnits (d + 1) unit)
  else none

def shortest (f : BinaryFormat) (mantissa : Nat) (exponent : Int) : Decimal :=
  ((List.range 17).findSome? fun n => decimalOfLength? f mantissa exponent (n + 1)).getD
    ⟨[], 0⟩

structure Notation where
  positional : Int → Bool
  wholeSuffix : List Char

/-- Plain numbers: never an exponent, and nothing after a whole number. -/
def plain : Notation :=
  ⟨fun _ => true, []⟩

/-- Numbers that show they are real: an exponent outside `1e-4` to `1e16`, and `.0` when whole. -/
def explicit : Notation :=
  ⟨fun point => -3 ≤ point && point ≤ 16, ['.', '0']⟩

def positionalText (wholeSuffix : List Char) (d : Decimal) : List Char :=
  if d.point ≤ 0 then ['0', '.'] ++ List.replicate d.point.natAbs '0' ++ d.digits
  else
    let whole := d.point.toNat
    if d.digits.length ≤ whole then
      d.digits ++ List.replicate (whole - d.digits.length) '0' ++ wholeSuffix
    else d.digits.take whole ++ ['.'] ++ d.digits.drop whole

def exponentText (d : Decimal) : List Char :=
  let exponent := ['e'] ++ (toString (d.point - 1)).toList
  match d.digits with
  | [] => ['0'] ++ exponent
  | [digit] => digit :: exponent
  | digit :: rest => digit :: '.' :: rest ++ exponent

def textWith {f : BinaryFormat} (n : Notation) : Binary f → String
  | .nan => "NaN"
  | .infinite negative => if negative then "-inf" else "inf"
  | .finite negative mantissa exponent =>
    let sign := if negative then ['-'] else []
    if mantissa = 0 then String.ofList (sign ++ ['0'] ++ n.wholeSuffix)
    else
      let d := shortest f mantissa exponent
      String.ofList <|
        sign ++ if n.positional d.point then positionalText n.wholeSuffix d else exponentText d

end TypedRecords.Binary
