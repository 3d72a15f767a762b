import TypedRecords.Text.Digits
import TypedRecords.Text.Pieces

namespace TypedRecords

/-- The bits of a mantissa, and the exponents of the smallest and of the greatest numbers. -/
structure BinaryFormat where
  precision : Nat
  minExponent : Int
  maxExponent : Int
  deriving DecidableEq

def BinaryFormat.single : BinaryFormat :=
  ⟨24, -149, 104⟩

def BinaryFormat.double : BinaryFormat :=
  ⟨53, -1074, 971⟩

/-- A number of a format: no number, an infinity, or a mantissa times a power of two. -/
inductive Binary (f : BinaryFormat) where
  | nan
  | infinite (negative : Bool)
  | finite (negative : Bool) (mantissa : Nat) (exponent : Int)
  deriving DecidableEq

namespace Binary

variable {f : BinaryFormat}

def zero : Binary f :=
  .finite false 0 f.minExponent

def scaled (base n : Nat) (e : Int) : Nat × Nat :=
  if 0 ≤ e then (n * Nat.pow base e.toNat, 1) else (n, Nat.pow base e.natAbs)

/-- The integer nearest to a fraction, of two equally near the even one. -/
def nearestEven (num den : Nat) : Nat :=
  let q := num / den
  let twice := 2 * (num % den)
  if den < twice ∨ twice = den ∧ q % 2 = 1 then q + 1 else q

/-- The greatest `e` for which the positive fraction is at least `2 ^ e`. -/
def log2 (num den : Nat) : Int :=
  let e : Int := (num.log2 : Int) - den.log2
  let (n, d) := scaled 2 den e
  if n ≤ num * d then e else e - 1

def ofFraction (f : BinaryFormat) (negative : Bool) (num den : Nat) : Binary f :=
  if num = 0 then .finite negative 0 f.minExponent
  else
    let e := max f.minExponent (log2 num den - f.precision + 1)
    let (n, d) := scaled 2 1 (-e)
    let m := nearestEven (num * n) (den * d)
    let (m, e) :=
      if m = Nat.pow 2 f.precision then (Nat.pow 2 (f.precision - 1), e + 1) else (m, e)
    if f.maxExponent < e then .infinite negative else .finite negative m e

/-- Reads the digits of a number: a whole part, and perhaps a fraction. -/
def mantissa? (cs : List Char) : Option (Nat × Int) :=
  match Text.cutAt '.' cs with
  | [whole] => (Text.digits? whole).map (·, 0)
  | [whole, fraction] =>
    if fraction.isEmpty then (Text.digits? whole).map (·, 0)
    else (Text.digits? (whole ++ fraction)).map (·, -(fraction.length : Int))
  | _ => none

/--
The number of the format nearest to `n · 10 ^ e`. A power of ten lies beyond the power of eight with
the same exponent, so most exponents that are out of reach are seen from the binary digits of `n`.
-/
def ofDecimal (f : BinaryFormat) (negative : Bool) (n : Nat) (e : Int) : Binary f :=
  if n = 0 then .finite negative 0 f.minExponent
  else if 0 ≤ e ∧ f.maxExponent + f.precision ≤ n.log2 + 3 * e then .infinite negative
  else if e < 0 ∧ n.log2 + 3 * e + 2 ≤ f.minExponent then .finite negative 0 f.minExponent
  else
    let (num, den) := scaled 10 n e
    ofFraction f negative num den

def ofUnsigned? (f : BinaryFormat) (negative : Bool) (cs : List Char) : Option (Binary f) := do
  let cs := cs.map Char.toLower
  if cs = "nan".toList then return .nan
  else if cs = "inf".toList ∨ cs = "infinity".toList then return .infinite negative
  else
    let (digits, exponent) ←
      match Text.cutAt 'e' cs with
      | [digits] => some (digits, 0)
      | [digits, exponent] => (Text.int? exponent).map (digits, ·)
      | _ => none
    let (n, shift) ← mantissa? digits
    return ofDecimal f negative n (exponent + shift)

def ofText? (f : BinaryFormat) (s : String) : Option (Binary f) :=
  match s.toList with
  | '-' :: cs => ofUnsigned? f true cs
  | '+' :: cs => ofUnsigned? f false cs
  | cs => ofUnsigned? f false cs

def magnitudeLE (m : Nat) (d : Int) (m' : Nat) (d' : Int) : Bool :=
  let least := min d d'
  m * Nat.pow 2 (d - least).toNat ≤ m' * Nat.pow 2 (d' - least).toNat

/-- The order of numbers; what is no number is not comparable, and the two zeros are equal. -/
def le : Binary f → Binary f → Bool
  | .nan, _ => false
  | _, .nan => false
  | .infinite true, _ => true
  | _, .infinite false => true
  | .infinite false, _ => false
  | _, .infinite true => false
  | .finite false m e, .finite false m' e' => magnitudeLE m e m' e'
  | .finite true m e, .finite true m' e' => magnitudeLE m' e' m e
  | .finite true _ _, .finite false _ _ => true
  | .finite false m _, .finite true m' _ => m == 0 && m' == 0

/-- Equality of numbers: what is no number equals nothing, and the two zeros are equal. -/
def same (a b : Binary f) : Bool :=
  le a b && le b a

end Binary

end TypedRecords
