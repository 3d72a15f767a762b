import TypedRecords.Text.Digits

namespace TypedRecords

/-- A range of integers: the signed or unsigned numbers of some bits. -/
structure IntFormat where
  signed : Bool
  bits : Nat
  deriving DecidableEq

namespace IntFormat

def int8 : IntFormat :=
  ⟨true, 8⟩

def int16 : IntFormat :=
  ⟨true, 16⟩

def int32 : IntFormat :=
  ⟨true, 32⟩

def int64 : IntFormat :=
  ⟨true, 64⟩

def int128 : IntFormat :=
  ⟨true, 128⟩

def nat8 : IntFormat :=
  ⟨false, 8⟩

def nat16 : IntFormat :=
  ⟨false, 16⟩

def nat32 : IntFormat :=
  ⟨false, 32⟩

def nat64 : IntFormat :=
  ⟨false, 64⟩

def nat128 : IntFormat :=
  ⟨false, 128⟩

def count (bits : Nat) : Nat :=
  Nat.pow 2 bits

def least (f : IntFormat) : Int :=
  if f.signed then -(count (f.bits - 1) : Int) else 0

def greatest (f : IntFormat) : Int :=
  if f.signed then (count (f.bits - 1) : Int) - 1 else (count f.bits : Int) - 1

theorem count_pos (bits : Nat) : 0 < count bits :=
  Nat.two_pow_pos bits

theorem least_nonpos (f : IntFormat) : f.least ≤ 0 := by
  have h := count_pos (f.bits - 1)
  unfold least
  split
  · omega
  · exact Int.le_refl 0

theorem greatest_nonneg (f : IntFormat) : 0 ≤ f.greatest := by
  have h₁ := count_pos (f.bits - 1)
  have h₂ := count_pos f.bits
  unfold greatest
  split <;> omega

end IntFormat

structure Fixed (f : IntFormat) where
  val : Int
  least_le : f.least ≤ val
  le_greatest : val ≤ f.greatest
  deriving DecidableEq

namespace Fixed

variable {f : IntFormat}

def ofInt? (f : IntFormat) (n : Int) : Option (Fixed f) :=
  if h : f.least ≤ n ∧ n ≤ f.greatest then some ⟨n, h.1, h.2⟩ else none

def zero (f : IntFormat) : Fixed f :=
  ⟨0, f.least_nonpos, f.greatest_nonneg⟩

theorem ext {a b : Fixed f} (h : a.val = b.val) : a = b := by
  cases a
  cases b
  simp_all

theorem ofInt?_val (a : Fixed f) : ofInt? f a.val = some a := by
  simp [ofInt?, a.least_le, a.le_greatest]

instance : Ord (Fixed f) :=
  ⟨compareOn Fixed.val⟩

instance : Std.TransOrd (Fixed f) :=
  inferInstanceAs (Std.TransCmp (compareOn Fixed.val))

def text (a : Fixed f) : String :=
  toString a.val

def ofText? (f : IntFormat) (s : String) : Option (Fixed f) := do
  ofInt? f (← Text.int? s.toList)

end Fixed

end TypedRecords
