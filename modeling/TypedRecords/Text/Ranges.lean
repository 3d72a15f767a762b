namespace TypedRecords.Text

/-- Whether a code point lies in one of the ranges, ends included. -/
def inRanges (ranges : List (Nat × Nat)) (c : Char) : Bool :=
  ranges.any fun r => r.1 ≤ c.toNat && c.toNat ≤ r.2

/--
Where a code point is moved to: a row `(first, last, stride, shift)` moves every `stride`-th code
point from `first` to `last` by `shift`; a code point of no row stays.
-/
def shifted (rows : List (Nat × Nat × Nat × Int)) (c : Char) : Char :=
  match rows.find? fun r => r.1 ≤ c.toNat && c.toNat ≤ r.2.1 && (c.toNat - r.1) % r.2.2.1 == 0 with
  | some r => Char.ofNat (c.toNat + r.2.2.2).toNat
  | none => c

end TypedRecords.Text
