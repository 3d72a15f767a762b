import TypedRecords.Text.Digits

/-!
Identities are chosen by the caller, who gives each built thing its own; the library only compares
them and writes them out.
-/

namespace TypedRecords

/-- An identity: 122 freely chosen bits, which is what a random UUID holds. -/
structure Ident where
  bits : BitVec 122
  deriving DecidableEq

namespace Ident

/--
The text of an identity in the layout of a version 4 UUID: five groups of 8, 4, 4, 4 and 12
hexadecimal digits, the third starting with the version and the fourth with the variant bits.
-/
def text (i : Ident) : String :=
  let n := i.bits.toNat
  let high := Text.hexDigits 12 (n / Nat.pow 2 74)
  let middle := Text.hexDigits 3 (n / Nat.pow 2 62)
  let low := Text.hexDigits 16 (Nat.pow 2 63 + n % Nat.pow 2 62)
  String.ofList (high.take 8 ++ ['-'] ++ high.drop 8 ++ ['-', '4'] ++ middle ++ ['-'] ++
    low.take 4 ++ ['-'] ++ low.drop 4)

end Ident

end TypedRecords
