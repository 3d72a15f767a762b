import TypedRecords.Text.Blank
import TypedRecords.Text.Fold
import TypedRecords.Text.Word

namespace TypedRecords

inductive CharSet where
  | empty
  | char (c : Char)
  | range (first last : Char)
  | digit
  | word
  | blank
  | union (a b : CharSet)
  | inter (a b : CharSet)
  | symmetricDifference (a b : CharSet)
  | complement (a : CharSet)
  | anyCase (a : CharSet)
  /-- The characters of which some case is in the set, where only ASCII letters have cases. -/
  | anyAsciiCase (a : CharSet)
  deriving DecidableEq

namespace CharSet

/-- The characters that are folded to the same form as `c`, that form included. -/
def cases (c : Char) : List Char :=
  let folded := Text.foldChar c
  let fromRow (r : Nat × Nat × Nat × Int) : Option Char :=
    let n := (folded.toNat : Int) - r.2.2.2
    if r.1 ≤ n ∧ n ≤ r.2.1 ∧ (n - r.1) % r.2.2.1 = 0 then some (Char.ofNat n.toNat) else none
  (folded :: folded.toUpper :: Text.foldRows.filterMap fromRow).eraseDups

def holds : CharSet → Char → Bool
  | .empty, _ => false
  | .char c, x => x == c
  | .range first last, x => first ≤ x && x ≤ last
  | .digit, x => Text.isDecimalDigit x
  | .word, x => Text.isWordChar x
  | .blank, x => Text.isBlank x
  | .union a b, x => a.holds x || b.holds x
  | .inter a b, x => a.holds x && b.holds x
  | .symmetricDifference a b, x => a.holds x != b.holds x
  | .complement a, x => !a.holds x
  | .anyCase a, x => a.holds x || (cases x).any a.holds
  | .anyAsciiCase a, x => a.holds x || a.holds x.toLower || a.holds x.toUpper

def ofChars (cs : List Char) : CharSet :=
  cs.foldr (fun c set => .union (.char c) set) .empty

def ofRanges (ranges : List (Char × Char)) : CharSet :=
  ranges.foldr (fun r set => .union (.range r.1 r.2) set) .empty

def difference (a b : CharSet) : CharSet :=
  .inter a (.complement b)

def all : CharSet :=
  .complement .empty

end CharSet

end TypedRecords
