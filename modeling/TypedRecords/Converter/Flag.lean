import TypedRecords.Converter.Basic

namespace TypedRecords

structure NumberType (N : Type) where
  typeName : String
  zero : N
  same : N → N → Bool
  /-- The number zero or one, or the reason why the type does not hold it. -/
  ofBit : Bool → Except String N

def bitText (b : Bool) : String :=
  if b then "1" else "0"

/-- Truth values and numbers. A model value is always made, and an absent truth value is false. -/
def NumberType.flag {N : Type} (n : NumberType N) : Conversion Bool N where
  fromModel
    | none => .ok (some false)
    | some x => .ok (some (!n.same x n.zero))
  toModel b :=
    let bit := b.getD false
    match n.ofBit bit with
    | .ok x => .ok (some x)
    | .error reason => .error (.coercion (bitText bit ++ " (" ++ reason ++ ")") n.typeName)

end TypedRecords
