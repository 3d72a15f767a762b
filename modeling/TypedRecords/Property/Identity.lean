import TypedRecords.Property.Signature

/-!
Properties are told apart by the identity they were built with, unless both carry the same
strategy, which then decides.
-/

namespace TypedRecords

/-- A strategy that decides when properties are equal, and what they hand to a hasher. -/
structure Identity (U : Universe) where
  key : Nat
  same : Signature U → Signature U → Bool
  feed : Signature U → Feed U.Kind

namespace Identity

variable {U : Universe}

/-- Properties with the same relative name and the same kind of values are equal. -/
def byName : Identity U where
  key := 0
  same a b := a.relativeName == b.relativeName && decide (a.kind = b.kind)
  feed s := [.text s.relativeName, .kind s.kind]

end Identity

/-- A property without the way it is computed: enough to tell it apart and to look it up. -/
structure Descriptor (U : Universe) extends Signature U where
  identity : Option (Identity U) := none

namespace Descriptor

variable {U : Universe}

def same (a b : Descriptor U) : Bool :=
  if a.id = b.id then true
  else
    match a.identity, b.identity with
    | some i, some j => i.key == j.key && i.same a.toSignature b.toSignature
    | _, _ => false

instance : BEq (Descriptor U) :=
  ⟨same⟩

def feed (d : Descriptor U) : Feed U.Kind :=
  match d.identity with
  | some i => i.feed d.toSignature
  | none => [.ident d.id]

end Descriptor

end TypedRecords
