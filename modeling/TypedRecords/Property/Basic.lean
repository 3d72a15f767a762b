import TypedRecords.Property.Identity

/-!
Computations are programs as data: a program names a property, is given what reading it yields,
and goes on from there.
-/

namespace TypedRecords

mutual

inductive Provider (U : Universe) : U.Kind → Type where
  | missing {k : U.Kind} : Provider U k
  | computed {k : U.Kind} (computation : Computation U k) : Provider U k

/-- A computation over a record that yields an optional value of a kind. -/
inductive Computation (U : Universe) : U.Kind → Type where
  | answer {k : U.Kind} (result : Except Error (Option (U.El k))) : Computation U k
  | read {k : U.Kind} (d : Descriptor U) (provider : Provider U d.kind)
      (next : Except Error (Option (U.El d.kind)) → Computation U k) : Computation U k
  | has {k : U.Kind} (d : Descriptor U) (provider : Provider U d.kind)
      (next : Bool → Computation U k) : Computation U k
  | stored {k : U.Kind} (next : List (Descriptor U × Value U) → Computation U k) :
      Computation U k

end

/-- A property. The provider of a path property is never asked. -/
structure Property (U : Universe) extends Descriptor U where
  provider : Provider U kind

namespace Property

variable {U : Universe}

instance : BEq (Property U) :=
  ⟨fun p q => p.toDescriptor == q.toDescriptor⟩

def read {k : U.Kind} (p : Property U)
    (next : Except Error (Option (U.El p.kind)) → Computation U k) : Computation U k :=
  .read p.toDescriptor p.provider next

def has {k : U.Kind} (p : Property U) (next : Bool → Computation U k) : Computation U k :=
  .has p.toDescriptor p.provider next

end Property

namespace Property

variable {U : Universe}

/-- A value of the property in the form of its model, or itself if there is no converter. -/
def model (p : Property U) (v : Option (Value U)) : Except Error (Option (Value U)) :=
  match p.attributes.converter with
  | none => .ok v
  | some converter =>
    match converter.toModel v with
    | .ok m => .ok m
    | .error e => .error (.conversion e)

def modelAs (p : Property U) (k : U.Kind) (v : Option (Value U)) :
    Except Error (Option (U.El k)) := do
  match ← p.model v with
  | none => return none
  | some m =>
    match m.as? k with
    | some x => return some x
    | none => .error (.property (.typeMismatch p.relativeName (U.name k) m.typeName))

end Property

/-- A typed handle: a property with values of kind `k`. -/
structure Typed (U : Universe) (k : U.Kind) where
  property : Property U
  kind_eq : property.kind = k

def Property.typed? {U : Universe} (p : Property U) (k : U.Kind) : Option (Typed U k) :=
  if h : p.kind = k then some ⟨p, h⟩ else none

namespace Computation

variable {U : Universe} {k : U.Kind}

/-- Yields a value, or absence, whatever the record. -/
def constant (x : Option (U.El k)) : Computation U k :=
  .answer (.ok x)

def fail (e : Error) : Computation U k :=
  .answer (.error e)

def valueOf : Typed U k → Computation U k
  | ⟨p, h⟩ => p.read fun result => .answer (h ▸ result)

def modelOf (p : Property U) (k : U.Kind) : Computation U k :=
  p.read fun result => .answer <| do
    p.modelAs k ((← result).map (Value.mk p.kind))

end Computation

end TypedRecords
