import TypedRecords.Error
import TypedRecords.Value

/-!
A model is another form of the information in a value: an enumeration as a name, a date as a
timestamp.
-/

namespace TypedRecords

/-- A pair of maps between a type and its model, absent values included. -/
structure Conversion (T M : Type) where
  fromModel : Option M → Except ConversionError (Option T)
  toModel : Option T → Except ConversionError (Option M)
  /-- What part of a timestamp the values stand for, if they stand for one. -/
  temporal : Option TemporalPart := none

def Conversion.ofFunctions {T M : Type} (fromModel : M → Except ConversionError T)
    (toModel : T → Except ConversionError M) : Conversion T M where
  fromModel
    | none => .ok none
    | some m => (fromModel m).map some
  toModel
    | none => .ok none
    | some t => (toModel t).map some

structure Converter (U : Universe) (k : U.Kind) where
  modelKind : U.Kind
  conversion : Conversion (U.El k) (U.El modelKind)

namespace Converter

variable {U : Universe} {k : U.Kind}

/-- The value as one of the kind that is read; an absent value is of every kind. -/
def expect (k : U.Kind) : Option (Value U) → Except ConversionError (Option (U.El k))
  | none => .ok none
  | some v =>
    match v.as? k with
    | some x => .ok (some x)
    | none => .error (.wrongType (U.name k) v.typeName)

def fromModel (c : Converter U k) (m : Option (Value U)) :
    Except ConversionError (Option (Value U)) := do
  return (← c.conversion.fromModel (← expect c.modelKind m)).map (Value.mk k)

def toModel (c : Converter U k) (v : Option (Value U)) :
    Except ConversionError (Option (Value U)) := do
  return (← c.conversion.toModel (← expect k v)).map (Value.mk c.modelKind)

end Converter

end TypedRecords
