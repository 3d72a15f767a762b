import TypedRecords.Collection.Sorted
import TypedRecords.Converter.Basic

namespace TypedRecords

/-- Collections whose elements can be gone through and to which one can be added. -/
class Gathering (C : Type) (E : outParam Type) where
  toList : C → List E
  add : C → E → C

instance {E : Type} : Gathering (List E) E where
  toList xs := xs
  add xs x := xs ++ [x]

instance {E : Type} [Ord E] [Std.TransOrd E] : Gathering (SortedSet E) E where
  toList s := s.toList
  add s x := s.insert x

/-- Converts elements one after the other and adds those that are present to a collection. -/
def gather {A B C : Type} [Gathering C B] (convert : A → Except ConversionError (Option B)) :
    C → List A → Except ConversionError C
  | gathered, [] => .ok gathered
  | gathered, x :: rest => do
    match ← convert x with
    | none => gather convert gathered rest
    | some y => gather convert (Gathering.add gathered y) rest

def Conversion.each {T M C D : Type} [Gathering C T] [Gathering D M] (element : Conversion T M)
    (start : C) (startModel : D) : Conversion C D :=
  .ofFunctions
    (fun model => gather (fun m => element.fromModel (some m)) start (Gathering.toList model))
    (fun values => gather (fun t => element.toModel (some t)) startModel (Gathering.toList values))

end TypedRecords
