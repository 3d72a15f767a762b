import TypedRecords.Converter.Basic
import TypedRecords.Number.Fixed

namespace TypedRecords

/-- The listed constants of a type, and the names of its values. -/
structure Enumeration (E : Type) where
  typeName : String
  constants : List E
  nameOf : E → String

namespace Enumeration

variable {E : Type}

def ordinal? [DecidableEq E] (e : Enumeration E) (x : E) : Option Nat :=
  e.constants.findIdx? fun c => decide (c = x)

def byName (e : Enumeration E) : Conversion E String :=
  .ofFunctions
    (fun name =>
      match e.constants.find? fun c => e.nameOf c == name with
      | some c => .ok c
      | none => .error (.unknownName name e.typeName))
    (fun c => .ok (e.nameOf c))

def atOrdinal? (e : Enumeration E) (n : Int) : Option E :=
  if 0 ≤ n then e.constants[n.toNat]? else none

def byOrdinal [DecidableEq E] (e : Enumeration E) : Conversion E (Fixed .int64) :=
  .ofFunctions
    (fun n =>
      match e.atOrdinal? n.val with
      | some c => .ok c
      | none => .error (.ordinalOutOfRange n.val e.typeName e.constants.length))
    (fun c =>
      match (e.ordinal? c).bind fun n => Fixed.ofInt? .int64 n with
      | some n => .ok n
      | none => .error (.unknownName (e.nameOf c) e.typeName))

end Enumeration

end TypedRecords
