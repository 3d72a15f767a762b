import TypedRecords.Converter.Calendar
import TypedRecords.Converter.Collection
import TypedRecords.Converter.Enumeration
import TypedRecords.Converter.Flag
import TypedRecords.Converter.Structured

namespace TypedRecords

namespace Conversion

/-- The conversion is one of the library. -/
inductive Standard : {T M : Type} → Conversion T M → Prop
  | ofFunctions {T M : Type} (f : M → Except ConversionError T) (g : T → Except ConversionError M) :
      Standard (.ofFunctions f g)
  | flag {N : Type} (n : NumberType N) : Standard n.flag
  | byName {E : Type} (e : Enumeration E) : Standard e.byName
  | byOrdinal {E : Type} [DecidableEq E] (e : Enumeration E) : Standard e.byOrdinal
  | date (z : Zone) : Standard (Date.conversion z)
  | dateTime (z : Zone) : Standard (DateTime.conversion z)
  | timeOfDay (z : Zone) : Standard (TimeOfDay.conversion z)
  | each {T M C D : Type} [Gathering C T] [Gathering D M] (element : Conversion T M) (start : C)
      (startModel : D) : Standard (.each element start startModel)
  | json {T : Type} (c : Codec T) : Standard c.conversion

variable {T M : Type} {c : Conversion T M}

/-- The conversion makes a model value of every value and gives the value back for it, and absence
can be converted as well. -/
structure GivesBack (c : Conversion T M) : Prop where
  present : ∀ t, ∃ m, c.toModel (some t) = .ok (some m) ∧ c.fromModel (some m) = .ok (some t)
  absent : ∃ m, c.toModel none = .ok m

end Conversion

namespace Converter

variable {U : Universe} {k : U.Kind} {c : Converter U k}

theorem expect_map (x : Option (U.El k)) : expect k (x.map (Value.mk k)) = .ok x := by
  cases x <;> simp [expect, Value.as?]

theorem toModel_map (c : Converter U k) (x : Option (U.El k)) :
    c.toModel (x.map (Value.mk k)) =
      (c.conversion.toModel x).map (Option.map (Value.mk c.modelKind)) := by
  rw [toModel, expect_map]
  change (c.conversion.toModel x >>= _) = _
  cases c.conversion.toModel x <;> rfl

end Converter

end TypedRecords
