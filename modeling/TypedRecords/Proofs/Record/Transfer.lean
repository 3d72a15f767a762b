import TypedRecords.Catalogue.Conversions
import TypedRecords.Proofs.Converter.Standard
import TypedRecords.Proofs.Record.Order
import TypedRecords.Proofs.Record.Validity
import TypedRecords.Proofs.Sample

namespace TypedRecords

variable {U : Universe} {P : Population U} {s : Schema U}

namespace Property

/-- A path property that can be written, without a converter or with one of the library that gives
back what it is given. -/
structure Transferable (p : Property U) : Prop where
  writable : p.isReadOnly = false
  converter : ∀ c, p.attributes.converter = some c →
    c.conversion.Standard ∧ c.conversion.GivesBack

theorem Transferable.path {p : Property U} (h : p.Transferable) : p.isVirtual = false :=
  (Bool.or_eq_false_iff.mp h.writable).1

end Property

namespace Contents

end Contents

namespace Schema.ByReference

end Schema.ByReference

namespace Record.MadeBy

variable {r : Record U} {es : List (Edit U)}

end Record.MadeBy

namespace Sample

def catalogue : Universe :=
  Catalogue.kinds fun _ => ""

def bit : Conversion Bool (Fixed .int64) :=
  (Catalogue.fixedNumber .int64 "").flag

def active : Property catalogue :=
  PathDraft.build (k := Catalogue.Kind.one .bool)
    { name := "active", attributes := { converter := some ⟨.one (.int .int64), bit⟩ } } ⟨20⟩

def nickname : Property catalogue :=
  PathDraft.build (k := Catalogue.Kind.one .text)
    { name := "nickname", attributes := { converter := some ⟨.one .text, marked⟩ } } ⟨21⟩

def profile : Population catalogue :=
  .ofList ([active, nickname].map Property.toDescriptor) (by decide) (by
    intro d hd i hi
    simp only [List.map_cons, List.map_nil, List.mem_cons, List.not_mem_nil, or_false] at hd
    rcases hd with rfl | rfl <;> cases hi)

end Sample

end TypedRecords
