import TypedRecords.Proofs.Record.History
import TypedRecords.Proofs.Sample

namespace TypedRecords

variable {U : Universe} {c : Contents U} {d : Descriptor U} {m : Option (Value U)} {v : Value U}

/-- The value is present, and not of the kind that the converter of the property reads. -/
def Descriptor.Misreads (d : Descriptor U) (m : Option (Value U)) : Prop :=
  ∃ converter v, d.attributes.converter = some converter ∧ m = some v ∧
    v.kind ≠ converter.modelKind

namespace Contents

/-- What comes of a present value that is written as it is: it is stored if it is of the declared
kind and valid. -/
inductive TakesAsIs (c : Contents U) (d : Descriptor U) (v : Value U) :
    Except Error Unit → Contents U → Prop
  | mismatch (hkind : v.kind ≠ d.kind) :
      TakesAsIs c d v (.error (.property (.typeMismatch d.name d.typeName v.typeName))) c
  | invalid {e : ValidationError} (hkind : v.kind = d.kind) (hallowed : c.invalidAllowed = false)
      (he : d.validate (some v) = .error e) : TakesAsIs c d v (.error (.validation e)) c
  | stored (hkind : v.kind = d.kind)
      (hvalid : c.invalidAllowed = false → d.validate (some v) = .ok ()) :
      TakesAsIs c d v (.ok ()) (c.put d (some v))

theorem TakesAsIs.ne_conversion {result : Except Error Unit} {c' : Contents U}
    (h : c.TakesAsIs d v result c') (e : ConversionError) : result ≠ .error (.conversion e) := by
  cases h <;> simp

theorem takesAsIs_of_store {e : Edit U} (h : c.apply e = c.store d (some v)) :
    c.TakesAsIs d v (c.outcome e) (c.after e) := by
  rw [outcome, after, h]
  by_cases hkind : v.kind = d.kind
  · rw [store_of_kind fun w hw => Option.some.inj hw ▸ hkind]
    cases hallowed : c.invalidAllowed with
    | true => exact .stored hkind fun hnot => absurd (hallowed.symm.trans hnot) (by simp)
    | false =>
        cases hvalid : d.validate (some v) with
        | ok _ => exact .stored hkind fun _ => hvalid
        | error e => exact .invalid hkind hallowed hvalid
  · rw [store_some_of_kind_ne hkind]
    exact .mismatch hkind

theorem offer_of_writable {override : Bool} (h : c.Writable d override)
    (r : Except Error (Option (Value U))) : c.offer d override r = r >>= c.store d := by
  rw [offer, checkWritable_eq_ok_iff.mpr h]
  rfl

theorem offer_congr_of_not_writable {override : Bool} (h : ¬c.Writable d override)
    (r r' : Except Error (Option (Value U))) : c.offer d override r = c.offer d override r' := by
  rw [offer, offer]
  cases hcheck : c.checkWritable d override with
  | ok _ => exact absurd (checkWritable_eq_ok_iff.mp hcheck) h
  | error e => rfl

theorem acceptModel_eq_accept (h : ¬d.Misreads m) : acceptModel d m = accept d m := by
  rw [acceptModel.eq_def, accept.eq_def]
  cases m with
  | none => rfl
  | some v =>
      cases hc : d.attributes.converter with
      | none => rfl
      | some converter =>
          have hkind : v.kind = converter.modelKind := by
            by_contra hne
            exact h ⟨converter, v, hc, rfl, hne⟩
          simp [hkind]

variable {converter : Converter U d.kind}

theorem accept_of_kind_ne (hc : d.attributes.converter = some converter)
    (hv : v.kind ≠ converter.modelKind) : accept d (some v) = .ok (some v) := by
  simp [accept, hc, hv]

theorem acceptModel_of_kind_ne (hc : d.attributes.converter = some converter)
    (hv : v.kind ≠ converter.modelKind) :
    acceptModel d (some v) =
      .error (.conversion (.wrongType (U.name converter.modelKind) v.typeName)) := by
  simp [acceptModel, hc, Converter.fromModel, Converter.expect, Value.as?_eq_none hv, bind,
    Except.bind]

theorem writeModel_of_kind_ne (hwritable : c.Writable d false)
    (hc : d.attributes.converter = some converter) (hv : v.kind ≠ converter.modelKind) :
    c.outcome (.writeModel d (some v)) =
        .error (.conversion (.wrongType (U.name converter.modelKind) v.typeName)) ∧
      c.after (.writeModel d (some v)) = c := by
  have happly : c.apply (.writeModel d (some v)) =
      .error (.conversion (.wrongType (U.name converter.modelKind) v.typeName)) := by
    rw [apply, writeModel_eq_offer, offer_of_writable hwritable, acceptModel_of_kind_ne hc hv]
    rfl
  exact ⟨by rw [outcome, happly]; rfl, after_of_error happly⟩

theorem write_of_kind_ne (hwritable : c.Writable d false)
    (hc : d.attributes.converter = some converter) (hv : v.kind ≠ converter.modelKind) :
    c.TakesAsIs d v (c.outcome (.write d (some v) false)) (c.after (.write d (some v) false)) := by
  apply takesAsIs_of_store
  rw [apply, write_eq_offer, offer_of_writable hwritable, accept_of_kind_ne hc hv]
  rfl

theorem apply_writeModel_eq (h : ¬(c.Writable d false ∧ d.Misreads m)) :
    c.apply (.writeModel d m) = c.apply (.write d m false) := by
  rw [apply, apply, writeModel_eq_offer, write_eq_offer]
  by_cases hwritable : c.Writable d false
  · rw [acceptModel_eq_accept fun hm => h ⟨hwritable, hm⟩]
  · exact offer_congr_of_not_writable hwritable _ _

/-- Both ways of writing a value answer alike and leave the same record, except where the property
may be written and its converter does not read the kind of the value. Then one fails with the error
of the converter, and the other takes the value as it is. -/
theorem writeModel_agrees_with_write (c : Contents U) (d : Descriptor U) (m : Option (Value U)) :
    ((c.outcome (.writeModel d m) = c.outcome (.write d m false) ∧
          c.after (.writeModel d m) = c.after (.write d m false)) ↔
        ¬(c.Writable d false ∧ d.Misreads m)) ∧
      ∀ converter v, c.Writable d false → d.attributes.converter = some converter → m = some v →
        v.kind ≠ converter.modelKind →
          (c.outcome (.writeModel d m) =
              .error (.conversion (.wrongType (U.name converter.modelKind) v.typeName)) ∧
            c.after (.writeModel d m) = c) ∧
          c.TakesAsIs d v (c.outcome (.write d m false)) (c.after (.write d m false)) := by
  refine ⟨⟨?_, ?_⟩, ?_⟩
  · rintro ⟨houtcome, -⟩ ⟨hwritable, converter, v, hc, rfl, hv⟩
    have hfails := (writeModel_of_kind_ne hwritable hc hv).1
    exact (write_of_kind_ne hwritable hc hv).ne_conversion _ (houtcome.symm.trans hfails)
  · intro h
    have happly := apply_writeModel_eq h
    exact ⟨by rw [outcome, outcome, happly], by rw [after, after, happly]⟩
  · rintro converter v hwritable hc rfl hv
    exact ⟨writeModel_of_kind_ne hwritable hc hv, write_of_kind_ne hwritable hc hv⟩

open Sample in
theorem writeModel_agrees_with_write_tallied :
    let c := (Record.create (.of [tallied]) ⟨8⟩).toContents
    let d := tallied.toDescriptor
    let three : Option (Value kinds) := some (number 3)
    let marks : Option (Value kinds) := some (text "|||")
    (c.outcome (.writeModel d three) = .error (.conversion (.wrongType "text" "number")) ∧
        c.after (.writeModel d three) = c ∧
        c.TakesAsIs d (number 3) (c.outcome (.write d three false))
          (c.after (.write d three false)) ∧
        (c.after (.write d three false)).values.get? d = three) ∧
      c.outcome (.writeModel d marks) = c.outcome (.write d marks false) := by
  intro c d three marks
  have hwritable : c.Writable d false := checkWritable_eq_ok_iff.mp rfl
  have hmarks : ¬d.Misreads marks := by
    rintro ⟨converter, v, hc, hv, hne⟩
    rw [← Option.some.inj hc, ← Option.some.inj hv] at hne
    exact hne rfl
  obtain ⟨⟨hfails, hkept⟩, htaken⟩ := (writeModel_agrees_with_write c d three).2
    ⟨Kind.text, tallyMarks⟩ (number 3) hwritable rfl rfl (by decide)
  exact ⟨⟨hfails, hkept, htaken, rfl⟩,
    ((writeModel_agrees_with_write c d marks).1.mpr fun h => hmarks h.2).1⟩

end Contents

end TypedRecords
