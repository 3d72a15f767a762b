import TypedRecords.Catalogue.Conversions
import TypedRecords.Proofs.Converter.Collection

namespace TypedRecords.Enumeration

variable {E : Type} {e : Enumeration E} {s : String} {x : E}

/-- A constant is the first one that has a name. -/
def FirstNamed (e : Enumeration E) (s : String) (x : E) : Prop :=
  e.nameOf x = s ∧ ∃ before after, e.constants = before ++ x :: after ∧
    ∀ y ∈ before, e.nameOf y ≠ s

/-- A value is listed, for the first time behind the given constants. -/
def ListedAfter (e : Enumeration E) (before : List E) (x : E) : Prop :=
  x ∉ before ∧ ∃ after, e.constants = before ++ x :: after

theorem FirstNamed.mem (h : e.FirstNamed s x) : x ∈ e.constants := by
  obtain ⟨-, before, after, hlist, -⟩ := h
  rw [hlist]
  exact List.mem_append_cons_self

theorem find?_eq_some_iff_firstNamed :
    (e.constants.find? fun c => e.nameOf c == s) = some x ↔ e.FirstNamed s x := by
  simp [FirstNamed, List.find?_eq_some_iff_append]

theorem FirstNamed.fromModel_eq (h : e.FirstNamed s x) :
    e.byName.fromModel (some s) = .ok (some x) := by
  simp only [byName, Conversion.ofFunctions, find?_eq_some_iff_firstNamed.mpr h]
  rfl

theorem fromModel_byName_of_unknown (h : ∀ x ∈ e.constants, e.nameOf x ≠ s) :
    e.byName.fromModel (some s) = .error (.unknownName s e.typeName) := by
  have hnone : (e.constants.find? fun c => e.nameOf c == s) = none := by
    simpa [List.find?_eq_none] using h
  simp only [byName, Conversion.ofFunctions, hnone]
  rfl

theorem exists_firstNamed_or (e : Enumeration E) (s : String) :
    (∃ x, e.FirstNamed s x) ∨ ∀ x ∈ e.constants, e.nameOf x ≠ s := by
  cases h : e.constants.find? fun c => e.nameOf c == s with
  | some x => exact Or.inl ⟨x, find?_eq_some_iff_firstNamed.mp h⟩
  | none => exact Or.inr (by simpa [List.find?_eq_none] using h)

theorem fromModel_byName_eq_ok_iff {r : Option E} :
    e.byName.fromModel (some s) = .ok r ↔ ∃ x, r = some x ∧ e.FirstNamed s x := by
  constructor
  · intro h
    rcases exists_firstNamed_or e s with ⟨x, hx⟩ | hunknown
    · rw [hx.fromModel_eq] at h
      cases h
      exact ⟨x, rfl, hx⟩
    · rw [fromModel_byName_of_unknown hunknown] at h
      cases h
  · rintro ⟨x, rfl, hx⟩
    exact hx.fromModel_eq

theorem fromModel_byName_eq_error_iff {error : ConversionError} :
    e.byName.fromModel (some s) = .error error ↔
      (∀ x ∈ e.constants, e.nameOf x ≠ s) ∧ error = .unknownName s e.typeName := by
  constructor
  · intro h
    rcases exists_firstNamed_or e s with ⟨x, hx⟩ | hunknown
    · rw [hx.fromModel_eq] at h
      cases h
    · rw [fromModel_byName_of_unknown hunknown] at h
      cases h
      exact ⟨hunknown, rfl⟩
  · rintro ⟨hunknown, rfl⟩
    exact fromModel_byName_of_unknown hunknown

theorem leadsBack_byName_iff : e.byName.LeadsBack x x ↔ e.FirstNamed (e.nameOf x) x := by
  constructor
  · rintro ⟨s, hs, hx⟩
    cases hs
    obtain ⟨y, hy, hfirst⟩ := fromModel_byName_eq_ok_iff.mp hx
    cases hy
    exact hfirst
  · intro h
    exact ⟨e.nameOf x, rfl, h.fromModel_eq⟩

theorem firstNamed_iff_listedAfter : e.FirstNamed (e.nameOf x) x ↔
    ∃ before, e.ListedAfter before x ∧ ∀ y ∈ before, y ≠ x → e.nameOf y ≠ e.nameOf x := by
  constructor
  · rintro ⟨-, before, after, hlist, hbefore⟩
    exact ⟨before, ⟨fun hx => hbefore x hx rfl, after, hlist⟩, fun y hy _ => hbefore y hy⟩
  · rintro ⟨before, ⟨hx, after, hlist⟩, hbefore⟩
    exact ⟨rfl, before, after, hlist, fun y hy => hbefore y hy (ne_of_mem_of_not_mem hy hx)⟩

structure ConvertsNames (e : Enumeration E) : Prop where
  reads_iff : ∀ s, (∃ r, e.byName.fromModel (some s) = .ok r) ↔ ∃ x ∈ e.constants, e.nameOf x = s
  reads_first : ∀ s r, e.byName.fromModel (some s) = .ok r →
    ∃ x, r = some x ∧ e.FirstNamed s x ∧ e.byName.toModel (some x) = .ok (some s)
  writes : ∀ x, e.byName.toModel (some x) = .ok (some (e.nameOf x))
  /-- A value comes back if and only if it is listed, and before it is listed first no other
  constant has its name. -/
  leadsBack_iff : ∀ x, e.byName.LeadsBack x x ↔
    ∃ before, e.ListedAfter before x ∧ ∀ y ∈ before, y ≠ x → e.nameOf y ≠ e.nameOf x
  fails : ∀ s error, e.byName.fromModel (some s) = .error error →
    error = .unknownName s e.typeName ∧ error.isEnumeration = true

theorem convertsNames (e : Enumeration E) : e.ConvertsNames where
  reads_iff s := by
    constructor
    · rintro ⟨r, hr⟩
      obtain ⟨x, -, hx⟩ := fromModel_byName_eq_ok_iff.mp hr
      exact ⟨x, hx.mem, hx.1⟩
    · rintro ⟨x, hx, hname⟩
      rcases exists_firstNamed_or e s with ⟨y, hy⟩ | hunknown
      · exact ⟨some y, hy.fromModel_eq⟩
      · exact absurd hname (hunknown x hx)
  reads_first s r hr := by
    obtain ⟨x, rfl, hx⟩ := fromModel_byName_eq_ok_iff.mp hr
    exact ⟨x, rfl, hx, congrArg (fun s => Except.ok (some s)) hx.1⟩
  writes _ := rfl
  leadsBack_iff _ := leadsBack_byName_iff.trans firstNamed_iff_listedAfter
  fails s error h := by
    obtain ⟨-, rfl⟩ := fromModel_byName_eq_error_iff.mp h
    exact ⟨rfl, rfl⟩

theorem atOrdinal?_eq_some_iff {n : Int} :
    e.atOrdinal? n = some x ↔ 0 ≤ n ∧ e.constants[n.toNat]? = some x := by
  rw [atOrdinal?]
  split <;> simp [*]

theorem atOrdinal?_eq_none_iff {n : Int} :
    e.atOrdinal? n = none ↔ ¬(0 ≤ n ∧ n < e.constants.length) := by
  rw [atOrdinal?]
  split
  next h =>
    rw [List.getElem?_eq_none_iff]
    omega
  next h => simp [h]

theorem fromModel_byOrdinal [DecidableEq E] (e : Enumeration E) (i : Fixed .int64) :
    e.byOrdinal.fromModel (some i) =
      match e.atOrdinal? i.val with
      | some x => .ok (some x)
      | none => .error (.ordinalOutOfRange i.val e.typeName e.constants.length) := by
  simp only [byOrdinal, Conversion.ofFunctions]
  cases e.atOrdinal? i.val <;> rfl

section Equality

variable [DecidableEq E]

theorem fromModel_byOrdinal_eq_ok_iff {i : Fixed .int64} {r : Option E} :
    e.byOrdinal.fromModel (some i) = .ok r ↔
      ∃ x, r = some x ∧ 0 ≤ i.val ∧ e.constants[i.val.toNat]? = some x := by
  rw [fromModel_byOrdinal]
  simp only [← atOrdinal?_eq_some_iff]
  cases e.atOrdinal? i.val <;> simp [eq_comm]

theorem ordinal?_of_mem (h : x ∈ e.constants) : e.ordinal? x = some (e.constants.idxOf x) :=
  List.findIdx?_eq_some_iff_findIdx_eq.mpr ⟨List.idxOf_lt_length_of_mem h, rfl⟩

theorem ordinal?_of_not_mem (h : x ∉ e.constants) : e.ordinal? x = none := by
  rw [ordinal?, List.findIdx?_eq_none_iff]
  intro y hy
  exact decide_eq_false (ne_of_mem_of_not_mem hy h)

/-- The place of every constant is an integer of 64 bits, as it is in any list that a memory with
addresses of 64 bits can hold. -/
def Fits (e : Enumeration E) : Prop :=
  ∀ x ∈ e.constants, (e.constants.idxOf x : Int) ≤ IntFormat.int64.greatest

theorem fits_of_length_le (h : (e.constants.length : Int) ≤ IntFormat.int64.greatest) :
    e.Fits := by
  intro x hx
  have hlt := List.idxOf_lt_length_of_mem hx
  omega

theorem Fits.toModel_of_mem (hfits : e.Fits) (h : x ∈ e.constants) :
    ∃ i : Fixed .int64, i.val = e.constants.idxOf x ∧
      e.byOrdinal.toModel (some x) = .ok (some i) := by
  have hleast : IntFormat.int64.least ≤ (e.constants.idxOf x : Int) :=
    IntFormat.int64.least_nonpos.trans (Int.natCast_nonneg _)
  refine ⟨⟨e.constants.idxOf x, hleast, hfits x h⟩, rfl, ?_⟩
  simp only [byOrdinal, Conversion.ofFunctions, ordinal?_of_mem h, Option.bind_some, Fixed.ofInt?,
    hleast, hfits x h, and_self, ↓reduceDIte]
  rfl

theorem toModel_byOrdinal_of_not_mem (h : x ∉ e.constants) :
    e.byOrdinal.toModel (some x) = .error (.unknownName (e.nameOf x) e.typeName) := by
  simp only [byOrdinal, Conversion.ofFunctions, ordinal?_of_not_mem h]
  rfl

theorem Fits.toModel_eq_ok_iff (hfits : e.Fits) {r : Option (Fixed .int64)} :
    e.byOrdinal.toModel (some x) = .ok r ↔
      x ∈ e.constants ∧ ∃ i : Fixed .int64, r = some i ∧ i.val = e.constants.idxOf x := by
  by_cases hx : x ∈ e.constants
  · obtain ⟨i, hval, hi⟩ := hfits.toModel_of_mem hx
    rw [hi]
    constructor
    · intro h
      cases h
      exact ⟨hx, i, rfl, hval⟩
    · rintro ⟨-, j, rfl, hj⟩
      rw [Fixed.ext (hj.trans hval.symm)]
  · rw [toModel_byOrdinal_of_not_mem hx]
    simp [hx]

theorem Fits.toModel_eq_error_iff (hfits : e.Fits) {error : ConversionError} :
    e.byOrdinal.toModel (some x) = .error error ↔
      x ∉ e.constants ∧ error = .unknownName (e.nameOf x) e.typeName := by
  by_cases hx : x ∈ e.constants
  · obtain ⟨i, -, hi⟩ := hfits.toModel_of_mem hx
    rw [hi]
    simp [hx]
  · rw [toModel_byOrdinal_of_not_mem hx]
    simp [hx, eq_comm]

structure ConvertsOrdinals (e : Enumeration E) : Prop where
  reads_iff : ∀ i, (∃ r, e.byOrdinal.fromModel (some i) = .ok r) ↔
    0 ≤ i.val ∧ i.val < e.constants.length
  reads_place : ∀ i r, e.byOrdinal.fromModel (some i) = .ok r →
    ∃ x, r = some x ∧ e.constants[i.val.toNat]? = some x
  writes_iff : ∀ x, (∃ r, e.byOrdinal.toModel (some x) = .ok r) ↔ x ∈ e.constants
  writes_place : ∀ x r, e.byOrdinal.toModel (some x) = .ok r →
    ∃ i : Fixed .int64, r = some i ∧ i.val = e.constants.idxOf x
  leadsBack : ∀ x ∈ e.constants, e.byOrdinal.LeadsBack x x
  ordinal_back : e.constants.Nodup → ∀ i : Fixed .int64, 0 ≤ i.val → i.val < e.constants.length →
    ∃ x, e.byOrdinal.fromModel (some i) = .ok (some x) ∧
      e.byOrdinal.toModel (some x) = .ok (some i)
  fails_from : ∀ i error, e.byOrdinal.fromModel (some i) = .error error →
    error = .ordinalOutOfRange i.val e.typeName e.constants.length ∧ error.isEnumeration = true
  fails_to : ∀ x error, e.byOrdinal.toModel (some x) = .error error →
    error = .unknownName (e.nameOf x) e.typeName ∧ error.isEnumeration = true

theorem Fits.convertsOrdinals (hfits : e.Fits) : e.ConvertsOrdinals where
  reads_iff i := by
    rw [← not_iff_not, ← atOrdinal?_eq_none_iff, fromModel_byOrdinal]
    cases e.atOrdinal? i.val <;> simp
  reads_place i r hr := by
    obtain ⟨x, hx, -, hplace⟩ := fromModel_byOrdinal_eq_ok_iff.mp hr
    exact ⟨x, hx, hplace⟩
  writes_iff x := by
    constructor
    · rintro ⟨r, hr⟩
      exact (hfits.toModel_eq_ok_iff.mp hr).1
    · intro hx
      obtain ⟨i, -, hi⟩ := hfits.toModel_of_mem hx
      exact ⟨some i, hi⟩
  writes_place x r hr := (hfits.toModel_eq_ok_iff.mp hr).2
  leadsBack x hx := by
    obtain ⟨i, hval, hi⟩ := hfits.toModel_of_mem hx
    refine ⟨i, hi, fromModel_byOrdinal_eq_ok_iff.mpr ⟨x, rfl, by omega, ?_⟩⟩
    rw [hval, Int.toNat_natCast, List.getElem?_idxOf hx]
  ordinal_back hnodup i hnonneg hlt := by
    have hplace : i.val.toNat < e.constants.length := by omega
    refine ⟨e.constants[i.val.toNat], ?_, ?_⟩
    · exact fromModel_byOrdinal_eq_ok_iff.mpr ⟨_, rfl, hnonneg, List.getElem?_eq_getElem hplace⟩
    · refine hfits.toModel_eq_ok_iff.mpr ⟨List.getElem_mem hplace, i, rfl, ?_⟩
      rw [hnodup.idxOf_getElem, Int.toNat_of_nonneg hnonneg]
  fails_from i error h := by
    rw [fromModel_byOrdinal] at h
    cases hat : e.atOrdinal? i.val <;> rw [hat] at h <;> cases h
    exact ⟨rfl, rfl⟩
  fails_to x error h := by
    obtain ⟨-, rfl⟩ := hfits.toModel_eq_error_iff.mp h
    exact ⟨rfl, rfl⟩

theorem converts_names_and_ordinals (e : Enumeration E) (hfits : e.Fits) :
    e.ConvertsNames ∧ e.ConvertsOrdinals :=
  ⟨e.convertsNames, hfits.convertsOrdinals⟩

end Equality

open Catalogue in
theorem converts_names_and_ordinals_levels : (levels "Level").Fits ∧
    (levels "Level").byName.LeadsBack .mid .mid ∧
    ¬(levels "Level").byName.LeadsBack .otherMid .otherMid ∧
    (levels "Level").byOrdinal.LeadsBack .otherMid .otherMid ∧
    ¬∃ r, (levels "Level").byOrdinal.toModel (some .off) = .ok r := by
  have hfits : (levels "Level").Fits := fits_of_length_le (by decide)
  obtain ⟨hnames, hordinals⟩ := converts_names_and_ordinals (levels "Level") hfits
  refine ⟨hfits, ?_, ?_, hordinals.leadsBack .otherMid (by decide), ?_⟩
  · exact (hnames.leadsBack_iff .mid).mpr
      ⟨[.low], ⟨by decide, [.high, .otherMid], rfl⟩, by decide⟩
  · rintro ⟨s, hs, hback⟩
    cases hs
    cases hback
  · rw [hordinals.writes_iff]
    decide

end TypedRecords.Enumeration
