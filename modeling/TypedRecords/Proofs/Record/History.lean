import Mathlib.Data.List.Induction
import TypedRecords.Record.Draft
import TypedRecords.Proofs.Record.Writing
import TypedRecords.Proofs.Schema

namespace TypedRecords

variable {U : Universe}

inductive Edit (U : Universe) where
  | set (d : Descriptor U) (x : Option (U.El d.kind)) (override : Bool)
  | write (d : Descriptor U) (v : Option (Value U)) (override : Bool)
  | writeModel (d : Descriptor U) (m : Option (Value U))
  | clear (d : Descriptor U)
  | allowInvalid (allowed : Bool)

namespace Edit

def property? : Edit U → Option (Descriptor U)
  | set d _ _ | write d _ _ | writeModel d _ | clear d => some d
  | allowInvalid _ => none

def overrides : Edit U → Bool
  | set _ _ override | write _ _ override => override
  | writeModel .. | clear _ | allowInvalid _ => false

/-- The edit leaves the property with the given value, or with none, if it succeeds. -/
inductive Leaves : Edit U → Descriptor U → Option (Value U) → Prop
  | set {d : Descriptor U} {x : Option (U.El d.kind)} {override : Bool} {y : Option (Value U)}
      (h : d.Takes (x.map (Value.mk d.kind)) y) : Leaves (.set d x override) d y
  | write {d : Descriptor U} {v : Option (Value U)} {override : Bool} {y : Option (Value U)}
      (h : d.Takes v y) : Leaves (.write d v override) d y
  | writeModel {d : Descriptor U} {m : Option (Value U)} {y : Option (Value U)}
      (h : d.TakesModel m y) : Leaves (.writeModel d m) d y
  | clear {d : Descriptor U} : Leaves (.clear d) d none

def Within (P : Population U) (e : Edit U) : Prop :=
  ∀ d, e.property? = some d → d ∈ P

def Touches (e : Edit U) (q : Descriptor U) : Prop :=
  ∃ d, e.property? = some d ∧ (d == q) = true

theorem Leaves.property?_eq {e : Edit U} {d : Descriptor U} {x : Option (Value U)}
    (h : e.Leaves d x) : e.property? = some d := by
  cases h <;> rfl

theorem Leaves.stores {e : Edit U} {d : Descriptor U} {x : Value U} (h : e.Leaves d (some x))
    (hpath : d.isVirtual = false) (hkind : x.kind = d.kind) : d.Stores x := by
  refine ⟨hpath, hkind, ?_⟩
  cases h with
  | @set d y override _ h =>
      cases y with
      | none => cases h
      | some y => exact ⟨_, h⟩
  | @write d v override _ h =>
      cases v with
      | none => cases h
      | some v => exact ⟨v, h⟩
  | @writeModel d m _ h =>
      cases m with
      | none => cases h
      | some m => exact ⟨m, h.takes⟩

theorem Leaves.unique {e : Edit U} {d d' : Descriptor U} {x x' : Option (Value U)}
    (h : e.Leaves d x) (h' : e.Leaves d' x') : d = d' ∧ x = x' := by
  cases h with
  | set h => cases h' with | set h' => exact ⟨rfl, h.unique h'⟩
  | write h => cases h' with | write h' => exact ⟨rfl, h.unique h'⟩
  | writeModel h => cases h' with | writeModel h' => exact ⟨rfl, h.unique h'⟩
  | clear => cases h' with | clear => exact ⟨rfl, rfl⟩

end Edit

namespace Contents

def apply (c : Contents U) : Edit U → Except Error (Contents U)
  | .set d x override => c.write d (x.map (Value.mk d.kind)) override
  | .write d v override => c.write d v override
  | .writeModel d m => c.writeModel d m
  | .clear d => c.clear d
  | .allowInvalid allowed => .ok { c with invalidAllowed := allowed }

def after (c : Contents U) (e : Edit U) : Contents U :=
  match c.apply e with
  | .ok c' => c'
  | .error _ => c

/-- What an edit answers: nothing, or why it failed. -/
def outcome (c : Contents U) (e : Edit U) : Except Error Unit :=
  (c.apply e).map fun _ => ()

def run (c : Contents U) (es : List (Edit U)) : Contents U :=
  es.foldl after c

/-- What a successful edit does. -/
inductive Step (c : Contents U) : Edit U → Contents U → Prop
  | allow (allowed : Bool) : Step c (.allowInvalid allowed) { c with invalidAllowed := allowed }
  | put {e : Edit U} {d : Descriptor U} {x : Option (Value U)} (leaves : e.Leaves d x)
      (writable : c.Writable d e.overrides) (admits : c.Admits d x) : Step c e (c.put d x)

theorem apply_eq_ok_iff {c c' : Contents U} {e : Edit U} : c.apply e = .ok c' ↔ c.Step e c' := by
  constructor
  · intro h
    cases e with
    | set d x override =>
        obtain ⟨hwritable, y, htakes, hadmits, rfl⟩ := write_eq_ok_iff.mp h
        exact .put (.set htakes) hwritable hadmits
    | write d v override =>
        obtain ⟨hwritable, y, htakes, hadmits, rfl⟩ := write_eq_ok_iff.mp h
        exact .put (.write htakes) hwritable hadmits
    | writeModel d m =>
        obtain ⟨hwritable, y, htakes, hadmits, rfl⟩ := writeModel_eq_ok_iff.mp h
        exact .put (.writeModel htakes) hwritable hadmits
    | clear d =>
        obtain ⟨hwritable, y, htakes, hadmits, rfl⟩ := write_eq_ok_iff.mp h
        cases htakes
        exact .put .clear hwritable hadmits
    | allowInvalid allowed =>
        cases h
        exact .allow allowed
  · intro h
    cases h with
    | allow allowed => rfl
    | put leaves writable admits =>
        cases leaves with
        | set htakes => exact write_eq_ok_iff.mpr ⟨writable, _, htakes, admits, rfl⟩
        | write htakes => exact write_eq_ok_iff.mpr ⟨writable, _, htakes, admits, rfl⟩
        | writeModel htakes => exact writeModel_eq_ok_iff.mpr ⟨writable, _, htakes, admits, rfl⟩
        | clear => exact write_eq_ok_iff.mpr ⟨writable, none, .absent, admits, rfl⟩

theorem after_of_step {c c' : Contents U} {e : Edit U} (h : c.Step e c') : c.after e = c' := by
  rw [after, apply_eq_ok_iff.mpr h]

theorem after_of_error {c : Contents U} {e : Edit U} {err : Error} (h : c.apply e = .error err) :
    c.after e = c := by
  rw [after, h]

theorem outcome_eq_ok_iff {c : Contents U} {e : Edit U} :
    c.outcome e = .ok () ↔ ∃ c', c.apply e = .ok c' := by
  unfold outcome
  cases c.apply e <;> simp [Except.map]

theorem run_concat (c : Contents U) (es : List (Edit U)) (e : Edit U) :
    c.run (es ++ [e]) = (c.run es).after e := by
  simp [run]

/-- What holds at the start of a history and is kept by its successful edits holds at its end. -/
theorem run_induction {motive : Contents U → Prop} {c : Contents U} {es : List (Edit U)}
    (start : motive c)
    (step : ∀ {c e c'}, e ∈ es → motive c → c.Step e c' → motive c') : motive (c.run es) := by
  induction es generalizing c with
  | nil => exact start
  | cons e es ih =>
      refine ih ?_ fun he => step (List.mem_cons_of_mem _ he)
      cases h : c.apply e with
      | error err => exact (after_of_error h).symm ▸ start
      | ok c' =>
          have hstep := apply_eq_ok_iff.mp h
          exact (after_of_step hstep).symm ▸ step List.mem_cons_self start hstep

/-- A record of a schema whose values are stored under properties of a population. -/
structure Over (P : Population U) (s : Schema U) (c : Contents U) : Prop where
  schema_eq : c.schema = s
  keys : c.values.KeysIn (· ∈ P)

variable {P : Population U} {s : Schema U}

theorem over_create (P : Population U) (s : Schema U) (id : Ident) :
    Over P s (Record.create s id).toContents :=
  ⟨rfl, Table.keysIn_empty⟩

theorem Over.step {c c' : Contents U} {e : Edit U} (hc : Over P s c) (he : e.Within P)
    (h : c.Step e c') : Over P s c' := by
  cases h with
  | allow allowed => exact ⟨hc.schema_eq, hc.keys⟩
  | put leaves writable admits =>
      exact ⟨hc.schema_eq, hc.keys.update (he _ leaves.property?_eq) _⟩

theorem Over.after {c : Contents U} {e : Edit U} (hc : Over P s c) (he : e.Within P) :
    Over P s (c.after e) := by
  cases h : c.apply e with
  | error err => exact (after_of_error h).symm ▸ hc
  | ok c' =>
      have hstep := apply_eq_ok_iff.mp h
      exact (after_of_step hstep).symm ▸ hc.step he hstep

theorem Over.run {c : Contents U} {es : List (Edit U)} (hc : Over P s c)
    (hes : ∀ e ∈ es, e.Within P) : Over P s (c.run es) :=
  run_induction hc fun he hc h => hc.step (hes _ he) h

theorem Over.get?_put {c : Contents U} (hc : Over P s c) (hP : P.Lawful) {d q : Descriptor U}
    (hd : d ∈ P) (hq : q ∈ P) (x : Option (Value U)) :
    (c.put d x).values.get? q = if q == d then x else c.values.get? q :=
  Table.get?_update hP.equivAmong hc.keys hd hq x

theorem get?_after_of_idle {c : Contents U} {e : Edit U} {q : Descriptor U} (hc : Over P s c)
    (hP : P.Lawful) (he : e.Within P) (hq : q ∈ P)
    (idle : (∃ err, c.apply e = .error err) ∨ ¬e.Touches q) :
    (c.after e).values.get? q = c.values.get? q := by
  cases h : c.apply e with
  | error err => rw [after_of_error h]
  | ok c' =>
      rw [after_of_step (apply_eq_ok_iff.mp h)]
      cases apply_eq_ok_iff.mp h with
      | allow allowed => rfl
      | @put e d x leaves writable admits =>
          have hd : d ∈ P := he d leaves.property?_eq
          have hne : ¬(q == d) = true := by
            intro hqd
            rcases idle with ⟨err, herr⟩ | hnot
            · rw [h] at herr
              cases herr
            · exact hnot ⟨d, leaves.property?_eq, hP.equivAmong.symm hq hd hqd⟩
          rw [hc.get?_put hP hd hq, if_neg hne]

theorem Over.get?_congr {c : Contents U} (hc : Over P s c) (hP : P.Lawful) {a b : Descriptor U}
    (ha : a ∈ P) (hb : b ∈ P) (hab : (a == b) = true) : c.values.get? a = c.values.get? b :=
  Table.get?_congr hP.equivAmong hc.keys ha hb hab

theorem mem_storedValues {c : Contents U} {p : Property U} {v : Value U} :
    (p, v) ∈ c.storedValues ↔ p ∈ c.schema.members ∧ c.values.get? p.toDescriptor = some v := by
  unfold storedValues
  rw [List.mem_filterMap]
  constructor
  · rintro ⟨q, hq, h⟩
    obtain ⟨w, hw, heq⟩ := Option.map_eq_some_iff.mp h
    cases heq
    exact ⟨hq, hw⟩
  · rintro ⟨hp, hv⟩
    exact ⟨p, hp, by rw [hv]; rfl⟩

def Reachable (P : Population U) (s : Schema U) (c : Contents U) : Prop :=
  ∃ id es, (∀ e ∈ es, e.Within P) ∧ c = (Record.create s id).run es

theorem Reachable.over {c : Contents U} (hc : c.Reachable P s) : Over P s c := by
  obtain ⟨id, es, hes, rfl⟩ := hc
  exact (over_create P s id).run hes

theorem Reachable.exists_stores {c : Contents U} (hc : c.Reachable P s) (hP : P.Lawful)
    {q : Descriptor U} (hq : q ∈ P) {v : Value U} (hv : c.values.get? q = some v) :
    ∃ d ∈ P, (d == q) = true ∧ d.Stores v := by
  obtain ⟨id, es, hes, rfl⟩ := hc
  refine (run_induction (motive := fun c => Over P s c ∧ ∀ v, c.values.get? q = some v →
    ∃ d ∈ P, (d == q) = true ∧ d.Stores v)
    ⟨over_create P s id, fun v hv => nomatch hv⟩ ?_).2 v hv
  rintro c e c' he ⟨hc, hstored⟩ hstep
  refine ⟨hc.step (hes e he) hstep, ?_⟩
  intro v hv
  cases hstep with
  | allow allowed => exact hstored v hv
  | @put e d x leaves writable admits =>
      have hd : d ∈ P := hes e he d leaves.property?_eq
      rw [hc.get?_put hP hd hq] at hv
      split at hv
      · rename_i hqd
        subst hv
        exact ⟨d, hd, hP.equivAmong.symm hq hd hqd,
          leaves.stores writable.path (admits.kind v rfl)⟩
      · exact hstored v hv

def holding (s : Schema U) (id : Ident) (d : Descriptor U) (x : Value U) : Contents U :=
  { (Record.create s id).toContents with invalidAllowed := true }.put d (some x)

theorem get?_holding (hP : P.Lawful) {d q : Descriptor U} (hd : d ∈ P) (hq : q ∈ P)
    (s : Schema U) (id : Ident) (x : Value U) :
    (holding s id d x).values.get? q = if q == d then some x else none := by
  have hc : Over P s { (Record.create s id).toContents with invalidAllowed := true } :=
    ⟨rfl, Table.keysIn_empty⟩
  exact hc.get?_put hP hd hq (some x)

theorem reachable_holding {d : Descriptor U} {x : Value U} (id : Ident) (hd : d ∈ P)
    (hmember : s.contains d = true) (hx : d.Stores x) : Reachable P s (holding s id d x) := by
  obtain ⟨v, htakes⟩ := hx.takes
  let c : Contents U := { (Record.create s id).toContents with invalidAllowed := true }
  have hadmits : c.Admits d (some x) := by
    refine ⟨?_, fun h => nomatch h⟩
    intro w hw
    exact Option.some.inj hw ▸ hx.kind
  have hwrite : c.Step (.write d (some v) true) (c.put d (some x)) :=
    .put (.write htakes) ⟨hmember, hx.path, fun _ => rfl⟩ hadmits
  refine ⟨id, [.allowInvalid true, .write d (some v) true], ?_, (after_of_step hwrite).symm⟩
  simp only [List.mem_cons, List.not_mem_nil, or_false]
  rintro e (rfl | rfl) d' hd' <;> cases hd'
  exact hd

end Contents

end TypedRecords
