import Mathlib.Data.List.Basic
import TypedRecords.Proofs.Record.Making
import TypedRecords.Proofs.Record.Reading
import TypedRecords.Proofs.Sample

namespace TypedRecords

variable {U : Universe} {P : Population U} {s : Schema U}

namespace Contents

theorem checkWritable_congr {a b : Contents U} (hschema : a.schema = b.schema) (d : Descriptor U)
    (override : Bool) : a.checkWritable d override = b.checkWritable d override := by
  unfold checkWritable contains
  rw [hschema]

/-- Whether a value is stored does not depend on the values of a record. -/
theorem store_congr {a b : Contents U} (hallowed : a.invalidAllowed = b.invalidAllowed)
    (d : Descriptor U) (x : Option (Value U)) :
    (a.store d x).map (fun _ => ()) = (b.store d x).map fun _ => () := by
  cases x with
  | none =>
      simp only [store, hallowed]
      cases b.invalidAllowed with
      | true => rfl
      | false => cases d.validate none <;> rfl
  | some v =>
      cases hkind : d.expect v with
      | error e =>
          simp only [store, hkind]
          rfl
      | ok _ =>
          simp only [store, hkind, hallowed]
          cases b.invalidAllowed with
          | true => rfl
          | false => cases d.validate (some v) <;> rfl

theorem outcome_congr {a b : Contents U} (hschema : a.schema = b.schema)
    (hallowed : a.invalidAllowed = b.invalidAllowed) (e : Edit U) : a.outcome e = b.outcome e := by
  have hoffer : ∀ d override r, (a.offer d override r).map (fun _ => ()) =
      (b.offer d override r).map fun _ => () := by
    intro d override r
    unfold offer
    rw [checkWritable_congr hschema]
    cases b.checkWritable d override with
    | error f => rfl
    | ok _ =>
        cases r with
        | error f => rfl
        | ok x => exact store_congr hallowed d x
  cases e with
  | set d x override => exact hoffer d override _
  | write d v override => exact hoffer d override _
  | writeModel d m => exact hoffer d false _
  | clear d => exact hoffer d false _
  | allowInvalid allowed => rfl

theorem invalidAllowed_after {c : Contents U} {e : Edit U} {d : Descriptor U}
    (he : e.property? = some d) : (c.after e).invalidAllowed = c.invalidAllowed := by
  cases h : c.apply e with
  | error err => rw [after_of_error h]
  | ok c' =>
      rw [after_of_step (apply_eq_ok_iff.mp h)]
      cases apply_eq_ok_iff.mp h with
      | allow allowed => cases he
      | put leaves writable admits => rfl

/-- Records that answer edits alike and hold the same under `q`. -/
structure Alike (P : Population U) (s : Schema U) (q : Descriptor U) (a b : Contents U) :
    Prop where
  left : Over P s a
  right : Over P s b
  allowed : a.invalidAllowed = b.invalidAllowed
  found : a.values.get? q = b.values.get? q

namespace Alike

variable {q : Descriptor U} {a b c : Contents U}

theorem refl (ha : Over P s a) (q : Descriptor U) : Alike P s q a a :=
  ⟨ha, ha, rfl, rfl⟩

theorem symm (h : Alike P s q a b) : Alike P s q b a :=
  ⟨h.right, h.left, h.allowed.symm, h.found.symm⟩

theorem trans (h : Alike P s q a b) (h' : Alike P s q b c) : Alike P s q a c :=
  ⟨h.left, h'.right, h.allowed.trans h'.allowed, h.found.trans h'.found⟩

theorem step (h : Alike P s q a b) (hP : P.Lawful) (hq : q ∈ P) {a' : Contents U} {e : Edit U}
    (he : e.Within P) (hstep : a.Step e a') : Alike P s q a' (b.after e) := by
  have hschema : a.schema = b.schema := h.left.schema_eq.trans h.right.schema_eq.symm
  have hover := h.left.step he hstep
  cases hstep with
  | allow allowed => exact ⟨hover, ⟨h.right.schema_eq, h.right.keys⟩, rfl, h.found⟩
  | @put e d x leaves writable admits =>
      have hd : d ∈ P := he d leaves.property?_eq
      have hmember : b.contains d = true := by
        rw [contains, ← hschema]
        exact writable.member
      have hright : b.Step e (b.put d x) :=
        .put leaves ⟨hmember, writable.path, writable.unprotected⟩
          ⟨admits.kind, fun hnot => admits.valid (h.allowed.trans hnot)⟩
      rw [after_of_step hright]
      refine ⟨hover, h.right.step he hright, h.allowed, ?_⟩
      rw [h.left.get?_put hP hd hq, h.right.get?_put hP hd hq, h.found]

theorem after (h : Alike P s q a b) (hP : P.Lawful) (hq : q ∈ P) {e : Edit U} (he : e.Within P) :
    Alike P s q (a.after e) (b.after e) := by
  cases hleft : a.apply e with
  | ok a' =>
      have hstep := apply_eq_ok_iff.mp hleft
      rw [after_of_step hstep]
      exact h.step hP hq he hstep
  | error err =>
      cases hright : b.apply e with
      | ok b' =>
          have hstep := apply_eq_ok_iff.mp hright
          rw [after_of_step hstep]
          exact (h.symm.step hP hq he hstep).symm
      | error err' =>
          rw [after_of_error hleft, after_of_error hright]
          exact h

theorem after_left (h : Alike P s q a b) (hP : P.Lawful) (hq : q ∈ P) {e : Edit U} (he : e.Within P)
    {d : Descriptor U} (hd : e.property? = some d) (hapart : (d == q) = false) :
    Alike P s q (a.after e) b := by
  have hidle : ¬e.Touches q := by
    rintro ⟨d', hd', hequal⟩
    cases Option.some.inj (hd.symm.trans hd')
    rw [hapart] at hequal
    cases hequal
  refine ⟨h.left.after he, h.right, ?_, ?_⟩
  · exact (invalidAllowed_after hd).trans h.allowed
  · exact (get?_after_of_idle h.left hP he hq (Or.inr hidle)).trans h.found

end Alike

structure SameValues (P : Population U) (a b : Contents U) : Prop where
  found : ∀ q ∈ P, a.values.get? q = b.values.get? q
  listed : a.storedValues = b.storedValues
  read : ∀ p : Property U, p.toDescriptor ∈ P → p.isVirtual = false → a.get p = b.get p

theorem SameValues.of_alike {a b : Contents U} (hs : P.Covers s) (ha : Over P s a) (hb : Over P s b)
    (h : ∀ q ∈ P, Alike P s q a b) : SameValues P a b := by
  have hschema : a.schema = b.schema := ha.schema_eq.trans hb.schema_eq.symm
  refine ⟨fun q hq => (h q hq).found, ?_, ?_⟩
  · unfold storedValues
    rw [← hschema]
    refine List.filterMap_congr fun p hp => ?_
    rw [ha.schema_eq] at hp
    rw [(h p.toDescriptor (hs.members p hp)).found]
  · intro p hp hpath
    have hmember : a.contains p.toDescriptor = b.contains p.toDescriptor := by
      rw [contains, contains, hschema]
    cases hb : b.contains p.toDescriptor with
    | true => exact get_congr (hmember.trans hb) hb hpath (h p.toDescriptor hp).found
    | false => simp [get, Contents.read, hmember, hb]

/-- Two edits of a record answer the same in either order, and leave the same values. -/
structure Interchange (P : Population U) (c : Contents U) (e f : Edit U) : Prop where
  first : (c.after f).outcome e = c.outcome e
  second : (c.after e).outcome f = c.outcome f
  values : SameValues P ((c.after e).after f) ((c.after f).after e)

theorem Over.interchange {c : Contents U} (hc : Over P s c) (hP : P.Lawful) (hs : P.Covers s)
    {e f : Edit U} (he : e.Within P) (hf : f.Within P) {d d' : Descriptor U}
    (hd : e.property? = some d) (hd' : f.property? = some d') (hapart : (d == d') = false) :
    Interchange P c e f := by
  have hanswer : ∀ {e f : Edit U} {d}, f.Within P → f.property? = some d →
      (c.after f).outcome e = c.outcome e := fun hf hd =>
    outcome_congr ((hc.after hf).schema_eq.trans hc.schema_eq.symm) (invalidAllowed_after hd) _
  refine ⟨hanswer hf hd', hanswer he hd, ?_⟩
  refine .of_alike hs ((hc.after he).after hf) ((hc.after hf).after he) fun q hq => ?_
  -- at most one of the two properties equals `q`, and the edit through the other has no part in it
  cases hdq : d == q with
  | false =>
      have hleft := ((Alike.refl hc q).after_left hP hq he hd hdq).after hP hq hf
      exact hleft.trans ((Alike.refl (hc.after hf) q).after_left hP hq he hd hdq).symm
  | true =>
      have hdq' : (d' == q) = false := by
        rw [hP.equivAmong.comm (hf d' hd') hq]
        exact hP.equivAmong.apart (he d hd) (hf d' hd') hq hapart
          (hP.equivAmong.symm (he d hd) hq hdq)
      have hright := ((Alike.refl hc q).after_left hP hq hf hd' hdq').after hP hq he
      exact ((Alike.refl (hc.after he) q).after_left hP hq hf hd' hdq').trans hright.symm

end Contents

def PendingWrite.edit (w : PendingWrite U) : Edit U :=
  .write w.property w.value w.override

theorem PendingWrite.edit_within {w : PendingWrite U} (hw : w.property ∈ P) : w.edit.Within P := by
  rintro d ⟨⟩
  exact hw

/-- The second writes are the first ones in an order that keeps the writes through equal properties
in theirs; each write is paired with its place among the first. -/
def Rearranged (ws ws' : List (PendingWrite U)) : Prop :=
  ∃ placed : List (PendingWrite U × Nat), placed.Perm ws.zipIdx ∧ placed.map Prod.fst = ws' ∧
    placed.Pairwise fun a b => (a.1.property == b.1.property) = true → a.2 < b.2

namespace Rearranged

variable {ws ws' : List (PendingWrite U)}

theorem perm (h : Rearranged ws ws') : ws'.Perm ws := by
  obtain ⟨placed, hperm, rfl, -⟩ := h
  have hfst := hperm.map Prod.fst
  rwa [List.zipIdx_map_fst] at hfst

theorem filter_eq (h : Rearranged ws ws') (hP : P.Lawful) (hws : ∀ w ∈ ws, w.property ∈ P)
    {q : Descriptor U} (hq : q ∈ P) :
    ws'.filter (·.property == q) = ws.filter (·.property == q) := by
  have hws' : ∀ w ∈ ws', w.property ∈ P := fun w hw => hws w (h.perm.subset hw)
  obtain ⟨placed, hperm, rfl, hkept⟩ := h
  let equals : PendingWrite U × Nat → Bool := fun a => a.1.property == q
  have hplaced : (placed.filter equals).Pairwise fun a b => a.2 < b.2 := by
    refine (hkept.filter equals).imp_of_mem ?_
    intro a b ha hb hbefore
    obtain ⟨ha, haq⟩ := List.mem_filter.mp ha
    obtain ⟨hb, hbq⟩ := List.mem_filter.mp hb
    have haP := hws' a.1 (List.mem_map_of_mem ha)
    have hbP := hws' b.1 (List.mem_map_of_mem hb)
    exact hbefore (hP.equivAmong.trans haP hq hbP haq (hP.equivAmong.symm hbP hq hbq))
  have hzip : (ws.zipIdx.filter equals).Pairwise fun a b => a.2 < b.2 := by
    refine List.Pairwise.filter _ ?_
    rw [← List.pairwise_map (f := Prod.snd) (R := (· < ·)), List.zipIdx_map_snd]
    exact List.pairwise_lt_range' _
  have heq : placed.filter equals = ws.zipIdx.filter equals :=
    (hperm.filter equals).eq_of_pairwise
      (fun a b _ _ hab hba => absurd hba (Nat.lt_asymm hab)) hplaced hzip
  calc (placed.map Prod.fst).filter (·.property == q)
      = (placed.filter equals).map Prod.fst := by rw [List.filter_map]; rfl
    _ = (ws.zipIdx.filter equals).map Prod.fst := by rw [heq]
    _ = (ws.zipIdx.map Prod.fst).filter (·.property == q) := by rw [List.filter_map]; rfl
    _ = ws.filter (·.property == q) := by rw [List.zipIdx_map_fst]

end Rearranged

theorem Contents.Alike.run_filter {q : Descriptor U} {a b : Contents U} {ws : List (PendingWrite U)}
    (h : Alike P s q a b) (hP : P.Lawful) (hq : q ∈ P) (hws : ∀ w ∈ ws, w.property ∈ P) :
    Alike P s q (a.run (ws.map PendingWrite.edit))
      (b.run ((ws.filter (·.property == q)).map PendingWrite.edit)) := by
  induction ws generalizing a b with
  | nil => exact h
  | cons w ws ih =>
      obtain ⟨hw, hws⟩ := List.forall_mem_cons.mp hws
      have hwithin := PendingWrite.edit_within hw
      cases hwq : w.property == q with
      | true =>
          rw [List.filter_cons_of_pos (p := fun w : PendingWrite U => w.property == q) hwq]
          exact ih (h.after hP hq hwithin) hws
      | false =>
          rw [List.filter_cons_of_neg (by simp [hwq])]
          exact ih (h.after_left hP hq hwithin rfl hwq) hws

namespace RecordDraft

/-- The writes that a call adds to a draft of a schema. -/
def Call.writes (s : Schema U) (c : Call U) : List (PendingWrite U) :=
  (({ schema := s } : RecordDraft U).call c).pending

def Call.allowed? : Call U → Option Bool
  | allowInvalid allowed => some allowed
  | write .. | copyValues _ | compare _ => none

theorem pending_call (d : RecordDraft U) (c : Call U) :
    (d.call c).pending = d.pending ++ c.writes d.schema := by
  cases c <;> simp [call, Call.writes, write, copyValues, allowInvalid]

theorem pending_of (s : Schema U) (calls : List (Call U)) :
    (of s calls).pending = calls.flatMap (Call.writes s) := by
  induction calls using List.reverseRecOn with
  | nil => rfl
  | append_singleton calls c ih =>
      rw [of_concat, pending_call, of_schema, ih]
      simp

theorem invalidAllowed_of (s : Schema U) (calls : List (Call U)) :
    (of s calls).invalidAllowed = (calls.filterMap Call.allowed?).getLast?.getD false := by
  induction calls using List.reverseRecOn with
  | nil => rfl
  | append_singleton calls c ih =>
      rw [of_concat]
      cases c with
      | allowInvalid allowed => simp [call, allowInvalid, Call.allowed?]
      | write p v override => simpa [call, write, Call.allowed?] using ih
      | copyValues source => simpa [call, copyValues, Call.allowed?] using ih
      | compare comparison => simpa [call, Call.allowed?] using ih

theorem exists_writeAll_iff {c : Contents U} {ws : List (PendingWrite U)} :
    (∃ c', writeAll c ws = .ok c') ↔ ∀ w ∈ ws, c.outcome w.edit = .ok () := by
  induction ws generalizing c with
  | nil => simp [writeAll]
  | cons w ws ih =>
      have hlater : ∀ w' : PendingWrite U,
          (c.after w.edit).outcome w'.edit = c.outcome w'.edit := fun w' =>
        Contents.outcome_congr (Contents.after_kept c w.edit).2
          (Contents.invalidAllowed_after rfl) w'.edit
      have hafter : ∀ {c₁}, c.apply w.edit = .ok c₁ → c.after w.edit = c₁ := fun hfirst =>
        Contents.after_of_step (Contents.apply_eq_ok_iff.mp hfirst)
      rw [List.forall_mem_cons, Contents.outcome_eq_ok_iff]
      simp only [writeAll_cons_eq_ok_iff]
      constructor
      · rintro ⟨c', c₁, hfirst, hrest⟩
        refine ⟨⟨c₁, hfirst⟩, fun w' hw' => ?_⟩
        rw [← hlater w', hafter hfirst]
        exact ih.mp ⟨c', hrest⟩ w' hw'
      · rintro ⟨⟨c₁, hfirst⟩, hrest⟩
        obtain ⟨c', hc'⟩ := ih.mpr fun w' hw' => (hlater w').trans (hrest w' hw')
        exact ⟨c', c₁, hfirst, hafter hfirst ▸ hc'⟩

theorem exists_build_iff {d : RecordDraft U} {id : Ident} :
    (∃ r, d.build id = .ok r) ↔ ∀ w ∈ d.pending, (d.start id).outcome w.edit = .ok () := by
  rw [← exists_writeAll_iff, build_eq_map]
  cases writeAll (d.start id) d.pending <;> simp [Except.map]

/-- Both of two attempts make a record, and these hold the same values, or neither does. -/
inductive BuildsAlike (P : Population U) :
    Except Error (Record U) → Except Error (Record U) → Prop
  | built {a b : Record U} (same : Contents.SameValues P a.toContents b.toContents) :
      BuildsAlike P (.ok a) (.ok b)
  | failed (e f : Error) : BuildsAlike P (.error e) (.error f)

section

variable {d d' : RecordDraft U} {id id' : Ident}

theorem exists_build_congr (hschema : d'.schema = d.schema)
    (hallowed : d'.invalidAllowed = d.invalidAllowed) (hperm : d'.pending.Perm d.pending) :
    (∃ r, d.build id = .ok r) ↔ ∃ r, d'.build id' = .ok r := by
  have hanswer : ∀ e, (d.start id).outcome e = (d'.start id').outcome e :=
    Contents.outcome_congr hschema.symm hallowed.symm
  rw [exists_build_iff, exists_build_iff]
  constructor
  · exact fun hall w hw => (hanswer w.edit).symm.trans (hall w (hperm.subset hw))
  · exact fun hall w hw => (hanswer w.edit).trans (hall w (hperm.symm.subset hw))

theorem over_of_build {r : Record U} (hbuild : d.build id = .ok r)
    (hpending : ∀ w ∈ d.pending, w.property ∈ P) :
    Contents.Over P d.schema r.toContents := by
  have hstart : Contents.Over P d.schema (d.start id) := ⟨rfl, Table.keysIn_empty⟩
  rw [contents_of_build hbuild]
  refine hstart.run fun e he => ?_
  obtain ⟨w, hw, rfl⟩ := List.mem_map.mp he
  exact PendingWrite.edit_within (hpending w hw)

theorem sameValues_of_build {r r' : Record U} (hP : P.Lawful) (hs : P.Covers d.schema)
    (hpending : ∀ w ∈ d.pending, w.property ∈ P) (hschema : d'.schema = d.schema)
    (hallowed : d'.invalidAllowed = d.invalidAllowed) (h : Rearranged d.pending d'.pending)
    (hbuild : d.build id = .ok r) (hbuild' : d'.build id' = .ok r') :
    Contents.SameValues P r.toContents r'.toContents := by
  have hpending' : ∀ w ∈ d'.pending, w.property ∈ P := fun w hw => hpending w (h.perm.subset hw)
  have hstart : Contents.Over P d.schema (d.start id) := ⟨rfl, Table.keysIn_empty⟩
  have hstart' : Contents.Over P d.schema (d'.start id') := ⟨hschema, Table.keysIn_empty⟩
  refine .of_alike hs (over_of_build hbuild hpending)
    (hschema ▸ over_of_build hbuild' hpending') fun q hq => ?_
  rw [contents_of_build hbuild, contents_of_build hbuild']
  have hempty : Contents.Alike P d.schema q (d.start id) (d'.start id') :=
    ⟨hstart, hstart', hallowed.symm, rfl⟩
  have hsecond := (Contents.Alike.refl hstart' q).run_filter hP hq hpending'
  rw [h.filter_eq hP hpending hq] at hsecond
  exact (hempty.run_filter hP hq hpending).trans hsecond.symm

/-- Drafts of one schema that make the same writes, in the same order as far as equal properties go,
build alike. -/
theorem buildsAlike_of_rearranged (hP : P.Lawful) (hs : P.Covers d.schema)
    (hpending : ∀ w ∈ d.pending, w.property ∈ P) (hschema : d'.schema = d.schema)
    (hallowed : d'.invalidAllowed = d.invalidAllowed) (h : Rearranged d.pending d'.pending) :
    BuildsAlike P (d.build id) (d'.build id') := by
  have hbuilds : (∃ r, d.build id = .ok r) ↔ ∃ r, d'.build id' = .ok r :=
    exists_build_congr hschema hallowed h.perm
  cases hbuild : d.build id with
  | error e =>
      cases hbuild' : d'.build id' with
      | error e' => exact .failed e e'
      | ok r' =>
          obtain ⟨r, hr⟩ := hbuilds.mpr ⟨r', hbuild'⟩
          cases hbuild.symm.trans hr
  | ok r =>
      obtain ⟨r', hbuild'⟩ := hbuilds.mp ⟨r, hbuild⟩
      rw [hbuild']
      exact .built (sameValues_of_build hP hs hpending hschema hallowed h hbuild hbuild')

end

end RecordDraft

/-- Writes through different properties do not depend on their order, be it that a record is edited
or that one is built. -/
structure WritesInAnyOrder (P : Population U) : Prop where
  edits : ∀ (r : Record U) (es : List (Edit U)), r.MadeBy P P.Covers es →
    ∀ (e f : Edit U) (d d' : Descriptor U), e.Within P → f.Within P →
      e.property? = some d → f.property? = some d' → (d == d') = false →
        Contents.Interchange P r.toContents e f
  drafts : ∀ s : Schema U, P.Covers s → ∀ calls calls' : List (RecordDraft.Call U),
    (∀ c ∈ calls, c.Within P) → (∀ c ∈ calls', c.Within P) →
      Rearranged (calls.flatMap (RecordDraft.Call.writes s))
        (calls'.flatMap (RecordDraft.Call.writes s)) →
      (calls'.filterMap RecordDraft.Call.allowed?).getLast? =
        (calls.filterMap RecordDraft.Call.allowed?).getLast? →
      ∀ id id', RecordDraft.BuildsAlike P ((RecordDraft.of s calls).build id)
        ((RecordDraft.of s calls').build id')

theorem Population.Lawful.writesInAnyOrder (hP : P.Lawful) : WritesInAnyOrder P where
  edits r es hr e f d d' he hf hd hd' hapart :=
    hr.reachable.over.interchange hP hr.schema he hf hd hd' hapart
  drafts s hs calls calls' hcalls hcalls' hwrites hallowed id id' := by
    have hschema := RecordDraft.of_schema s calls
    refine RecordDraft.buildsAlike_of_rearranged hP (hschema.symm ▸ hs)
      (RecordDraft.pending_within hcalls) ((RecordDraft.of_schema s calls').trans hschema.symm)
      ?_ ?_
    · rw [RecordDraft.invalidAllowed_of, RecordDraft.invalidAllowed_of, hallowed]
    · rw [RecordDraft.pending_of, RecordDraft.pending_of]
      exact hwrites

open Sample in
theorem writesInAnyOrder_count_title :
    let s : Schema kinds := { members := [count, title] }
    let negative : RecordDraft.Call kinds := .write count.toDescriptor (some (number (-1))) false
    let named : RecordDraft.Call kinds := .write title.toDescriptor (some (text "a")) false
    let marks : RecordDraft.Call kinds := .write tallied.toDescriptor (some (text "||")) false
    population.Lawful ∧ population.Covers s ∧
      RecordDraft.BuildsAlike population
        ((RecordDraft.of s [negative, .allowInvalid true, named, marks]).build ⟨8⟩)
        ((RecordDraft.of s [named, negative, marks, .allowInvalid true]).build ⟨9⟩) ∧
      Contents.Interchange population (Record.create s ⟨9⟩).toContents
        (.set count.toDescriptor (some (-1 : Int)) false) (.clear title.toDescriptor) := by
  intro s negative named marks
  have hs : population.Covers s := covers (by simp [properties]) (by simp)
  have hP : population.Lawful := Population.ofList_lawful
  have hany : WritesInAnyOrder population := hP.writesInAnyOrder
  refine ⟨hP, hs, ?_, ?_⟩
  · refine hany.drafts s hs [negative, .allowInvalid true, named, marks]
      [named, negative, marks, .allowInvalid true] ?_ ?_ ?_ rfl ⟨8⟩ ⟨9⟩
    · simp only [List.forall_mem_cons, List.not_mem_nil, false_imp_iff, implies_true, and_true]
      exact ⟨count_mem, trivial, title_mem, tallied_mem⟩
    · simp only [List.forall_mem_cons, List.not_mem_nil, false_imp_iff, implies_true, and_true]
      exact ⟨title_mem, count_mem, tallied_mem, trivial⟩
    · refine ⟨[(⟨_, some (text "a"), false⟩, 1), (⟨_, some (number (-1)), false⟩, 0),
        (⟨_, some (text "||"), false⟩, 2)], .swap _ _ _, rfl, ?_⟩
      decide
  · have hcount : Edit.Within population (.set count.toDescriptor (some (-1 : Int)) false) := by
      rintro d ⟨⟩
      exact count_mem
    have htitle : Edit.Within population (.clear title.toDescriptor) := by
      rintro d ⟨⟩
      exact title_mem
    exact hany.edits _ [] (.create hs ⟨9⟩) _ _ _ _ hcount htitle rfl rfl rfl

end TypedRecords
