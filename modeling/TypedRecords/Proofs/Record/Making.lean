import TypedRecords.Proofs.Record.History

namespace TypedRecords

variable {U : Universe} {P : Population U} {𝒮 : Schema U → Prop}

namespace RecordDraft

inductive Call (U : Universe) where
  | write (d : Descriptor U) (v : Option (Value U)) (override : Bool)
  | copyValues (source : Contents U)
  | allowInvalid (allowed : Bool)
  | compare (comparison : Comparison U)

def call (d : RecordDraft U) : Call U → RecordDraft U
  | .write p v override => d.write p v override
  | .copyValues source => d.copyValues source
  | .allowInvalid allowed => d.allowInvalid allowed
  | .compare comparison => { d with comparison }

def of (s : Schema U) (calls : List (Call U)) : RecordDraft U :=
  calls.foldl call { schema := s }

def Call.Within (P : Population U) : Call U → Prop
  | write d _ _ => d ∈ P
  | copyValues source => ∀ p ∈ source.schema.members, p.toDescriptor ∈ P
  | allowInvalid _ | compare _ => True

/-- The empty record that building the draft starts from. -/
def start (d : RecordDraft U) (id : Ident) : Contents U :=
  { id, schema := d.schema, invalidAllowed := d.invalidAllowed }

/-- What building the draft does to an empty record. -/
def edits (d : RecordDraft U) : List (Edit U) :=
  .allowInvalid d.invalidAllowed :: d.pending.map fun w => .write w.property w.value w.override

theorem of_concat (s : Schema U) (calls : List (Call U)) (c : Call U) :
    of s (calls ++ [c]) = (of s calls).call c := by
  simp [of]

theorem call_schema (d : RecordDraft U) (c : Call U) : (d.call c).schema = d.schema := by
  cases c <;> rfl

theorem of_schema (s : Schema U) (calls : List (Call U)) : (of s calls).schema = s := by
  induction calls using List.reverseRecOn with
  | nil => rfl
  | append_singleton calls c ih =>
      rw [of_concat]
      exact (call_schema _ c).trans ih

theorem pending_within {s : Schema U} {calls : List (Call U)}
    (hcalls : ∀ c ∈ calls, c.Within P) : ∀ w ∈ (of s calls).pending, w.property ∈ P := by
  induction calls using List.reverseRecOn with
  | nil => exact fun w hw => nomatch hw
  | append_singleton calls c ih =>
      have hbefore := ih fun c' hc' => hcalls c' (by simp [hc'])
      have hc : c.Within P := hcalls c (by simp)
      rw [of_concat]
      cases c with
      | write p v override =>
          intro w hw
          rcases List.mem_append.mp hw with hw | hw
          · exact hbefore w hw
          · rw [List.mem_singleton.mp hw]
            exact hc
      | copyValues source =>
          intro w hw
          rcases List.mem_append.mp hw with hw | hw
          · exact hbefore w hw
          · obtain ⟨⟨p, v⟩, hentry, rfl⟩ := List.mem_map.mp hw
            exact hc p (Contents.mem_storedValues.mp (List.mem_filter.mp hentry).1).1
      | allowInvalid allowed => exact hbefore
      | compare comparison => exact hbefore

theorem edits_within {s : Schema U} {calls : List (Call U)} (hcalls : ∀ c ∈ calls, c.Within P) :
    ∀ e ∈ (of s calls).edits, e.Within P := by
  intro e he
  rcases List.mem_cons.mp he with rfl | he
  · rintro d ⟨⟩
  · obtain ⟨w, hw, rfl⟩ := List.mem_map.mp he
    rintro d ⟨⟩
    exact pending_within hcalls w hw

theorem writeAll_cons_eq_ok_iff {c c' : Contents U} {w : PendingWrite U}
    {ws : List (PendingWrite U)} :
    writeAll c (w :: ws) = .ok c' ↔
      ∃ c₁, c.write w.property w.value w.override = .ok c₁ ∧ writeAll c₁ ws = .ok c' := by
  rw [writeAll]
  cases c.write w.property w.value w.override with
  | error e => simp [bind, Except.bind]
  | ok c₁ => simp [bind, Except.bind]

theorem run_of_writeAll {c c' : Contents U} {ws : List (PendingWrite U)}
    (h : writeAll c ws = .ok c') :
    c.run (ws.map fun w => .write w.property w.value w.override) = c' := by
  induction ws generalizing c with
  | nil => exact Except.ok.inj h
  | cons w ws ih =>
      obtain ⟨c₁, hwrite, hrest⟩ := writeAll_cons_eq_ok_iff.mp h
      have hafter : c.after (.write w.property w.value w.override) = c₁ := by
        rw [Contents.after, Contents.apply, hwrite]
      rw [← ih hrest, ← hafter]
      rfl

end RecordDraft

namespace Contents

theorem after_kept (c : Contents U) (e : Edit U) :
    (c.after e).id = c.id ∧ (c.after e).schema = c.schema := by
  cases h : c.apply e with
  | error err => rw [after_of_error h]; exact ⟨rfl, rfl⟩
  | ok c' =>
      have hstep := apply_eq_ok_iff.mp h
      rw [after_of_step hstep]
      cases hstep <;> exact ⟨rfl, rfl⟩

theorem run_kept (c : Contents U) (es : List (Edit U)) :
    (c.run es).id = c.id ∧ (c.run es).schema = c.schema := by
  induction es using List.reverseRecOn with
  | nil => exact ⟨rfl, rfl⟩
  | append_singleton es e ih =>
      rw [run_concat]
      exact ⟨(after_kept _ e).1.trans ih.1, (after_kept _ e).2.trans ih.2⟩

theorem Step.relabel {c c' : Contents U} {e : Edit U} (h : c.Step e c') (id : Ident) :
    Step { c with id } e { c' with id } := by
  cases h with
  | allow allowed => exact .allow allowed
  | put leaves writable admits =>
      exact .put leaves ⟨writable.member, writable.path, writable.unprotected⟩
        ⟨admits.kind, admits.valid⟩

theorem after_relabel (c : Contents U) (e : Edit U) (id : Ident) :
    after { c with id } e = { c.after e with id } := by
  cases h : c.apply e with
  | ok c' =>
      have hstep := apply_eq_ok_iff.mp h
      rw [after_of_step hstep, after_of_step (hstep.relabel id)]
  | error err =>
      rw [after_of_error h]
      cases h' : apply { c with id } e with
      | error err' => rw [after_of_error h']
      | ok c' =>
          have hback := apply_eq_ok_iff.mpr ((apply_eq_ok_iff.mp h').relabel c.id)
          exact nomatch h.symm.trans hback

theorem run_relabel (c : Contents U) (es : List (Edit U)) (id : Ident) :
    run { c with id } es = { c.run es with id } := by
  induction es using List.reverseRecOn with
  | nil => rfl
  | append_singleton es e ih => rw [run_concat, run_concat, ih, after_relabel]

end Contents

namespace RecordDraft

theorem build_eq_map (d : RecordDraft U) (id : Ident) :
    d.build id = (writeAll (d.start id) d.pending).map fun c =>
      { toContents := c, comparison := d.comparison } := by
  change (writeAll (d.start id) d.pending >>= _) = _
  cases writeAll (d.start id) d.pending <;> rfl

theorem contents_of_build {d : RecordDraft U} {id : Ident} {r : Record U}
    (h : d.build id = .ok r) : r.toContents = (Record.create d.schema id).run d.edits := by
  rw [build_eq_map] at h
  cases hwrites : writeAll (d.start id) d.pending with
  | error e =>
      rw [hwrites] at h
      cases h
  | ok c =>
      rw [hwrites] at h
      cases h
      exact (run_of_writeAll hwrites).symm

theorem kept_of_build {d : RecordDraft U} {id : Ident} {r : Record U} (h : d.build id = .ok r) :
    r.id = id ∧ r.schema = d.schema := by
  have hkept := Contents.run_kept (Record.create d.schema id).toContents d.edits
  rw [← contents_of_build h] at hkept
  exact hkept

end RecordDraft

namespace Record

/-- A record over some schemas, with the edits of its history: those of its draft, those of the
record that it is a duplicate of, and its own, failed ones included. What is copied from may be any
record. -/
inductive MadeBy (P : Population U) (𝒮 : Schema U → Prop) : Record U → List (Edit U) → Prop
  | create {s : Schema U} (hs : 𝒮 s) (id : Ident) : MadeBy P 𝒮 (.create s id) []
  | build {s : Schema U} {calls : List (RecordDraft.Call U)} {id : Ident} {r : Record U} (hs : 𝒮 s)
      (hcalls : ∀ c ∈ calls, c.Within P) (built : (RecordDraft.of s calls).build id = .ok r) :
      MadeBy P 𝒮 r (RecordDraft.of s calls).edits
  | edit {r : Record U} {es : List (Edit U)} {e : Edit U} (before : MadeBy P 𝒮 r es)
      (he : e.Within P) : MadeBy P 𝒮 (r.withContents (r.after e)) (es ++ [e])
  | duplicate {r : Record U} {es : List (Edit U)} (source : MadeBy P 𝒮 r es) (id : Ident) :
      MadeBy P 𝒮 (r.duplicate id) es
  | duplicateInto {r r' : Record U} {s : Schema U} {id : Ident} (hs : 𝒮 s)
      (hr : ∀ p ∈ r.schema.members, p.toDescriptor ∈ P) (copied : r.duplicateInto s id = .ok r') :
      MadeBy P 𝒮 r'
        (RecordDraft.of s [.allowInvalid r.invalidAllowed, .copyValues r.toContents]).edits

namespace MadeBy

variable {r : Record U} {es : List (Edit U)}

theorem contents_eq (h : MadeBy P 𝒮 r es) :
    r.toContents = (Record.create r.schema r.id).run es := by
  have hbuilt : ∀ {d : RecordDraft U} {id : Ident} {r : Record U}, d.build id = .ok r →
      r.toContents = (Record.create r.schema r.id).run d.edits := by
    intro d id r h
    obtain ⟨hid, hschema⟩ := RecordDraft.kept_of_build h
    rw [hid, hschema]
    exact RecordDraft.contents_of_build h
  induction h with
  | create hs id => rfl
  | build hs hcalls built => exact hbuilt built
  | @edit r es e before he ih =>
      have hkept := Contents.after_kept r.toContents e
      change r.toContents.after e =
        (Record.create (r.after e).schema (r.after e).id).run (es ++ [e])
      rw [hkept.1, hkept.2, Contents.run_concat, ← ih]
  | @duplicate r es source id ih =>
      have hrun := Contents.run_relabel (Record.create r.schema r.id).toContents es id
      rw [← ih] at hrun
      exact hrun.symm
  | duplicateInto hs hr copied => exact hbuilt copied

theorem schema (h : MadeBy P 𝒮 r es) : 𝒮 r.schema := by
  induction h with
  | create hs id => exact hs
  | build hs hcalls built =>
      rw [(RecordDraft.kept_of_build built).2, RecordDraft.of_schema]
      exact hs
  | @edit r es e before he ih =>
      change 𝒮 (r.after e).schema
      rw [(Contents.after_kept r.toContents e).2]
      exact ih
  | duplicate source id ih => exact ih
  | duplicateInto hs hr copied =>
      have hschema := (RecordDraft.kept_of_build copied).2
      exact hschema ▸ hs

theorem within (h : MadeBy P 𝒮 r es) : ∀ e ∈ es, e.Within P := by
  induction h with
  | create hs id => exact fun e he => nomatch he
  | build hs hcalls built => exact RecordDraft.edits_within hcalls
  | edit before he ih =>
      intro e' he'
      rcases List.mem_append.mp he' with he' | he'
      · exact ih e' he'
      · rw [List.mem_singleton.mp he']
        exact he
  | duplicate source id ih => exact ih
  | duplicateInto hs hr copied =>
      refine RecordDraft.edits_within ?_
      simp only [List.mem_cons, List.not_mem_nil, or_false]
      rintro c (rfl | rfl)
      · trivial
      · exact hr

theorem reachable (h : MadeBy P 𝒮 r es) : r.toContents.Reachable P r.schema :=
  ⟨r.id, es, h.within, h.contents_eq⟩

end MadeBy

end Record

end TypedRecords
