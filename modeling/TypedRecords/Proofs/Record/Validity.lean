import TypedRecords.Proofs.Property.Validation
import TypedRecords.Proofs.Record.LastWrite
import TypedRecords.Proofs.Record.Store

namespace TypedRecords

variable {U : Universe} {P : Population U} {s : Schema U}

/-- A schema that was built from properties of a population, and whose members are told apart by
reference. -/
structure Schema.ByReference (P : Population U) (s : Schema U) : Prop where
  built : ∃ ms is, Built (· ∈ P) ms is s
  reference : ∀ p ∈ s.members, p.identity = none

namespace Schema.ByReference

theorem named (hs : s.ByReference P) : s.Named P where
  built := hs.built
  named p hp _ hi := nomatch (hs.reference p hp).symm.trans hi

theorem eq_of_beq (hs : s.ByReference P) {d : Descriptor U} (hd : d ∈ P) {p : Property U}
    (hp : p ∈ s.members) (hdp : (d == p.toDescriptor) = true) : d = p.toDescriptor := by
  rcases (Population.beq_iff hd (hs.named.members_within p hp)).mp hdp with rfl | ⟨i, -, hi, -⟩
  · rfl
  · exact nomatch (hs.reference p hp).symm.trans hi

end Schema.ByReference

namespace Contents

/-- Some successful edit of a history from `c` touched the property. -/
def Written (q : Descriptor U) (c : Contents U) (es : List (Edit U)) : Prop :=
  ∃ before e, before ++ [e] <+: es ∧ (∃ c', (c.run before).apply e = .ok c') ∧ e.Touches q

theorem not_written_nil (q : Descriptor U) (c : Contents U) : ¬Written q c [] := by
  rintro ⟨before, e, hstart, -⟩
  simp at hstart

theorem written_concat_iff {q : Descriptor U} {c : Contents U} {es : List (Edit U)} {e : Edit U} :
    Written q c (es ++ [e]) ↔
      Written q c es ∨ (∃ c', (c.run es).apply e = .ok c') ∧ e.Touches q := by
  constructor
  · rintro ⟨before, e', hstart, happlied⟩
    rcases List.prefix_concat_iff.mp hstart with hlast | hbefore
    · obtain ⟨rfl, he⟩ := List.append_inj' hlast rfl
      cases he
      exact Or.inr happlied
    · exact Or.inl ⟨before, e', hbefore, happlied⟩
  · rintro (⟨before, e', hbefore, happlied⟩ | happlied)
    · exact ⟨before, e', hbefore.trans (List.prefix_append _ _), happlied⟩
    · exact ⟨es, e, List.prefix_refl _, happlied⟩

theorem run_invalidAllowed {c : Contents U} {es : List (Edit U)} (hc : c.invalidAllowed = false)
    (hes : .allowInvalid true ∉ es) : (c.run es).invalidAllowed = false := by
  refine run_induction (motive := fun c => c.invalidAllowed = false) hc ?_
  intro c e c' he hc hstep
  cases hstep with
  | allow allowed =>
      cases allowed with
      | false => rfl
      | true => exact absurd he hes
  | put leaves writable admits => exact hc

theorem LastWrite.valid {q : Descriptor U} {c : Contents U} {es : List (Edit U)}
    {x : Option (Value U)} (h : LastWrite q c es x) (hc : c.invalidAllowed = false)
    (hes : .allowInvalid true ∉ es)
    (honly : ∀ e ∈ es, ∀ d, e.property? = some d → (d == q) = true → d = q)
    (hwritten : Written q c es) : q.validate x = .ok () := by
  induction h with
  | start => exact absurd hwritten (not_written_nil q c)
  | @written es e c' d x applied leaves equal =>
      have hflag := run_invalidAllowed hc fun he => hes (List.mem_append_left _ he)
      have hd : d = q := honly e (by simp) d leaves.property?_eq equal
      cases apply_eq_ok_iff.mp applied with
      | allow allowed => cases leaves
      | put leaves' writable admits =>
          obtain ⟨rfl, rfl⟩ := leaves.unique leaves'
          exact hd ▸ admits.valid hflag
  | @passed es e x before idle ih =>
      refine ih (fun he => hes (List.mem_append_left _ he))
        (fun e' he' => honly e' (List.mem_append_left _ he')) ?_
      rcases written_concat_iff.mp hwritten with hwritten | ⟨⟨c', happlied⟩, htouches⟩
      · exact hwritten
      · rcases idle with ⟨err, hfails⟩ | hnot
        · exact nomatch happlied.symm.trans hfails
        · exact absurd htouches hnot

theorem written_of_lastWrite {q : Descriptor U} {c : Contents U} {es : List (Edit U)} {v : Value U}
    (h : LastWrite q c es (some v)) : Written q c es := by
  generalize hx : some v = x at h
  induction h with
  | start => cases hx
  | written applied leaves equal =>
      exact written_concat_iff.mpr (Or.inr ⟨⟨_, applied⟩, _, leaves.property?_eq, equal⟩)
  | passed before idle ih => exact written_concat_iff.mpr (Or.inl (ih hx))

theorem LastWrite.get?_run_named {id : Ident} {es : List (Edit U)} {q : Descriptor U}
    {x : Option (Value U)} (h : LastWrite q (Record.create s id).toContents es x)
    (hs : s.Named P) (hes : ∀ e ∈ es, e.Within P) (hq : q ∈ P.named) :
    ((Record.create s id).run es).values.get? q = x := by
  refine h.get?_run_of_applied (s := s) rfl P.named_lawful hq fun before e hstart => ?_
  have hwithin : ∀ e' ∈ before ++ [e], e'.Within P := fun e' he' => hes e' (hstart.subset he')
  have hover : Over P.named s ((Record.create s id).run before) :=
    (Reachable.named ⟨id, before, fun e' he' => hwithin e' (by simp [he']), rfl⟩ hs).over
  refine ⟨hover, ?_⟩
  rintro ⟨c', happlied⟩
  exact (apply_eq_ok_iff.mp happlied).within_named hs hover.schema_eq (hwithin e (by simp))

/-- A member with what is wrong with its value, if it can be read and is not valid. -/
def report? (c : Contents U) (p : Property U) : Option (Property U × ValidationError) :=
  match c.get p with
  | .ok v =>
    match p.validate v with
    | .ok _ => none
    | .error f => some (p, f)
  | .error _ => none

/-- What is wrong with the members, in the order of the schema. -/
def reports (c : Contents U) : List (Property U × ValidationError) :=
  c.schema.members.filterMap c.report?

theorem mem_reports {c : Contents U} {p : Property U} {f : ValidationError} :
    (p, f) ∈ c.reports ↔
      p ∈ c.schema.members ∧ ∃ v, c.get p = .ok v ∧ p.validate v = .error f := by
  rw [reports, List.mem_filterMap]
  constructor
  · rintro ⟨q, hq, h⟩
    rw [report?] at h
    split at h
    · rename_i v hv
      split at h
      · cases h
      · rename_i f' hf
        cases h
        exact ⟨hq, v, hv, hf⟩
    · cases h
  · rintro ⟨hp, v, hv, hf⟩
    exact ⟨p, hp, by rw [report?, hv]; simp only [hf]⟩

theorem get_error {c : Contents U} {p : Property U} {e : Error} (h : c.get p = .error e) :
    ∃ f, e = .property f := by
  have hread := get_eq_error_iff.mp h
  rw [read] at hread
  split at hread
  · split at hread
    · rcases provide_error hread with rfl | ⟨source, rfl⟩
      · exact ⟨_, rfl⟩
      · exact ⟨_, rfl⟩
    · rw [stored] at hread
      split at hread
      · cases hread
      · split at hread
        · cases hread
        · exact ⟨_, (Except.error.inj hread).symm⟩
  · exact ⟨_, (Except.error.inj hread).symm⟩

theorem failures_eq_ok_iff {c : Contents U} {ps : List (Property U)} {fs : List ValidationError} :
    c.failures ps = .ok fs ↔
      (∀ p ∈ ps, ∃ v, c.get p = .ok v) ∧ fs = (ps.filterMap c.report?).map Prod.snd := by
  induction ps generalizing fs with
  | nil => simp [failures, eq_comm]
  | cons p ps ih =>
      rw [failures]
      cases hget : c.get p with
      | error e => simp [bind, Except.bind, hget]
      | ok v =>
          cases hrest : c.failures ps with
          | error e =>
              have hnot : ¬∀ q ∈ ps, ∃ v, c.get q = .ok v := by
                intro hall
                have hok := ih.mpr ⟨hall, rfl⟩
                rw [hrest] at hok
                cases hok
              simp [bind, Except.bind, hnot]
          | ok others =>
              obtain ⟨hall, rfl⟩ := ih.mp hrest
              rw [List.forall_mem_cons, and_iff_right ⟨⟨v, hget⟩, hall⟩]
              cases hvalid : p.validate v <;>
                simp [bind, Except.bind, pure, Except.pure, report?, hget, hvalid, eq_comm]

theorem failures_error {c : Contents U} {ps : List (Property U)} {e : Error}
    (h : c.failures ps = .error e) : ∃ p ∈ ps, c.get p = .error e := by
  induction ps with
  | nil => cases h
  | cons p ps ih =>
      rw [failures] at h
      cases hget : c.get p with
      | error e' =>
          rw [hget] at h
          cases h
          exact ⟨p, List.mem_cons_self, hget⟩
      | ok v =>
          rw [hget] at h
          cases hrest : c.failures ps with
          | error e' =>
              rw [hrest] at h
              cases h
              obtain ⟨q, hq, hfails⟩ := ih hrest
              exact ⟨q, List.mem_cons_of_mem _ hq, hfails⟩
          | ok others =>
              rw [hrest] at h
              cases hvalid : p.validate v <;>
                simp [bind, Except.bind, pure, Except.pure, hvalid] at h

theorem validate_eq_invalid_iff {c : Contents U} {e : ValidationError} :
    c.validate = .error (.validation e) ↔
      (∀ p ∈ c.schema.members, ∃ v, c.get p = .ok v) ∧
        ValidationError.ofFailures (c.reports.map Prod.snd) = .error e := by
  rw [validate]
  cases hfailures : c.failures c.schema.members with
  | error e' =>
      obtain ⟨p, hp, hget⟩ := failures_error hfailures
      obtain ⟨f, rfl⟩ := get_error hget
      have hnot : ¬∀ p ∈ c.schema.members, ∃ v, c.get p = .ok v := by
        intro hall
        obtain ⟨v, hv⟩ := hall p hp
        exact nomatch hget.symm.trans hv
      simp [bind, Except.bind, hnot]
  | ok fs =>
      obtain ⟨hall, rfl⟩ := failures_eq_ok_iff.mp hfailures
      rw [and_iff_right hall, reports]
      simp only [bind, Except.bind]
      cases ValidationError.ofFailures
        ((c.schema.members.filterMap c.report?).map Prod.snd) <;> simp [pure, Except.pure]

/-- After a history from `start`, the values of the record are valid, and so is the lack of one
where it was removed; what validation reports are virtual members, and members never written. -/
structure OnlyValid (c start : Contents U) (es : List (Edit U)) : Prop where
  stored : ∀ entry ∈ c.values.entries, ∃ m ∈ c.schema.members, m.toDescriptor = entry.1 ∧
    m.validate (some entry.2) = .ok () ∧ ∀ r ∈ m.attributes.rules, m.Satisfies (some entry.2) r
  removed : ∀ m ∈ c.schema.members, Written m.toDescriptor start es →
    LastWrite m.toDescriptor start es none →
      m.validate none = .ok () ∧ ∀ r ∈ m.attributes.rules, m.Satisfies none r
  validate_iff : ∀ e, c.validate = .error (.validation e) ↔
    (∀ m ∈ c.schema.members, ∃ v, c.get m = .ok v) ∧
      ValidationError.ofFailures (c.reports.map Prod.snd) = .error e
  reported : ∀ m f, (m, f) ∈ c.reports →
    m.isVirtual = true ∨ ¬Written m.toDescriptor start es

end Contents

open Contents

namespace Record.MadeBy

variable {r : Record U} {es : List (Edit U)}

theorem get?_of_lastWrite (h : r.MadeBy P (Schema.ByReference P) es) {m : Property U}
    (hm : m ∈ r.schema.members) {x : Option (Value U)}
    (hx : LastWrite m.toDescriptor (Record.create r.schema r.id).toContents es x) :
    r.values.get? m.toDescriptor = x := by
  rw [h.contents_eq]
  exact hx.get?_run_named h.schema.named h.within (h.schema.named.covered m hm)

theorem valid_of_lastWrite (h : r.MadeBy P (Schema.ByReference P) es)
    (hes : .allowInvalid true ∉ es) {m : Property U} (hm : m ∈ r.schema.members)
    {x : Option (Value U)}
    (hx : LastWrite m.toDescriptor (Record.create r.schema r.id).toContents es x)
    (hwritten : Written m.toDescriptor (Record.create r.schema r.id).toContents es) :
    m.validate x = .ok () := by
  refine hx.valid rfl hes (fun e he d hd hequal => ?_) hwritten
  exact h.schema.eq_of_beq (h.within e he d hd) hm hequal

theorem exists_member (h : r.MadeBy P (Schema.ByReference P) es)
    {entry : Descriptor U × Value U} (hentry : entry ∈ r.values.entries) :
    ∃ m ∈ r.schema.members, m.toDescriptor = entry.1 ∧
      r.values.get? m.toDescriptor = some entry.2 := by
  have hs := h.schema
  have hnamed := h.reachable.named hs.named
  have hequiv := P.named_lawful.equivAmong
  have hkey := hnamed.over.keys entry hentry
  obtain ⟨m, hm, hmk⟩ := Schema.contains_iff.mp (h.reachable.keys_contained entry hentry)
  have hmP := hs.named.covered m hm
  refine ⟨m, hm, (hs.eq_of_beq hkey.1 hm (hequiv.symm hmP hkey hmk)).symm, ?_⟩
  exact (hnamed.distinct P.named_lawful).get?_of_mem hequiv hnamed.over.keys hentry hmP hmk

/-- However a record was made and edited, if invalid values were never allowed it holds none. -/
theorem onlyValid (h : r.MadeBy P (Schema.ByReference P) es) (hes : .allowInvalid true ∉ es) :
    r.OnlyValid (Record.create r.schema r.id).toContents es := by
  have hexists : ∀ m : Property U, ∃ x,
      LastWrite m.toDescriptor (Record.create r.schema r.id).toContents es x := fun m =>
    exists_lastWrite _ _ _
  refine ⟨?_, ?_, fun e => validate_eq_invalid_iff, ?_⟩
  · intro entry hentry
    obtain ⟨m, hm, hkey, hget⟩ := h.exists_member hentry
    obtain ⟨x, hx⟩ := hexists m
    have hxv : x = some entry.2 := (h.get?_of_lastWrite hm hx).symm.trans hget
    subst hxv
    have hok := h.valid_of_lastWrite hes hm hx (written_of_lastWrite hx)
    exact ⟨m, hm, hkey, hok, Signature.validate_eq_ok_iff.mp hok⟩
  · intro m hm hwritten hremoved
    have hok := h.valid_of_lastWrite hes hm hremoved hwritten
    exact ⟨hok, Signature.validate_eq_ok_iff.mp hok⟩
  · intro m f hreport
    obtain ⟨hm, v, hget, hinvalid⟩ := mem_reports.mp hreport
    cases hpath : m.isVirtual with
    | true => exact Or.inl rfl
    | false =>
        right
        intro hwritten
        obtain ⟨x, hx⟩ := hexists m
        have hxv : x = v :=
          (h.get?_of_lastWrite hm hx).symm.trans ((get_eq_ok_iff hpath).mp hget).2.1
        exact nomatch (h.valid_of_lastWrite hes hm (hxv ▸ hx) hwritten).symm.trans hinvalid

end Record.MadeBy

open Sample in
theorem onlyValid_score_title :
    let start : Record kinds := .create (.of [score, title]) ⟨9⟩
    let first : Edit kinds := .set score.toDescriptor (some (3 : Int)) false
    let second : Edit kinds := .writeModel score.toDescriptor (some (text "|||||"))
    let third : Edit kinds := .clear title.toDescriptor
    let written := start.withContents (start.after first)
    let refused := written.withContents (written.after second)
    let cleared := refused.withContents (refused.after third)
    let r := cleared.duplicate ⟨11⟩
    r.OnlyValid (Record.create r.schema r.id).toContents [first, second, third] ∧
      r.storedValues = [(score, number 3)] ∧
        LastWrite title.toDescriptor (Record.create r.schema r.id).toContents
          [first, second, third] none := by
  intro start first second third written refused cleared r
  have hscore : score.toDescriptor ∈ scores := List.mem_map_of_mem (by simp)
  have htitle : title.toDescriptor ∈ scores := List.mem_map_of_mem (by simp)
  have hmembers : ∀ p ∈ [score, title], p.toDescriptor ∈ scores := by simp [hscore, htitle]
  have hreference : Schema.ByReference scores (.of [score, title]) := by
    refine ⟨⟨_, _, .of hmembers⟩, ?_⟩
    intro p hp
    rcases List.mem_pair.mp hp with rfl | rfl <;> rfl
  have hfirst : first.Within scores := by
    rintro d ⟨⟩
    exact hscore
  have hsecond : second.Within scores := by
    rintro d ⟨⟩
    exact hscore
  have hthird : third.Within scores := by
    rintro d ⟨⟩
    exact htitle
  have hmade : r.MadeBy scores (Schema.ByReference scores) ([] ++ [first] ++ [second] ++ [third]) :=
    .duplicate (.edit (.edit (.edit (.create hreference ⟨9⟩) hfirst) hsecond) hthird) ⟨11⟩
  have hnever : Edit.allowInvalid true ∉ ([first, second, third] : List (Edit kinds)) := by
    simp [first, second, third]
  have hcleared : LastWrite title.toDescriptor (Record.create r.schema r.id).toContents
      ([first, second] ++ [third]) none := .written rfl .clear rfl
  exact ⟨hmade.onlyValid hnever, rfl, hcleared⟩

end TypedRecords
