import TypedRecords.Proofs.Record.Reading
import TypedRecords.Proofs.Sample

namespace TypedRecords.Contents

variable {U : Universe} {P : Population U} {s : Schema U}

/-- Among the edits of a history from `c`, the last successful one that touches `q` left the given
value; if there is none, the value is absent. -/
inductive LastWrite (q : Descriptor U) (c : Contents U) :
    List (Edit U) → Option (Value U) → Prop
  | start : LastWrite q c [] none
  | written {es : List (Edit U)} {e : Edit U} {c' : Contents U} {d : Descriptor U}
      {x : Option (Value U)} (applied : (c.run es).apply e = .ok c') (leaves : e.Leaves d x)
      (equal : (d == q) = true) : LastWrite q c (es ++ [e]) x
  | passed {es : List (Edit U)} {e : Edit U} {x : Option (Value U)} (before : LastWrite q c es x)
      (idle : (∃ err, (c.run es).apply e = .error err) ∨ ¬e.Touches q) :
      LastWrite q c (es ++ [e]) x

theorem get?_after_of_leaves {c c' : Contents U} {e : Edit U} {d q : Descriptor U}
    {x : Option (Value U)} (hc : Over P s c) (hP : P.Lawful) (he : e.Within P) (hq : q ∈ P)
    (applied : c.apply e = .ok c') (leaves : e.Leaves d x) (equal : (d == q) = true) :
    (c.after e).values.get? q = x := by
  have hd : d ∈ P := he d leaves.property?_eq
  rw [after_of_step (apply_eq_ok_iff.mp applied)]
  cases apply_eq_ok_iff.mp applied with
  | allow allowed => cases leaves
  | put leaves' writable admits =>
      obtain ⟨rfl, rfl⟩ := leaves.unique leaves'
      rw [hc.get?_put hP hd hq, if_pos (hP.equivAmong.symm hd hq equal)]

theorem LastWrite.get?_run_of_applied {c : Contents U} {es : List (Edit U)} {q : Descriptor U}
    {x : Option (Value U)} (h : LastWrite q c es x) (hempty : c.values.get? q = none)
    (hP : P.Lawful) (hq : q ∈ P)
    (hes : ∀ before e, before ++ [e] <+: es → Over P s (c.run before) ∧
      ((∃ c', (c.run before).apply e = .ok c') → e.Within P)) :
    (c.run es).values.get? q = x := by
  induction h with
  | start => exact hempty
  | @written es e c' d x applied leaves equal =>
      obtain ⟨hover, hwithin⟩ := hes es e (List.prefix_refl _)
      rw [run_concat]
      exact get?_after_of_leaves hover hP (hwithin ⟨c', applied⟩) hq applied leaves equal
  | @passed es e x before idle ih =>
      obtain ⟨hover, hwithin⟩ := hes es e (List.prefix_refl _)
      have hbefore := ih fun before' e' hstart =>
        hes before' e' (hstart.trans (List.prefix_append _ _))
      rw [run_concat]
      cases happlied : (c.run es).apply e with
      | error err =>
          rw [after_of_error happlied]
          exact hbefore
      | ok c' =>
          rw [get?_after_of_idle hover hP (hwithin ⟨c', happlied⟩) hq idle]
          exact hbefore

theorem LastWrite.get?_run {c : Contents U} {es : List (Edit U)} {q : Descriptor U}
    {x : Option (Value U)} (h : LastWrite q c es x) (hc : Over P s c)
    (hempty : c.values.get? q = none) (hP : P.Lawful) (hes : ∀ e ∈ es, e.Within P) (hq : q ∈ P) :
    (c.run es).values.get? q = x := by
  refine h.get?_run_of_applied (s := s) hempty hP hq fun before e hstart => ?_
  have hwithin : ∀ e' ∈ before ++ [e], e'.Within P := fun e' he' => hes e' (hstart.subset he')
  exact ⟨hc.run fun e' he' => hwithin e' (by simp [he']), fun _ => hwithin e (by simp)⟩

theorem exists_lastWrite (q : Descriptor U) (c : Contents U) (es : List (Edit U)) :
    ∃ x, LastWrite q c es x := by
  induction es using List.reverseRecOn with
  | nil => exact ⟨none, .start⟩
  | append_singleton es e ih =>
      obtain ⟨x, hx⟩ := ih
      cases h : (c.run es).apply e with
      | error err => exact ⟨x, .passed hx (.inl ⟨err, h⟩)⟩
      | ok c' =>
          by_cases htouches : e.Touches q
          · obtain ⟨d, hd, hdq⟩ := htouches
            cases apply_eq_ok_iff.mp h with
            | allow allowed => cases hd
            | @put e d' y leaves writable admits =>
                have hdd : d' = d := Option.some.inj (leaves.property?_eq.symm.trans hd)
                exact ⟨y, .written h leaves (hdd ▸ hdq)⟩
          · exact ⟨x, .passed hx (.inr htouches)⟩

/-- After any history of a record that starts empty, reading a path property succeeds and gives
what the last successful edit that touched it left; no other edit changes what is read. -/
theorem get_run_create_iff_lastWrite (hP : P.Lawful) (hkinds : P.RespectsKinds)
    (id : Ident) {es : List (Edit U)} (hes : ∀ e ∈ es, e.Within P)
    {q : Property U} (hq : q.toDescriptor ∈ P) (hpath : q.isVirtual = false)
    (hmember : s.contains q.toDescriptor = true) :
    (∃ x, ((Record.create s id).run es).get q = .ok x) ∧
      (∀ x, ((Record.create s id).run es).get q = .ok x ↔
        LastWrite q.toDescriptor (Record.create s id).toContents es x) ∧
      ∀ before e, before ++ [e] <+: es →
        ((∃ err, ((Record.create s id).run before).apply e = .error err) ∨
          ¬e.Touches q.toDescriptor) →
        ((Record.create s id).run (before ++ [e])).get q =
          ((Record.create s id).run before).get q := by
  have hread : ∀ {es : List (Edit U)}, (∀ e ∈ es, e.Within P) →
      ((Record.create s id).run es).get q =
        .ok (((Record.create s id).run es).values.get? q.toDescriptor) := by
    intro es hes
    have hc : Reachable P s ((Record.create s id).run es) := ⟨id, es, hes, rfl⟩
    refine get_of_path ?_ hpath (hc.typed hP hkinds _ hq)
    rw [contains, hc.over.schema_eq]
    exact hmember
  refine ⟨⟨_, hread hes⟩, ?_, ?_⟩
  · intro x
    rw [hread hes, Except.ok.injEq]
    obtain ⟨y, hy⟩ := exists_lastWrite q.toDescriptor (Record.create s id).toContents es
    have hlast : ∀ {z}, LastWrite q.toDescriptor (Record.create s id).toContents es z →
        ((Record.create s id).run es).values.get? q.toDescriptor = z :=
      fun hz => hz.get?_run (over_create P s id) rfl hP hes hq
    constructor
    · intro hx
      exact hx ▸ (hlast hy).symm ▸ hy
    · exact hlast
  · intro before e hstart idle
    have hwithin : ∀ e' ∈ before ++ [e], e'.Within P := fun e' he' => hes e' (hstart.subset he')
    have hbefore : ∀ e' ∈ before, e'.Within P := fun e' he' => hwithin e' (by simp [he'])
    rw [hread hwithin, hread hbefore, run_concat,
      get?_after_of_idle ((over_create P s id).run hbefore) hP (hwithin e (by simp)) hq idle]

open Sample in
theorem get_run_create_count :
    ((Record.create (.of [count, title]) ⟨9⟩).run
        [.set count.toDescriptor (some (2 : Int)) false,
          .write tallied.toDescriptor (some (text "|||")) false,
          .set count.toDescriptor (some (-1 : Int)) false,
          .clear title.toDescriptor]).get count = .ok (some (number 3)) := by
  let first : Edit kinds := .set count.toDescriptor (some (2 : Int)) false
  let second : Edit kinds := .write tallied.toDescriptor (some (text "|||")) false
  let third : Edit kinds := .set count.toDescriptor (some (-1 : Int)) false
  let fourth : Edit kinds := .clear title.toDescriptor
  have hwithin : ∀ e ∈ [first, second, third, fourth], e.Within population := by
    simp only [List.mem_cons, List.not_mem_nil, or_false]
    rintro e (rfl | rfl | rfl | rfl) d hd <;> cases hd
    · exact count_mem
    · exact tallied_mem
    · exact count_mem
    · exact title_mem
  have hget := get_run_create_iff_lastWrite (s := .of [count, title]) Population.ofList_lawful
    Population.ofList_respectsKinds ⟨9⟩ hwithin count_mem rfl rfl
  let start : Contents kinds := (Record.create (.of [count, title]) ⟨9⟩).toContents
  have hsecond : LastWrite count.toDescriptor start ([first] ++ [second]) (some (number 3)) :=
    .written rfl (.write (.converted _ ⟨Kind.text, tallyMarks⟩ _ rfl rfl rfl)) rfl
  have hthird : LastWrite count.toDescriptor start ([first, second] ++ [third])
      (some (number 3)) :=
    .passed hsecond (.inl ⟨_, rfl⟩)
  have hfourth : LastWrite count.toDescriptor start ([first, second, third] ++ [fourth])
      (some (number 3)) := by
    refine .passed hthird (.inr ?_)
    rintro ⟨d, hd, hequal⟩
    cases hd
    cases hequal
  exact (hget.2.1 _).mpr hfourth

end TypedRecords.Contents
