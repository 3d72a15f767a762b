import TypedRecords.Proofs.Sample
import TypedRecords.Proofs.Schema.Change

/-!
A property can be marked through another that equals a member, so an identifier need not be a
member itself.
-/

namespace TypedRecords.Schema

open Change

variable {U : Universe} {P : Descriptor U → Prop} {ms is : List (Change U)} {s : Schema U}

/-- A schema built from nothing by calls on properties that satisfy `P`, with the changes that the
calls made to the members and to the identifiers, in order. A copy goes on with the history of the
schema that it was made of. -/
inductive Built (P : Descriptor U → Prop) :
    List (Change U) → List (Change U) → Schema U → Prop
  | empty : Built P [] [] .empty
  | add {ms is : List (Change U)} {s : Schema U} {p : Property U} (before : Built P ms is s)
      (hp : P p.toDescriptor) : Built P (ms ++ [keep p]) is (s.add p)
  | addAll {ms is : List (Change U)} {s : Schema U} {ps : List (Property U)}
      (before : Built P ms is s) (hps : ∀ p ∈ ps, P p.toDescriptor) :
      Built P (ms ++ ps.map keep) is (s.addAll ps)
  | addSchema {ms is ms' is' : List (Change U)} {s t : Schema U} (before : Built P ms is s)
      (other : Built P ms' is' t) :
      Built P (ms ++ t.members.map keep) (is ++ t.identifiers.map keep) (s.addSchema t)
  | remove {ms is : List (Change U)} {s : Schema U} {d : Descriptor U} (before : Built P ms is s)
      (hd : P d) : Built P (ms ++ [drop d]) (is ++ [drop d]) (s.remove d)
  | mark {ms is : List (Change U)} {s s' : Schema U} {p : Property U} (before : Built P ms is s)
      (hp : P p.toDescriptor) (marked : s.mark p = .ok s') : Built P ms (is ++ [keep p]) s'
  | markAll {ms is : List (Change U)} {s s' : Schema U} {ps : List (Property U)}
      (before : Built P ms is s) (hps : ∀ p ∈ ps, P p.toDescriptor)
      (marked : s.markAll ps = .ok s') : Built P ms (is ++ ps.map keep) s'
  | withParameter {ms is : List (Change U)} {s : Schema U} (before : Built P ms is s)
      (key : String) (v : Value U) : Built P ms is (s.withParameter key v)
  | copy {ms is : List (Change U)} {s : Schema U} (before : Built P ms is s) :
      Built P ms is s.copy

theorem addAll_eq (s : Schema U) (ps : List (Property U)) :
    s.addAll ps = { s with members := ps.foldl append s.members } := by
  rw [addAll]
  induction ps generalizing s with
  | nil => rfl
  | cons p ps ih =>
      rw [List.foldl_cons, ih]
      rfl

theorem mark_eq_ok_iff {p : Property U} {s' : Schema U} :
    s.mark p = .ok s' ↔
      s.contains p.toDescriptor = true ∧ s' = { s with identifiers := append s.identifiers p } := by
  rw [mark]
  split
  · rename_i hmember
    rw [Except.ok.injEq, eq_comm]
    exact ⟨fun h => ⟨hmember, h⟩, fun h => h.2⟩
  · rename_i hmember
    simp [hmember]

theorem mark_eq_error_iff {p : Property U} {e : SchemaError} :
    s.mark p = .error e ↔
      (∀ m ∈ s.members, (m.toDescriptor == p.toDescriptor) = false) ∧
        e = .notMember p.relativeName := by
  rw [← occurs_eq_false_iff, mark, contains]
  cases occurs p.toDescriptor s.members <;> simp [eq_comm]

theorem markAll_cons (s : Schema U) (p : Property U) (ps : List (Property U)) :
    s.markAll (p :: ps) = (s.mark p).bind fun s' => s'.markAll ps := by
  rw [markAll, List.foldlM_cons]
  rfl

theorem markAll_eq_ok_iff {ps : List (Property U)} {s' : Schema U} :
    s.markAll ps = .ok s' ↔
      (∀ p ∈ ps, s.contains p.toDescriptor = true) ∧
        s' = { s with identifiers := ps.foldl append s.identifiers } := by
  induction ps generalizing s with
  | nil =>
      change Except.ok s = .ok s' ↔ _
      constructor
      · rintro ⟨⟩
        exact ⟨by simp, rfl⟩
      · rintro ⟨-, rfl⟩
        rfl
  | cons p ps ih =>
      rw [markAll_cons]
      cases hmark : s.mark p with
      | error e =>
          have hnot : s.contains p.toDescriptor = false :=
            occurs_eq_false_iff.mpr (mark_eq_error_iff.mp hmark).1
          simp [Except.bind, hnot]
      | ok s₁ =>
          obtain ⟨hmember, rfl⟩ := mark_eq_ok_iff.mp hmark
          simp only [Except.bind, ih, contains, List.forall_mem_cons, List.foldl_cons] at hmember ⊢
          simp only [hmember, true_and]

theorem markAll_eq_error_iff {ps : List (Property U)} {e : SchemaError} :
    s.markAll ps = .error e ↔
      ∃ before p after, ps = before ++ p :: after ∧
        (∀ q ∈ before, s.contains q.toDescriptor = true) ∧
          (∀ m ∈ s.members, (m.toDescriptor == p.toDescriptor) = false) ∧
            e = .notMember p.relativeName := by
  induction ps generalizing s with
  | nil =>
      change Except.ok s = .error e ↔ _
      simp
  | cons p ps ih =>
      rw [markAll_cons]
      constructor
      · intro h
        cases hmark : s.mark p with
        | error e' =>
            rw [hmark] at h
            cases h
            exact ⟨[], p, ps, rfl, by simp, mark_eq_error_iff.mp hmark⟩
        | ok s₁ =>
            rw [hmark] at h
            obtain ⟨hmember, rfl⟩ := mark_eq_ok_iff.mp hmark
            obtain ⟨before, q, after, rfl, hbefore, hq⟩ := ih.mp h
            exact ⟨p :: before, q, after, rfl, List.forall_mem_cons.mpr ⟨hmember, hbefore⟩, hq⟩
      · rintro ⟨before, q, after, hps, hbefore, hq⟩
        cases before with
        | nil =>
            obtain ⟨rfl, rfl⟩ := List.cons.inj hps
            rw [mark_eq_error_iff.mpr hq]
            rfl
        | cons p' before =>
            obtain ⟨rfl, rfl⟩ := List.cons.inj hps
            obtain ⟨hmember, hbefore⟩ := List.forall_mem_cons.mp hbefore
            rw [mark_eq_ok_iff.mpr ⟨hmember, rfl⟩]
            exact ih.mpr ⟨before, q, after, rfl, hbefore, hq⟩

namespace Built

theorem members_eq (h : Built P ms is s) : s.members = result ms := by
  induction h with
  | empty => rfl
  | add before hp ih =>
      rw [result_append, ← ih]
      rfl
  | addAll before hps ih => rw [result_append, ← ih, foldl_keep, addAll_eq]
  | addSchema before other ih ih' =>
      rw [result_append, ← ih, foldl_keep]
      rfl
  | remove before hd ih =>
      rw [result_append, ← ih]
      rfl
  | mark before hp marked ih =>
      obtain ⟨-, rfl⟩ := mark_eq_ok_iff.mp marked
      exact ih
  | markAll before hps marked ih =>
      obtain ⟨-, rfl⟩ := markAll_eq_ok_iff.mp marked
      exact ih
  | withParameter before key v ih => exact ih
  | @copy ms is s before ih =>
      have hdistinct : Distinct ([] ++ s.members) := ih ▸ distinct_result ms
      exact (foldl_append_of_distinct hdistinct).trans ih

theorem identifiers_eq (h : Built P ms is s) : s.identifiers = result is := by
  induction h with
  | empty => rfl
  | add before hp ih => exact ih
  | addAll before hps ih =>
      rw [addAll_eq]
      exact ih
  | addSchema before other ih ih' =>
      rw [result_append, ← ih, foldl_keep]
      rfl
  | remove before hd ih =>
      rw [result_append, ← ih]
      rfl
  | mark before hp marked ih =>
      obtain ⟨-, rfl⟩ := mark_eq_ok_iff.mp marked
      rw [result_append, ← ih]
      rfl
  | markAll before hps marked ih =>
      obtain ⟨-, rfl⟩ := markAll_eq_ok_iff.mp marked
      rw [result_append, ← ih, foldl_keep]
  | withParameter before key v ih => exact ih
  | @copy ms is s before ih =>
      have hdistinct : Distinct ([] ++ s.identifiers) := ih ▸ distinct_result is
      exact (foldl_append_of_distinct hdistinct).trans ih

theorem within (h : Built P ms is s) :
    (∀ c ∈ ms, P c.descriptor) ∧ ∀ c ∈ is, P c.descriptor := by
  induction h with
  | empty => simp
  | add before hp ih =>
      exact ⟨List.forall_mem_append.mpr ⟨ih.1, List.forall_mem_singleton.mpr hp⟩, ih.2⟩
  | addAll before hps ih =>
      refine ⟨List.forall_mem_append.mpr ⟨ih.1, ?_⟩, ih.2⟩
      exact List.forall_mem_map.mpr hps
  | addSchema before other ih ih' =>
      refine ⟨List.forall_mem_append.mpr ⟨ih.1, List.forall_mem_map.mpr ?_⟩,
        List.forall_mem_append.mpr ⟨ih.2, List.forall_mem_map.mpr ?_⟩⟩
      · intro p hp
        exact ih'.1 _ (mem_result (other.members_eq ▸ hp))
      · intro p hp
        exact ih'.2 _ (mem_result (other.identifiers_eq ▸ hp))
  | remove before hd ih =>
      exact ⟨List.forall_mem_append.mpr ⟨ih.1, List.forall_mem_singleton.mpr hd⟩,
        List.forall_mem_append.mpr ⟨ih.2, List.forall_mem_singleton.mpr hd⟩⟩
  | mark before hp marked ih =>
      exact ⟨ih.1, List.forall_mem_append.mpr ⟨ih.2, List.forall_mem_singleton.mpr hp⟩⟩
  | markAll before hps marked ih =>
      exact ⟨ih.1, List.forall_mem_append.mpr ⟨ih.2, List.forall_mem_map.mpr hps⟩⟩
  | withParameter before key v ih => exact ih
  | copy before ih => exact ih

theorem members_within (h : Built P ms is s) : ∀ p ∈ s.members, P p.toDescriptor := by
  intro p hp
  rw [h.members_eq] at hp
  exact h.within.1 _ (mem_result hp)

theorem identifiers_within (h : Built P ms is s) : ∀ p ∈ s.identifiers, P p.toDescriptor := by
  intro p hp
  rw [h.identifiers_eq] at hp
  exact h.within.2 _ (mem_result hp)

theorem distinct (h : Built P ms is s) : Distinct s.members :=
  h.members_eq ▸ distinct_result ms

theorem copy_members (h : Built P ms is s) : s.copy.members = s.members :=
  h.copy.members_eq.trans h.members_eq.symm

theorem copy_identifiers (h : Built P ms is s) : s.copy.identifiers = s.identifiers :=
  h.copy.identifiers_eq.trans h.identifiers_eq.symm

theorem marked (hP : EquivAmong P) (h : Built P ms is s) :
    ∀ p ∈ s.identifiers, s.contains p.toDescriptor = true := by
  -- only a removal takes members away, and it takes the equal identifiers with them
  induction h with
  | empty => exact fun p hp => nomatch hp
  | add before hp ih => exact fun p hp => occurs_of_subset (subset_append _ _) (ih p hp)
  | addAll before hps ih =>
      rw [addAll_eq]
      exact fun p hp => occurs_of_subset (subset_foldl_append _ _) (ih p hp)
  | addSchema before other ih ih' =>
      intro p hp
      have hpP := (before.addSchema other).identifiers_within p hp
      have hoccurs := occurs_foldl_append hP before.members_within other.members_within hpP
      rw [contains, Schema.addSchema, hoccurs, Bool.or_eq_true]
      exact (mem_foldl_append hp).imp (ih p) (ih' p)
  | @remove ms is s d before hd ih =>
      intro p hp
      obtain ⟨hp, hpd⟩ := List.mem_filter.mp hp
      have hpP := before.identifiers_within p hp
      rw [contains, Schema.remove, occurs_filter hP before.members_within hpP hd,
        hP.comm hd hpP, hpd, Bool.and_true]
      exact ih p hp
  | mark before hp marked ih =>
      obtain ⟨hmember, rfl⟩ := mark_eq_ok_iff.mp marked
      intro q hq
      rcases mem_append hq with hq | rfl
      · exact ih q hq
      · exact hmember
  | markAll before hps marked ih =>
      obtain ⟨hmembers, rfl⟩ := markAll_eq_ok_iff.mp marked
      intro q hq
      exact (mem_foldl_append hq).elim (ih q) (hmembers q)
  | withParameter before key v ih => exact ih
  | copy before ih =>
      intro p hp
      rw [before.copy_identifiers] at hp
      rw [contains, before.copy_members]
      exact ih p hp

theorem proper (hP : EquivAmong P) (h : Built P ms is s) : s.Proper where
  distinct := h.distinct
  distinctIdentifiers := h.identifiers_eq ▸ distinct_result is
  marked := h.marked hP

theorem of {ps : List (Property U)} (hps : ∀ p ∈ ps, P p.toDescriptor) :
    Built P (ps.map keep) [] (.of ps) :=
  Built.empty.addAll hps

theorem extend (h : Built P ms is s) {ps : List (Property U)} (hps : ∀ p ∈ ps, P p.toDescriptor) :
    Built P (ms ++ ps.map keep) is (s.extend ps) :=
  h.copy.addAll hps

theorem join (h : Built P ms is s) {ms' is' : List (Change U)} {t : Schema U}
    (other : Built P ms' is' t) :
    Built P (ms ++ t.members.map keep) (is ++ t.identifiers.map keep) (s.join t) :=
  h.copy.addSchema other

end Built

/-- The schema is what the changes of its members and of its identifiers say. -/
structure Follows (P : Descriptor U → Prop) (ms is : List (Change U)) (s : Schema U) : Prop where
  proper : s.Proper
  /-- A property is a member if the last addition or removal of an equal one was an addition. -/
  contains_iff : ∀ d, P d → (s.contains d = true ↔ Kept ms d)
  /-- A property is an identifier if an equal one was marked, and none was removed after that. -/
  isIdentifier_iff : ∀ d, P d → (s.isIdentifier d = true ↔ KeptSince is d)
  ordered : ∃ placed : List (Nat × Property U), s.members = placed.map Prod.snd ∧
    placed.Pairwise (fun a b => a.1 < b.1) ∧ ∀ x ∈ placed, InForce ms x.1 x.2
  mark_error : ∀ p e, s.mark p = .error e ↔
    (∀ m ∈ s.members, (m.toDescriptor == p.toDescriptor) = false) ∧ e = .notMember p.relativeName
  markAll_error : ∀ ps e, s.markAll ps = .error e ↔
    ∃ before p after, ps = before ++ p :: after ∧
      (∀ q ∈ before, s.contains q.toDescriptor = true) ∧
        (∀ m ∈ s.members, (m.toDescriptor == p.toDescriptor) = false) ∧
          e = .notMember p.relativeName

theorem Built.follows (hP : EquivAmong P) (h : Built P ms is s) : s.Follows P ms is where
  proper := h.proper hP
  contains_iff d hd := by
    rw [contains, h.members_eq, occurs_result_iff hP h.within.1 hd]
  isIdentifier_iff d hd := by
    rw [isIdentifier, h.identifiers_eq, occurs_result_iff hP h.within.2 hd, kept_iff_keptSince]
  ordered := by
    rw [h.members_eq]
    exact result_ordered hP h.within.1
  mark_error p e := mark_eq_error_iff
  markAll_error ps e := markAll_eq_error_iff

/-- A schema is what the calls that built it say, and so are the schemas made of it by copying,
extending and joining. -/
theorem Built.follows_with_derived (hP : EquivAmong P) (h : Built P ms is s)
    {ms' is' : List (Change U)} {t : Schema U} (other : Built P ms' is' t)
    {ps : List (Property U)} (hps : ∀ p ∈ ps, P p.toDescriptor) :
    s.Follows P ms is ∧
      (Schema.of ps).Follows P (ps.map keep) [] ∧
        s.copy.Follows P ms is ∧
          (s.extend ps).Follows P (ms ++ ps.map keep) is ∧
            (s.join t).Follows P (ms ++ t.members.map keep) (is ++ t.identifiers.map keep) := by
  refine ⟨h.follows hP, ?_, h.copy.follows hP, ?_, ?_⟩
  · exact (Built.of hps).follows hP
  · exact (h.extend hps).follows hP
  · exact (h.join other).follows hP

open Sample in
theorem follows_count_title :
    ({ members := [count, title], identifiers := [tallied] } : Schema kinds).Follows
        (· ∈ population) [keep title, keep count, drop title.toDescriptor, keep title]
        [keep tallied, drop title.toDescriptor] ∧
      Kept [keep title, keep count, drop title.toDescriptor, keep title] title.toDescriptor ∧
        KeptSince [keep tallied, drop title.toDescriptor] count.toDescriptor := by
  have hpair : ∀ p ∈ [title, count], p.toDescriptor ∈ population := by
    simp [title_mem, count_mem]
  have hbuilt : Built (· ∈ population)
      [keep title, keep count, drop title.toDescriptor, keep title]
      [keep tallied, drop title.toDescriptor]
      ({ members := [count, title], identifiers := [tallied] } : Schema kinds) :=
    .add (.remove (.mark (.addAll .empty hpair) tallied_mem rfl) title_mem) title_mem
  have hfollows := (hbuilt.follows_with_derived Population.ofList_lawful.equivAmong .empty
    hpair).1
  exact ⟨hfollows, (hfollows.contains_iff _ title_mem).mp rfl,
    (hfollows.isIdentifier_iff _ count_mem).mp rfl⟩

end TypedRecords.Schema
