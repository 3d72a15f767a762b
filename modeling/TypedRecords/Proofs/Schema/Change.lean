import Mathlib.Data.List.Induction
import TypedRecords.Proofs.Schema

namespace TypedRecords.Schema

variable {U : Universe} {P : Descriptor U → Prop}

theorem occurs_iff {d : Descriptor U} {ps : List (Property U)} :
    occurs d ps = true ↔ ∃ p ∈ ps, (p.toDescriptor == d) = true := by
  rw [occurs, List.any_eq_true]

theorem occurs_eq_false_iff {d : Descriptor U} {ps : List (Property U)} :
    occurs d ps = false ↔ ∀ p ∈ ps, (p.toDescriptor == d) = false := by
  rw [occurs, List.any_eq_false]
  simp only [Bool.not_eq_true]

theorem occurs_of_subset {d : Descriptor U} {ps qs : List (Property U)} (h : ps ⊆ qs)
    (hoccurs : occurs d ps = true) : occurs d qs = true := by
  obtain ⟨p, hp, hpd⟩ := occurs_iff.mp hoccurs
  exact occurs_iff.mpr ⟨p, h hp, hpd⟩

theorem occurs_append (hP : EquivAmong P) {ps : List (Property U)} {p : Property U}
    {d : Descriptor U} (hps : ∀ q ∈ ps, P q.toDescriptor) (hp : P p.toDescriptor) (hd : P d) :
    occurs d (append ps p) = (occurs d ps || p.toDescriptor == d) := by
  rw [append]
  split
  · rename_i hoccurs
    obtain ⟨q, hq, hqp⟩ := occurs_iff.mp hoccurs
    cases hpd : p.toDescriptor == d with
    | false => rw [Bool.or_false]
    | true =>
        rw [Bool.or_true]
        exact occurs_iff.mpr ⟨q, hq, hP.trans (hps q hq) hp hd hqp hpd⟩
  · simp only [occurs, List.any_append, List.any_cons, List.any_nil, Bool.or_false]

theorem occurs_filter (hP : EquivAmong P) {ps : List (Property U)} {d d' : Descriptor U}
    (hps : ∀ q ∈ ps, P q.toDescriptor) (hd : P d) (hd' : P d') :
    occurs d (ps.filter fun p => !(p.toDescriptor == d')) = (occurs d ps && !(d' == d)) := by
  cases hd'd : d' == d with
  | true =>
      rw [Bool.not_true, Bool.and_false, occurs_eq_false_iff]
      intro p hp
      obtain ⟨hp, hkept⟩ := List.mem_filter.mp hp
      rw [← hP.congr_right hd' hd (hps p hp) hd'd]
      exact (Bool.not_eq_true' _).mp hkept
  | false =>
      rw [Bool.not_false, Bool.and_true, Bool.eq_iff_iff, occurs_iff, occurs_iff]
      constructor
      · rintro ⟨p, hp, hpd⟩
        exact ⟨p, (List.mem_filter.mp hp).1, hpd⟩
      · rintro ⟨p, hp, hpd⟩
        refine ⟨p, List.mem_filter.mpr ⟨hp, ?_⟩, hpd⟩
        rw [hP.congr_left (hps p hp) hd hd' hpd, hP.comm hd hd', hd'd]
        rfl

theorem mem_append {ps : List (Property U)} {p q : Property U} (h : q ∈ append ps p) :
    q ∈ ps ∨ q = p := by
  rw [append] at h
  split at h
  · exact Or.inl h
  · simpa using h

theorem subset_append (ps : List (Property U)) (p : Property U) : ps ⊆ append ps p := by
  rw [append]
  split
  · exact List.Subset.refl ps
  · exact List.subset_append_left ps [p]

theorem subset_foldl_append (ps qs : List (Property U)) : ps ⊆ qs.foldl append ps := by
  induction qs generalizing ps with
  | nil => exact List.Subset.refl ps
  | cons q qs ih => exact List.Subset.trans (subset_append ps q) (ih _)

theorem mem_foldl_append {ps qs : List (Property U)} {p : Property U}
    (h : p ∈ qs.foldl append ps) : p ∈ ps ∨ p ∈ qs := by
  induction qs generalizing ps with
  | nil => exact Or.inl h
  | cons q qs ih =>
      rcases ih h with h | h
      · rcases mem_append h with h | rfl
        · exact Or.inl h
        · exact Or.inr List.mem_cons_self
      · exact Or.inr (List.mem_cons_of_mem q h)

theorem occurs_foldl_append (hP : EquivAmong P) {ps qs : List (Property U)} {d : Descriptor U}
    (hps : ∀ q ∈ ps, P q.toDescriptor) (hqs : ∀ q ∈ qs, P q.toDescriptor) (hd : P d) :
    occurs d (qs.foldl append ps) = (occurs d ps || occurs d qs) := by
  induction qs generalizing ps with
  | nil => exact (Bool.or_false _).symm
  | cons q qs ih =>
      obtain ⟨hq, hqs⟩ := List.forall_mem_cons.mp hqs
      have hps' : ∀ p ∈ append ps q, P p.toDescriptor := fun p hp =>
        (mem_append hp).elim (hps p) fun hpq => hpq ▸ hq
      rw [List.foldl_cons, ih hps' hqs, occurs_append hP hps hq hd, Bool.or_assoc]
      rfl

def Distinct (ps : List (Property U)) : Prop :=
  ps.Pairwise fun p q => (p.toDescriptor == q.toDescriptor) = false

theorem Distinct.append {ps : List (Property U)} (hps : Distinct ps) (p : Property U) :
    Distinct (append ps p) := by
  rw [Schema.append]
  split
  · exact hps
  · rename_i hoccurs
    have hne := occurs_eq_false_iff.mp (Bool.eq_false_iff.mpr hoccurs)
    refine List.pairwise_append.mpr ⟨hps, List.pairwise_singleton _ p, ?_⟩
    intro q hq r hr
    rw [List.mem_singleton.mp hr]
    exact hne q hq

theorem foldl_append_of_distinct {ps qs : List (Property U)} (h : Distinct (ps ++ qs)) :
    qs.foldl append ps = ps ++ qs := by
  induction qs generalizing ps with
  | nil => rw [List.append_nil, List.foldl_nil]
  | cons q qs ih =>
      have hne : occurs q.toDescriptor ps = false :=
        occurs_eq_false_iff.mpr fun p hp =>
          (List.pairwise_append.mp h).2.2 p hp q List.mem_cons_self
      have happend : append ps q = ps ++ [q] := by simp [append, hne]
      rw [List.append_cons] at h ⊢
      rw [List.foldl_cons, happend, ih h]

inductive Change (U : Universe) where
  | keep (p : Property U)
  | drop (d : Descriptor U)

namespace Change

def descriptor : Change U → Descriptor U
  | keep p => p.toDescriptor
  | drop d => d

def apply (ps : List (Property U)) : Change U → List (Property U)
  | keep p => append ps p
  | drop d => ps.filter fun p => !(p.toDescriptor == d)

def result (cs : List (Change U)) : List (Property U) :=
  cs.foldl apply []

/-- The last change of a property that equals `d` keeps it. -/
def Kept (cs : List (Change U)) (d : Descriptor U) : Prop :=
  ∃ before p after, cs = before ++ keep p :: after ∧ (p.toDescriptor == d) = true ∧
    ∀ c ∈ after, (c.descriptor == d) = false

/-- A property that equals `d` is kept, and none is dropped after that. -/
def KeptSince (cs : List (Change U)) (d : Descriptor U) : Prop :=
  ∃ before p after, cs = before ++ keep p :: after ∧ (p.toDescriptor == d) = true ∧
    ∀ d', drop d' ∈ after → (d' == d) = false

/-- The change at place `i` keeps `p` where no equal property is kept yet, and none is dropped after
that. -/
structure InForce (cs : List (Change U)) (i : Nat) (p : Property U) : Prop where
  keeps : cs[i]? = some (keep p)
  new : ¬Kept (cs.take i) p.toDescriptor
  lasting : ∀ d, drop d ∈ cs.drop (i + 1) → (p.toDescriptor == d) = false

theorem result_append (cs cs' : List (Change U)) :
    result (cs ++ cs') = cs'.foldl apply (result cs) :=
  List.foldl_append

theorem foldl_keep (ps qs : List (Property U)) :
    (qs.map keep).foldl apply ps = qs.foldl append ps :=
  List.foldl_map

theorem mem_result {cs : List (Change U)} {p : Property U} (h : p ∈ result cs) :
    keep p ∈ cs := by
  induction cs using List.reverseRecOn with
  | nil => cases h
  | append_singleton cs c ih =>
      rw [result_append, List.foldl_cons, List.foldl_nil] at h
      rw [List.mem_append, List.mem_singleton]
      cases c with
      | keep q =>
          rcases mem_append h with h | rfl
          · exact Or.inl (ih h)
          · exact Or.inr rfl
      | drop d => exact Or.inl (ih (List.mem_filter.mp h).1)

theorem distinct_result (cs : List (Change U)) : Distinct (result cs) := by
  induction cs using List.reverseRecOn with
  | nil => exact .nil
  | append_singleton cs c ih =>
      rw [result_append, List.foldl_cons, List.foldl_nil]
      cases c with
      | keep q => exact ih.append q
      | drop d => exact ih.filter _

theorem not_kept_nil (d : Descriptor U) : ¬Kept [] d := by
  rintro ⟨before, p, after, hcs, -⟩
  simp at hcs

theorem kept_concat {cs : List (Change U)} {c : Change U} {d : Descriptor U} :
    Kept (cs ++ [c]) d ↔
      (∃ p, c = keep p ∧ (p.toDescriptor == d) = true) ∨
        (c.descriptor == d) = false ∧ Kept cs d := by
  constructor
  · rintro ⟨before, p, after, hcs, hpd, hafter⟩
    rcases List.eq_nil_or_concat after with rfl | ⟨after, last, rfl⟩
    · obtain ⟨-, hc⟩ := List.append_inj' hcs rfl
      exact Or.inl ⟨p, (List.cons.inj hc).1, hpd⟩
    · rw [List.concat_eq_append, ← List.cons_append, ← List.append_assoc] at hcs
      obtain ⟨hcs, hc⟩ := List.append_inj' hcs rfl
      rw [(List.cons.inj hc).1]
      refine Or.inr ⟨hafter last (by simp), before, p, after, hcs, hpd, ?_⟩
      exact fun c' hc' => hafter c' (by simp [hc'])
  · rintro (⟨p, rfl, hpd⟩ | ⟨hcd, before, p, after, rfl, hpd, hafter⟩)
    · exact ⟨cs, p, [], rfl, hpd, by simp⟩
    · refine ⟨before, p, after ++ [c], by simp, hpd, ?_⟩
      intro c' hc'
      rcases List.mem_append.mp hc' with hc' | hc'
      · exact hafter c' hc'
      · rw [List.mem_singleton.mp hc']
        exact hcd

theorem kept_iff_keptSince {cs : List (Change U)} {d : Descriptor U} :
    Kept cs d ↔ KeptSince cs d := by
  constructor
  · rintro ⟨before, p, after, hcs, hpd, hafter⟩
    exact ⟨before, p, after, hcs, hpd, fun d' hd' => hafter _ hd'⟩
  · rintro ⟨before, p, after, rfl, hpd, hafter⟩
    induction after using List.reverseRecOn with
    | nil => exact ⟨before, p, [], rfl, hpd, by simp⟩
    | append_singleton after c ih =>
        rw [← List.cons_append, ← List.append_assoc, kept_concat]
        cases hcd : c.descriptor == d with
        | false => exact Or.inr ⟨rfl, ih fun d' hd' => hafter d' (by simp [hd'])⟩
        | true =>
            cases c with
            | keep q => exact Or.inl ⟨q, rfl, hcd⟩
            | drop d' =>
                have hne : (d' == d) = false := hafter d' (by simp)
                rw [descriptor, hne] at hcd
                cases hcd

theorem occurs_result_iff (hP : EquivAmong P) {cs : List (Change U)} {d : Descriptor U}
    (hcs : ∀ c ∈ cs, P c.descriptor) (hd : P d) : occurs d (result cs) = true ↔ Kept cs d := by
  induction cs using List.reverseRecOn with
  | nil => simp [result, occurs, not_kept_nil]
  | append_singleton cs c ih =>
      have hbefore : ∀ c' ∈ cs, P c'.descriptor := fun c' hc' => hcs c' (by simp [hc'])
      have hc : P c.descriptor := hcs c (by simp)
      have hps : ∀ q ∈ result cs, P q.toDescriptor := fun q hq => hbefore _ (mem_result hq)
      rw [result_append, List.foldl_cons, List.foldl_nil, kept_concat, ← ih hbefore]
      cases c with
      | keep p =>
          have hoccurs : occurs d (append (result cs) p) =
              (occurs d (result cs) || p.toDescriptor == d) := occurs_append hP hps hc hd
          rw [apply, hoccurs]
          cases hpd : p.toDescriptor == d <;> simp [descriptor, hpd]
      | drop d' =>
          have hoccurs : occurs d ((result cs).filter fun p => !(p.toDescriptor == d')) =
              (occurs d (result cs) && !(d' == d)) := occurs_filter hP hps hd hc
          rw [apply, hoccurs]
          cases hd'd : d' == d <;> simp [descriptor, hd'd]

theorem InForce.concat {cs : List (Change U)} {i : Nat} {p : Property U} (h : InForce cs i p)
    {c : Change U} (hc : ∀ d, c = drop d → (p.toDescriptor == d) = false) :
    InForce (cs ++ [c]) i p := by
  have hi : i < cs.length := (List.getElem?_eq_some_iff.mp h.keeps).1
  refine ⟨?_, ?_, ?_⟩
  · rw [List.getElem?_append_left hi]
    exact h.keeps
  · rw [List.take_append_of_le_length (Nat.le_of_lt hi)]
    exact h.new
  · intro d hd
    rw [List.drop_append_of_le_length hi, List.mem_append, List.mem_singleton] at hd
    rcases hd with hd | hd
    · exact h.lasting d hd
    · exact hc d hd.symm

theorem inForce_last {cs : List (Change U)} {p : Property U} (h : ¬Kept cs p.toDescriptor) :
    InForce (cs ++ [keep p]) cs.length p where
  keeps := by simp
  new := by simpa using h
  lasting := by simp

theorem result_ordered (hP : EquivAmong P) {cs : List (Change U)}
    (hcs : ∀ c ∈ cs, P c.descriptor) :
    ∃ placed : List (Nat × Property U), result cs = placed.map Prod.snd ∧
      placed.Pairwise (fun a b => a.1 < b.1) ∧ ∀ x ∈ placed, InForce cs x.1 x.2 := by
  induction cs using List.reverseRecOn with
  | nil => exact ⟨[], rfl, .nil, by simp⟩
  | append_singleton cs c ih =>
      have hbefore : ∀ c' ∈ cs, P c'.descriptor := fun c' hc' => hcs c' (by simp [hc'])
      obtain ⟨placed, hresult, hordered, hforce⟩ := ih hbefore
      rw [result_append, List.foldl_cons, List.foldl_nil]
      cases c with
      | keep p =>
          have hold : ∀ x ∈ placed, InForce (cs ++ [keep p]) x.1 x.2 := fun x hx =>
            (hforce x hx).concat fun d hd => nomatch hd
          rw [apply, append]
          split
          · exact ⟨placed, hresult, hordered, hold⟩
          · rename_i hoccurs
            have hp : P p.toDescriptor := hcs (keep p) (by simp)
            have hnew : ¬Kept cs p.toDescriptor :=
              (occurs_result_iff hP hbefore hp).not.mp hoccurs
            refine ⟨placed ++ [(cs.length, p)], by simp [hresult], ?_, ?_⟩
            · refine List.pairwise_append.mpr ⟨hordered, List.pairwise_singleton _ _, ?_⟩
              intro x hx y hy
              rw [List.mem_singleton.mp hy]
              exact (List.getElem?_eq_some_iff.mp (hforce x hx).keeps).1
            · intro x hx
              rcases List.mem_append.mp hx with hx | hx
              · exact hold x hx
              · rw [List.mem_singleton.mp hx]
                exact inForce_last hnew
      | drop d =>
          refine ⟨placed.filter fun x => !(x.2.toDescriptor == d), ?_, hordered.filter _, ?_⟩
          · rw [apply, hresult, List.filter_map]
            rfl
          · intro x hx
            obtain ⟨hx, hkept⟩ := List.mem_filter.mp hx
            refine (hforce x hx).concat ?_
            rintro d' ⟨⟩
            exact (Bool.not_eq_true' _).mp hkept

end Change

end TypedRecords.Schema
