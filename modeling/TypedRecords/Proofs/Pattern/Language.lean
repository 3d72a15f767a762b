import TypedRecords.Proofs.Pattern.Matching

namespace TypedRecords.Pattern

/-- The patterns match the same pieces of every text. -/
def Equivalent (p q : Pattern) : Prop :=
  ∀ before piece after, p.Matches before piece after ↔ q.Matches before piece after

section

variable {p p' q q' r : Pattern}

theorem Equivalent.refl (p : Pattern) : p.Equivalent p :=
  fun _ _ _ => Iff.rfl

theorem Equivalent.trans (h : p.Equivalent q) (h' : q.Equivalent r) : p.Equivalent r :=
  fun before piece after => (h before piece after).trans (h' before piece after)

theorem equivalent_oneOf {s t : CharSet} (h : ∀ c, s.holds c = true ↔ t.holds c = true) :
    (oneOf s).Equivalent (oneOf t) := by
  intro before piece after
  simp only [matches_oneOf_iff, h]

theorem Equivalent.seq (hp : p.Equivalent p') (hq : q.Equivalent q') :
    (p.seq q).Equivalent (p'.seq q') := by
  intro before piece after
  simp only [matches_seq_iff, hp _ _ _, hq _ _ _]

theorem Equivalent.either (hp : p.Equivalent p') (hq : q.Equivalent q') :
    (p.either q).Equivalent (p'.either q') := by
  intro before piece after
  simp only [matches_either_iff, hp _ _ _, hq _ _ _]

theorem Equivalent.oneOrMore (hp : p.Equivalent p') :
    (oneOrMore p).Equivalent (oneOrMore p') := by
  have himp : ∀ {p p' : Pattern}, p.Equivalent p' → ∀ {before piece after},
      (Pattern.oneOrMore p).Matches before piece after →
        (Pattern.oneOrMore p').Matches before piece after := by
    intro p p' hp before piece after h
    generalize hr : Pattern.oneOrMore p = r at h
    induction h with
    | once matched =>
        cases hr
        exact .once ((hp _ _ _).mp matched)
    | again first _ _ ih =>
        cases hr
        exact .again ((hp _ _ _).mp first) (ih rfl)
    | _ => cases hr
  exact fun before piece after => ⟨himp hp, himp fun xs ys zs => (hp xs ys zs).symm⟩

theorem equivalent_seq_assoc (p q r : Pattern) :
    (p.seq (q.seq r)).Equivalent ((p.seq q).seq r) := by
  intro before piece after
  simp only [matches_seq_iff]
  constructor
  · rintro ⟨xs, _, rfl, hp, ys, zs, rfl, hq, hr⟩
    exact ⟨xs ++ ys, zs, (List.append_assoc xs ys zs).symm, ⟨xs, ys, rfl, by simpa using hp, hq⟩,
      by simpa using hr⟩
  · rintro ⟨_, zs, rfl, ⟨xs, ys, rfl, hp, hq⟩, hr⟩
    exact ⟨xs, ys ++ zs, List.append_assoc xs ys zs, by simpa using hp, ys, zs, rfl, hq,
      by simpa using hr⟩

theorem Equivalent.occursIn_eq (h : p.Equivalent q) (s : String) : p.occursIn s = q.occursIn s := by
  rw [Bool.eq_iff_iff, occursIn_iff, occursIn_iff]
  simp only [h _ _ _]

end

/-- The pattern matches the pieces that satisfy `L`, whatever stands around them. -/
def Describes (p : Pattern) (L : List Char → Prop) : Prop :=
  ∀ before piece after, p.Matches before piece after ↔ L piece

variable {p q : Pattern} {L M : List Char → Prop}

theorem Describes.congr (hp : p.Describes L) (h : ∀ xs, L xs ↔ M xs) : p.Describes M :=
  fun before piece after => (hp before piece after).trans (h piece)

theorem describes_oneOf (s : CharSet) :
    (oneOf s).Describes fun xs => ∃ c, xs = [c] ∧ s.holds c = true :=
  fun _ _ _ => matches_oneOf_iff

theorem Describes.seq (hp : p.Describes L) (hq : q.Describes M) :
    (p.seq q).Describes fun zs => ∃ xs ys, zs = xs ++ ys ∧ L xs ∧ M ys := by
  intro before piece after
  rw [matches_seq_iff]
  simp only [hp _ _ _, hq _ _ _]

theorem Describes.optional (hp : p.Describes L) :
    (optional p).Describes fun xs => L xs ∨ xs = [] := by
  intro before piece after
  rw [Pattern.optional, matches_either_iff, matches_empty_iff, hp]

theorem Describes.oneOrMore (hp : p.Describes L) :
    (oneOrMore p).Describes fun zs =>
      ∃ pieces, pieces ≠ [] ∧ zs = pieces.flatten ∧ ∀ xs ∈ pieces, L xs := by
  intro before piece after
  constructor
  · intro h
    generalize hr : Pattern.oneOrMore p = r at h
    induction h with
    | @once p' before xs after matched =>
        cases hr
        exact ⟨[xs], by simp, by simp, by simpa using (hp _ _ _).mp matched⟩
    | @again p' before xs ys after first others _ ih =>
        cases hr
        obtain ⟨pieces, -, rfl, hpieces⟩ := ih rfl
        exact ⟨xs :: pieces, by simp, by simp,
          List.forall_mem_cons.mpr ⟨(hp _ _ _).mp first, hpieces⟩⟩
    | _ => cases hr
  · rintro ⟨pieces, hne, rfl, hpieces⟩
    induction pieces generalizing before with
    | nil => exact absurd rfl hne
    | cons xs pieces ih =>
        obtain ⟨hxs, hothers⟩ := List.forall_mem_cons.mp hpieces
        rw [List.flatten_cons]
        cases pieces with
        | nil =>
            rw [List.flatten_nil, List.append_nil]
            exact .once ((hp _ _ _).mpr hxs)
        | cons ys pieces => exact .again ((hp _ _ _).mpr hxs) (ih _ (by simp) hothers)

theorem describes_oneOrMore_oneOf (s : CharSet) :
    (oneOrMore (oneOf s)).Describes fun xs => xs ≠ [] ∧ ∀ c ∈ xs, s.holds c = true := by
  refine (describes_oneOf s).oneOrMore.congr fun xs => ?_
  constructor
  · rintro ⟨pieces, hne, rfl, hpieces⟩
    refine ⟨?_, ?_⟩
    · intro hnil
      obtain ⟨piece, hpiece⟩ := List.exists_mem_of_ne_nil pieces hne
      obtain ⟨c, hc, -⟩ := hpieces piece hpiece
      rw [List.flatten_eq_nil_iff.mp hnil piece hpiece] at hc
      cases hc
    · intro c hc
      obtain ⟨piece, hpiece, hc⟩ := List.mem_flatten.mp hc
      obtain ⟨d, rfl, hd⟩ := hpieces piece hpiece
      rw [List.mem_singleton.mp hc]
      exact hd
  · rintro ⟨hne, hxs⟩
    refine ⟨xs.map fun c => [c], by simpa using hne, ?_, ?_⟩
    · rw [← List.flatMap_def, List.flatMap_singleton']
    · exact List.forall_mem_map.mpr fun c hc => ⟨c, rfl, hxs c hc⟩

theorem describes_many_oneOf (s : CharSet) :
    (many (oneOf s)).Describes fun xs => ∀ c ∈ xs, s.holds c = true := by
  refine (describes_oneOrMore_oneOf s).optional.congr fun xs => ?_
  constructor
  · rintro (⟨-, hxs⟩ | rfl)
    · exact hxs
    · simp
  · intro hxs
    by_cases hne : xs = []
    · exact Or.inr hne
    · exact Or.inl ⟨hne, hxs⟩

end TypedRecords.Pattern
