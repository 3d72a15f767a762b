import Mathlib.Data.List.Basic
import TypedRecords.Pattern.Progress

namespace TypedRecords

theorem exists_cons_eq_append_iff {α : Type} {x : α} {zs : List α} {F : List α → List α → Prop} :
    (∃ xs ys, x :: zs = xs ++ ys ∧ F xs ys) ↔
      F [] (x :: zs) ∨ ∃ xs ys, zs = xs ++ ys ∧ F (x :: xs) ys := by
  constructor
  · rintro ⟨xs, ys, heq, hF⟩
    rcases List.cons_eq_append_iff.mp heq with ⟨rfl, rfl⟩ | ⟨xs, rfl, rfl⟩
    · exact Or.inl hF
    · exact Or.inr ⟨xs, ys, rfl, hF⟩
  · rintro (hF | ⟨xs, ys, rfl, hF⟩)
    · exact ⟨[], _, rfl, hF⟩
    · exact ⟨x :: xs, ys, rfl, hF⟩

namespace Pattern

/-- The pattern matches a piece of the text that the three pieces make up. -/
inductive Matches : Pattern → (before piece after : List Char) → Prop
  | empty {before after : List Char} : Matches .empty before [] after
  | edge {e : Edge} {before after : List Char}
      (holds : e.holds ⟨before.getLast?, after.head?⟩ = true) : Matches (.edge e) before [] after
  | oneOf {s : CharSet} {c : Char} {before after : List Char} (holds : s.holds c = true) :
      Matches (.oneOf s) before [c] after
  | seq {p q : Pattern} {before xs ys after : List Char} (first : Matches p before xs (ys ++ after))
      (second : Matches q (before ++ xs) ys after) : Matches (.seq p q) before (xs ++ ys) after
  | left {p q : Pattern} {before piece after : List Char} (matched : Matches p before piece after) :
      Matches (.either p q) before piece after
  | right {p q : Pattern} {before piece after : List Char}
      (matched : Matches q before piece after) : Matches (.either p q) before piece after
  | once {p : Pattern} {before piece after : List Char} (matched : Matches p before piece after) :
      Matches (.oneOrMore p) before piece after
  | again {p : Pattern} {before xs ys after : List Char}
      (first : Matches p before xs (ys ++ after))
      (others : Matches (.oneOrMore p) (before ++ xs) ys after) :
      Matches (.oneOrMore p) before (xs ++ ys) after

variable {p q : Pattern} {before piece after : List Char}

@[simp]
theorem matches_empty_iff : Matches .empty before piece after ↔ piece = [] := by
  constructor
  · rintro ⟨⟩
    rfl
  · rintro rfl
    exact .empty

@[simp]
theorem matches_edge_iff {e : Edge} :
    Matches (.edge e) before piece after ↔
      piece = [] ∧ e.holds ⟨before.getLast?, after.head?⟩ = true := by
  constructor
  · rintro ⟨⟩
    exact ⟨rfl, ‹_›⟩
  · rintro ⟨rfl, h⟩
    exact .edge h

@[simp]
theorem matches_oneOf_iff {s : CharSet} :
    Matches (.oneOf s) before piece after ↔ ∃ c, piece = [c] ∧ s.holds c = true := by
  constructor
  · rintro ⟨⟩
    exact ⟨_, rfl, ‹_›⟩
  · rintro ⟨c, rfl, h⟩
    exact .oneOf h

@[simp]
theorem matches_seq_iff :
    Matches (.seq p q) before piece after ↔
      ∃ xs ys, piece = xs ++ ys ∧ Matches p before xs (ys ++ after) ∧
        Matches q (before ++ xs) ys after := by
  constructor
  · rintro ⟨⟩
    exact ⟨_, _, rfl, ‹_›, ‹_›⟩
  · rintro ⟨xs, ys, rfl, hp, hq⟩
    exact .seq hp hq

@[simp]
theorem matches_either_iff :
    Matches (.either p q) before piece after ↔
      Matches p before piece after ∨ Matches q before piece after := by
  constructor
  · rintro (h | h)
    · exact Or.inl ‹_›
    · exact Or.inr ‹_›
  · rintro (h | h)
    · exact .left h
    · exact .right h

theorem matches_oneOrMore_iff :
    Matches (.oneOrMore p) before piece after ↔
      ∃ xs ys, piece = xs ++ ys ∧ Matches p before xs (ys ++ after) ∧
        (ys = [] ∨ Matches (.oneOrMore p) (before ++ xs) ys after) := by
  constructor
  · rintro (h | h)
    · exact ⟨piece, [], (List.append_nil piece).symm, ‹_›, Or.inl rfl⟩
    · exact ⟨_, _, rfl, ‹_›, Or.inr ‹_›⟩
  · rintro ⟨xs, ys, rfl, hp, rfl | hothers⟩
    · rw [List.append_nil]
      exact .once hp
    · exact .again hp hothers

/-- Repeated pieces that are not empty start with one that is not, as empty pieces in front can be
left out. -/
theorem matches_oneOrMore_cons_iff {c : Char} :
    Matches (.oneOrMore p) before (c :: piece) after ↔
      ∃ xs ys, piece = xs ++ ys ∧ Matches p before (c :: xs) (ys ++ after) ∧
        (ys = [] ∨ Matches (.oneOrMore p) (before ++ c :: xs) ys after) := by
  constructor
  · intro h
    generalize hr : Pattern.oneOrMore p = r at h
    generalize hw : c :: piece = w at h
    induction h generalizing piece with
    | once matched =>
        cases hr
        subst hw
        exact ⟨piece, [], (List.append_nil piece).symm, matched, Or.inl rfl⟩
    | @again p' before xs ys after first others _ ih =>
        cases hr
        rcases List.cons_eq_append_iff.mp hw with ⟨rfl, rfl⟩ | ⟨xs, rfl, rfl⟩
        · rw [List.append_nil] at ih
          exact ih rfl rfl
        · exact ⟨xs, ys, rfl, first, Or.inr others⟩
    | _ => cases hr
  · rintro ⟨xs, ys, rfl, hp, hothers⟩
    exact matches_oneOrMore_iff.mpr ⟨c :: xs, ys, rfl, hp, hothers⟩

theorem acceptsEmpty_iff :
    p.acceptsEmpty ⟨before.getLast?, after.head?⟩ = true ↔ Matches p before [] after := by
  induction p with
  | empty => simp [acceptsEmpty]
  | edge e => simp [acceptsEmpty]
  | oneOf s => simp [acceptsEmpty]
  | seq p q ihp ihq => simp [acceptsEmpty, ihp, ihq]
  | either p q ihp ihq => simp [acceptsEmpty, ihp, ihq]
  | oneOrMore p ih =>
      rw [acceptsEmpty, ih, matches_oneOrMore_iff]
      constructor
      · intro h
        exact ⟨[], [], rfl, h, Or.inl rfl⟩
      · rintro ⟨xs, ys, heq, h, -⟩
        obtain ⟨rfl, rfl⟩ := List.nil_eq_append_iff.mp heq
        exact h

end Pattern

namespace Progress

/-- The pattern whose matches a progress keeps track of. -/
def pattern : Progress → Pattern
  | .idle p => p
  | .read s => .oneOf s
  | .seq a b => .seq a.pattern b.pattern
  | .either a b => .either a.pattern b.pattern
  | .oneOrMore a => .oneOrMore a.pattern

/-- A match under way is completed by the piece of the text between the other two. -/
def CompletedBy : Progress → (before piece after : List Char) → Prop
  | .idle _, _, _, _ => False
  | .read _, _, piece, _ => piece = []
  | .seq a b, before, piece, after =>
    (∃ xs ys, piece = xs ++ ys ∧ a.CompletedBy before xs (ys ++ after) ∧
      b.pattern.Matches (before ++ xs) ys after) ∨ b.CompletedBy before piece after
  | .either a b, before, piece, after =>
    a.CompletedBy before piece after ∨ b.CompletedBy before piece after
  | .oneOrMore a, before, piece, after =>
    ∃ xs ys, piece = xs ++ ys ∧ a.CompletedBy before xs (ys ++ after) ∧
      (ys = [] ∨ (Pattern.oneOrMore a.pattern).Matches (before ++ xs) ys after)

/-- A match is completed by the piece: one that is under way or, if the pattern is entered in front
of the piece, one of the whole piece. -/
def Reaches (g : Progress) (entered : Bool) (before piece after : List Char) : Prop :=
  g.CompletedBy before piece after ∨ entered = true ∧ g.pattern.Matches before piece after

variable {a b g : Progress} {entered : Bool} {before piece after : List Char}

theorem pattern_seqOf (a b : Progress) : (seqOf a b).pattern = .seq a.pattern b.pattern := by
  cases a <;> cases b <;> rfl

theorem pattern_eitherOf (a b : Progress) :
    (eitherOf a b).pattern = .either a.pattern b.pattern := by
  cases a <;> cases b <;> rfl

theorem pattern_oneOrMoreOf (a : Progress) : (oneOrMoreOf a).pattern = .oneOrMore a.pattern := by
  cases a <;> rfl

theorem completedBy_seqOf :
    (seqOf a b).CompletedBy before piece after ↔ (seq a b).CompletedBy before piece after := by
  cases a <;> cases b <;> simp [seqOf, CompletedBy]

theorem completedBy_eitherOf :
    (eitherOf a b).CompletedBy before piece after ↔
      (either a b).CompletedBy before piece after := by
  cases a <;> cases b <;> simp [eitherOf, CompletedBy]

theorem completedBy_oneOrMoreOf :
    (oneOrMoreOf a).CompletedBy before piece after ↔
      (oneOrMore a).CompletedBy before piece after := by
  cases a <;> simp [oneOrMoreOf, CompletedBy]

theorem pattern_begin (place : Place) (p : Pattern) : (begin place p).pattern = p := by
  induction p with
  | empty | edge e => rfl
  | oneOf s =>
      rw [begin]
      split <;> rfl
  | seq p q ihp ihq =>
      rw [begin, pattern_seqOf, ihp]
      split
      · rw [ihq]
      · rfl
  | either p q ihp ihq => rw [begin, pattern_eitherOf, ihp, ihq]
  | oneOrMore p ih => rw [begin, pattern_oneOrMoreOf, ih]

theorem pattern_next (place : Place) (entered : Bool) (g : Progress) :
    (g.next place entered).pattern = g.pattern := by
  induction g generalizing entered with
  | idle p =>
      rw [next]
      split
      · exact pattern_begin place p
      · rfl
  | read s =>
      rw [next]
      split <;> rfl
  | seq a b iha ihb => rw [next, pattern_seqOf, iha, ihb, pattern]
  | either a b iha ihb => rw [next, pattern_eitherOf, iha, ihb, pattern]
  | oneOrMore a ih => rw [next, pattern_oneOrMoreOf, ih, pattern]

theorem reaches_or_iff {entered' : Bool} :
    g.Reaches (entered || entered') before piece after ↔
      g.Reaches entered before piece after ∨
        entered' = true ∧ g.pattern.Matches before piece after := by
  simp only [Reaches, Bool.or_eq_true, or_and_right, or_assoc]

theorem reaches_seq_iff :
    (seq a b).Reaches entered before piece after ↔
      (∃ xs ys, piece = xs ++ ys ∧ a.Reaches entered before xs (ys ++ after) ∧
        b.pattern.Matches (before ++ xs) ys after) ∨ b.CompletedBy before piece after := by
  simp only [Reaches, CompletedBy, pattern, Pattern.matches_seq_iff]
  constructor
  · rintro ((⟨xs, ys, heq, ha, hb⟩ | hb) | ⟨hentered, xs, ys, heq, ha, hb⟩)
    · exact Or.inl ⟨xs, ys, heq, Or.inl ha, hb⟩
    · exact Or.inr hb
    · exact Or.inl ⟨xs, ys, heq, Or.inr ⟨hentered, ha⟩, hb⟩
  · rintro (⟨xs, ys, heq, ha | ⟨hentered, ha⟩, hb⟩ | hb)
    · exact Or.inl (Or.inl ⟨xs, ys, heq, ha, hb⟩)
    · exact Or.inr ⟨hentered, xs, ys, heq, ha, hb⟩
    · exact Or.inl (Or.inr hb)

theorem reaches_either_iff :
    (either a b).Reaches entered before piece after ↔
      a.Reaches entered before piece after ∨ b.Reaches entered before piece after := by
  simp only [Reaches, CompletedBy, pattern, Pattern.matches_either_iff]
  tauto

theorem reaches_oneOrMore_iff :
    (oneOrMore a).Reaches entered before piece after ↔
      ∃ xs ys, piece = xs ++ ys ∧ a.Reaches entered before xs (ys ++ after) ∧
        (ys = [] ∨ (Pattern.oneOrMore a.pattern).Matches (before ++ xs) ys after) := by
  simp only [Reaches, CompletedBy, pattern]
  rw [Pattern.matches_oneOrMore_iff]
  constructor
  · rintro (⟨xs, ys, heq, ha, hrest⟩ | ⟨hentered, xs, ys, heq, ha, hrest⟩)
    · exact ⟨xs, ys, heq, Or.inl ha, hrest⟩
    · exact ⟨xs, ys, heq, Or.inr ⟨hentered, ha⟩, hrest⟩
  · rintro ⟨xs, ys, heq, ha | ⟨hentered, ha⟩, hrest⟩
    · exact Or.inl ⟨xs, ys, heq, ha, hrest⟩
    · exact Or.inr ⟨hentered, xs, ys, heq, ha, hrest⟩

theorem exits_iff :
    g.exits ⟨before.getLast?, after.head?⟩ entered = true ↔ g.Reaches entered before [] after := by
  induction g generalizing entered with
  | idle p => simp [exits, Reaches, CompletedBy, pattern, Pattern.acceptsEmpty_iff]
  | read s => simp [exits, Reaches, CompletedBy]
  | seq a b iha ihb =>
      rw [exits, ihb, Reaches, iha, reaches_seq_iff]
      simp [or_comm]
  | either a b iha ihb => rw [exits, Bool.or_eq_true, iha, ihb, reaches_either_iff]
  | oneOrMore a ih =>
      rw [exits, ih, reaches_oneOrMore_iff]
      simp

section

variable {c : Char}

theorem completedBy_begin_iff {p : Pattern} :
    (begin ⟨before.getLast?, some c⟩ p).CompletedBy (before ++ [c]) piece after ↔
      p.Matches before (c :: piece) after := by
  induction p generalizing piece after with
  | empty => simp [begin, CompletedBy]
  | edge e => simp [begin, CompletedBy]
  | oneOf s =>
      rw [begin]
      split <;> rename_i h <;> simp_all [Place.precedes, CompletedBy]
  | seq p q ihp ihq =>
      have hempty : p.acceptsEmpty ⟨before.getLast?, some c⟩ = true ↔
          p.Matches before [] (c :: (piece ++ after)) :=
        @Pattern.acceptsEmpty_iff p before (c :: (piece ++ after))
      rw [begin, completedBy_seqOf, CompletedBy, Pattern.matches_seq_iff,
        exists_cons_eq_append_iff, or_comm]
      -- the second pattern is entered at the place only if the first one may be empty there
      cases haccepts : p.acceptsEmpty ⟨before.getLast?, some c⟩ with
      | true =>
          have hfirst := hempty.mp haccepts
          simp [ihp, ihq, hfirst, pattern_begin]
      | false =>
          rw [haccepts] at hempty
          have hfirst : ¬p.Matches before [] (c :: (piece ++ after)) := fun h =>
            Bool.false_ne_true (hempty.mpr h)
          simp [ihp, hfirst, pattern, CompletedBy]
  | either p q ihp ihq =>
      rw [begin, completedBy_eitherOf, CompletedBy, ihp, ihq, Pattern.matches_either_iff]
  | oneOrMore p ih =>
      rw [begin, completedBy_oneOrMoreOf, CompletedBy, pattern_begin,
        Pattern.matches_oneOrMore_cons_iff]
      simp only [ih, List.append_assoc, List.cons_append, List.nil_append]

theorem completedBy_next_iff :
    (g.next ⟨before.getLast?, some c⟩ entered).CompletedBy (before ++ [c]) piece after ↔
      g.Reaches entered before (c :: piece) after := by
  induction g generalizing entered piece after with
  | idle p =>
      rw [next]
      cases entered with
      | true => simp [completedBy_begin_iff, Reaches, CompletedBy, pattern]
      | false => simp [Reaches, CompletedBy]
  | read s =>
      rw [next]
      split <;> rename_i h <;> simp_all [Place.precedes, Reaches, CompletedBy, pattern]
  | seq a b iha ihb =>
      have hexits : a.exits ⟨before.getLast?, some c⟩ entered = true ↔
          a.Reaches entered before [] (c :: piece ++ after) :=
        @exits_iff a entered before (c :: piece ++ after)
      rw [next, completedBy_seqOf, CompletedBy, ihb, pattern_next, reaches_seq_iff,
        exists_cons_eq_append_iff, Reaches, hexits]
      simp only [iha, List.append_assoc, List.cons_append, List.nil_append, List.append_nil]
      rw [or_rotate]
      exact or_comm
  | either a b iha ihb =>
      rw [next, completedBy_eitherOf, CompletedBy, iha, ihb, reaches_either_iff]
  | oneOrMore a ih =>
      have hexits : a.exits ⟨before.getLast?, some c⟩ false = true ↔
          a.CompletedBy before [] (c :: (piece ++ after)) := by
        simpa [Reaches] using @exits_iff a false before (c :: (piece ++ after))
      rw [next, completedBy_oneOrMoreOf, CompletedBy, pattern_next, reaches_oneOrMore_iff,
        exists_cons_eq_append_iff]
      simp only [ih, reaches_or_iff, hexits, List.append_assoc, List.cons_append, List.nil_append,
        List.append_nil, reduceCtorEq, false_or]
      constructor
      · rintro ⟨xs, ys, rfl, hreached | ⟨hdone, hmatch⟩, hothers⟩
        · exact Or.inr ⟨xs, ys, rfl, hreached, hothers⟩
        · exact Or.inl ⟨Or.inl hdone,
            Pattern.matches_oneOrMore_cons_iff.mpr ⟨xs, ys, rfl, hmatch, hothers⟩⟩
      · rintro (⟨hfirst, hrest⟩ | ⟨xs, ys, rfl, hreached, hothers⟩)
        · obtain ⟨xs, ys, rfl, hmatch, hothers⟩ := Pattern.matches_oneOrMore_cons_iff.mp hrest
          refine ⟨xs, ys, rfl, ?_, hothers⟩
          rcases hfirst with hdone | ⟨hentered, -⟩
          · exact Or.inr ⟨hdone, hmatch⟩
          · exact Or.inl (Or.inr ⟨hentered, hmatch⟩)
        · exact ⟨xs, ys, rfl, Or.inl hreached, hothers⟩

end

end Progress

/-- The places of a piece of text, the end included, that stands behind another piece. -/
def Place.behind (before : List Char) : List Char → List Place
  | [] => [⟨before.getLast?, none⟩]
  | c :: cs => ⟨before.getLast?, some c⟩ :: behind (before ++ [c]) cs

theorem Place.ofChars_eq (cs : List Char) : ofChars cs = behind [] cs := by
  have hplaces : ∀ before, List.zipWith Place.mk (before.getLast? :: cs.map some)
      (cs.map some ++ [none]) = behind before cs := by
    induction cs with
    | nil => exact fun before => rfl
    | cons c cs ih =>
        intro before
        have hrest := ih (before ++ [c])
        rw [List.getLast?_concat] at hrest
        rw [behind, ← hrest]
        rfl
  exact hplaces []

/-- Reading on from a place completes a match if one that is under way is completed, or if one that
starts there or later. -/
theorem Progress.completes_iff {g : Progress} {before cs : List Char} :
    g.completes (Place.behind before cs) = true ↔
      (∃ piece after, cs = piece ++ after ∧ g.CompletedBy before piece after) ∨
        ∃ skipped rest, cs = skipped ++ rest ∧
          ∃ piece after, rest = piece ++ after ∧
            g.pattern.Matches (before ++ skipped) piece after := by
  induction cs generalizing g before with
  | nil =>
      have hexits := @exits_iff g true before []
      rw [List.head?_nil] at hexits
      simp [Place.behind, completes, hexits, Reaches]
  | cons c cs ih =>
      have hexits := @exits_iff g true before (c :: cs)
      rw [List.head?_cons] at hexits
      simp only [Place.behind, completes, Bool.or_eq_true, hexits, ih, completedBy_next_iff,
        pattern_next, exists_cons_eq_append_iff, Reaches, true_and, and_or_left,
        exists_or, List.append_assoc, List.cons_append, List.nil_append, List.append_nil]
      rw [← or_assoc, or_or_or_comm, or_assoc]

namespace Pattern

theorem occursIn_iff {p : Pattern} {s : String} :
    p.occursIn s = true ↔
      ∃ before piece after, s.toList = before ++ (piece ++ after) ∧
        p.Matches before piece after := by
  rw [occursIn, Place.ofChars_eq, Progress.completes_iff]
  constructor
  · rintro (⟨piece, after, -, ⟨⟩⟩ | ⟨before, rest, hs, piece, after, rfl, hmatch⟩)
    exact ⟨before, piece, after, hs, hmatch⟩
  · rintro ⟨before, piece, after, hs, hmatch⟩
    exact Or.inr ⟨before, piece ++ after, hs, piece, after, rfl, hmatch⟩

end Pattern

end TypedRecords
