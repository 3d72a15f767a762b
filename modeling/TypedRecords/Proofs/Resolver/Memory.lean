import Mathlib.Algebra.BigOperators.Group.Finset.Basic
import Mathlib.Data.List.Induction
import TypedRecords.Resolver.Basic
import TypedRecords.Proofs.Collection.Table

/-!
For the paths that were looked up, a resolver remembers what a scan of the members finds for them.
-/

namespace TypedRecords

variable {U : Universe} {l : Lookup U} {s : Schema U}

inductive Query (U : Universe) where
  | find (path : Path)
  | findText (text : String)
  | findTyped (path : Path) (k : U.Kind)
  | has (path : Path)

namespace Query

/-- The path that a question is about, unless it is about a text that is no path. -/
def path? : Query U → Option Path
  | find path | findTyped path _ | has path => some path
  | findText text => (Path.parse text).toOption

abbrev Answer : Query U → Type
  | find _ => Option (Property U)
  | findText _ => Except Error (Option (Property U))
  | findTyped _ k => Except Error (Option (Typed U k))
  | has _ => Bool

/-- The answer to a question, where `found` gives the property that a path leads to. -/
def answer (found : Path → Option (Property U)) : (q : Query U) → q.Answer
  | find path => found path
  | findText text =>
    match Path.parse text with
    | .error e => .error (.path e)
    | .ok path => .ok (found path)
  | findTyped path k =>
    match found path with
    | none => .ok none
    | some p =>
      match p.typed? k with
      | some t => .ok (some t)
      | none => .error (.property (.typeMismatch p.relativeName (U.name k) p.typeName))
  | has path => (found path).isSome

end Query

namespace Lookup

/-- The property of the first pair of a resolver's properties whose path matches. -/
def firstMatch (l : Lookup U) (s : Schema U) (query : Path) : Option (Property U) :=
  ((Resolver.create l s).properties.1.find? fun pair => l.isMatch pair.1 query).map Prod.snd

theorem hits_eq (l : Lookup U) (query : Path) (p : Property U) :
    l.hits query p = (l.pathOf p.toDescriptor).any fun candidate => l.isMatch candidate query := by
  rw [hits]
  cases l.pathOf p.toDescriptor <;> rfl

theorem first?_eq_firstMatch (l : Lookup U) (s : Schema U) (query : Path) :
    l.first? s.members query = l.firstMatch s query := by
  rw [first?, firstMatch, Resolver.properties, Resolver.create]
  induction s.members with
  | nil => rfl
  | cons p ps ih =>
      rw [List.find?_cons, List.filterMap_cons, hits_eq, ih]
      cases l.pathOf p.toDescriptor with
      | none => rfl
      | some candidate => cases h : l.isMatch candidate query <;> simp [h]

/-- How many properties a scan for a path visits: all up to the first that matches. -/
def visited (l : Lookup U) (query : Path) (ps : List (Property U)) : Nat :=
  match ps.findIdx? (l.hits query) with
  | some i => i + 1
  | none => ps.length

theorem effort_eq_visited (l : Lookup U) (query : Path) (ps : List (Property U)) :
    l.effort query ps = l.visited query ps := by
  rw [visited]
  induction ps with
  | nil => rfl
  | cons p ps ih =>
      rw [effort, ih, List.findIdx?_cons, List.length_cons]
      cases l.hits query p with
      | true => rfl
      | false => cases ps.findIdx? (l.hits query) <;> rfl

end Lookup

namespace Resolver

def ask (r : Resolver U) : (q : Query U) → q.Answer × Resolver U
  | .find path => r.find path
  | .findText text => r.findText text
  | .findTyped path k => r.findTyped path k
  | .has path => r.has path

def run (r : Resolver U) (qs : List (Query U)) : Resolver U :=
  qs.foldl (fun r q => (r.ask q).2) r

theorem run_concat (r : Resolver U) (qs : List (Query U)) (q : Query U) :
    r.run (qs ++ [q]) = ((r.run qs).ask q).2 := by
  simp [run]

theorem ask_answer (r : Resolver U) (q : Query U) :
    (r.ask q).1 = q.answer fun path => (r.find path).1 := by
  cases q with
  | find path => rfl
  | findText text =>
      simp only [ask, findText, Query.answer]
      cases Path.parse text <;> rfl
  | findTyped path k =>
      simp only [ask, findTyped, Query.answer]
      obtain ⟨found, r'⟩ := r.find path
      cases found with
      | none => rfl
      | some p => cases h : p.typed? k <;> simp [h]
  | has path => rfl

theorem ask_resolver (r : Resolver U) (q : Query U) :
    (r.ask q).2 = q.path?.elim r fun path => (r.find path).2 := by
  cases q with
  | find path => rfl
  | findText text =>
      simp only [ask, findText, Query.path?]
      cases Path.parse text <;> rfl
  | findTyped path k =>
      simp only [ask, findTyped, Query.path?, Option.elim_some]
      obtain ⟨found, r'⟩ := r.find path
      cases found with
      | none => rfl
      | some p => cases h : p.typed? k <;> simp [h]
  | has path => rfl

theorem equivAmong_paths : EquivAmong (fun _ : Path => True) where
  refl _ := beq_self_eq_true _
  symm _ _ h := BEq.symm h
  trans _ _ _ h h' := PartialEquivBEq.trans h h'

/-- The resolver remembers what a scan finds for the given paths, and has asked for what these scans
visit. -/
structure Remembers (l : Lookup U) (s : Schema U) (paths : Finset Path) (r : Resolver U) :
    Prop where
  lookup : r.toLookup = l
  schema : r.schema = s
  known : ∀ path, r.known.get? path = if path ∈ paths then some (l.first? s.members path) else none
  asked : r.asked = ∑ path ∈ paths, l.effort path s.members

theorem remembers_create (l : Lookup U) (s : Schema U) : Remembers l s ∅ (create l s) where
  lookup := rfl
  schema := rfl
  known _ := rfl
  asked := rfl

namespace Remembers

variable {paths : Finset Path} {r : Resolver U}

theorem find_of_mem (h : Remembers l s paths r) {path : Path} (hpath : path ∈ paths) :
    r.find path = (l.first? s.members path, r) := by
  have hknown := h.known path
  rw [if_pos hpath] at hknown
  rw [Resolver.find, hknown]

theorem find_of_not_mem (h : Remembers l s paths r) {path : Path} (hpath : path ∉ paths) :
    r.find path = (l.first? s.members path,
      { r with
        known := r.known.insert path (l.first? s.members path)
        asked := r.asked + l.effort path s.members }) := by
  have hknown := h.known path
  rw [if_neg hpath] at hknown
  rw [Resolver.find, hknown, h.lookup, h.schema]

theorem find_answer (h : Remembers l s paths r) (path : Path) :
    (r.find path).1 = l.first? s.members path := by
  by_cases hpath : path ∈ paths
  · rw [h.find_of_mem hpath]
  · rw [h.find_of_not_mem hpath]

theorem find_asked (h : Remembers l s paths r) (path : Path) :
    (r.find path).2.asked =
      r.asked + if path ∈ paths then 0 else l.effort path s.members := by
  by_cases hpath : path ∈ paths
  · rw [h.find_of_mem hpath, if_pos hpath, Nat.add_zero]
  · rw [h.find_of_not_mem hpath, if_neg hpath]

theorem find (h : Remembers l s paths r) (path : Path) :
    Remembers l s (insert path paths) (r.find path).2 := by
  by_cases hpath : path ∈ paths
  · rw [h.find_of_mem hpath, Finset.insert_eq_self.mpr hpath]
    exact h
  · rw [h.find_of_not_mem hpath]
    -- the answer is put under this path alone, so the other paths keep theirs
    refine ⟨h.lookup, h.schema, ?_, ?_⟩
    · intro query
      have hget := Table.get?_update equivAmong_paths (t := r.known) (fun _ _ => trivial)
        (a := path) (b := query) trivial trivial (some (l.first? s.members path))
      rw [h.known] at hget
      refine hget.trans ?_
      by_cases hquery : query = path
      · subst hquery
        simp
      · simp [hquery]
    · rw [Finset.sum_insert hpath, ← h.asked, Nat.add_comm]

theorem ask (h : Remembers l s paths r) (q : Query U) :
    Remembers l s (q.path?.elim paths (insert · paths)) (r.ask q).2 := by
  rw [ask_resolver]
  cases q.path? with
  | none => exact h
  | some path => exact h.find path

end Remembers

def pathsOf (qs : List (Query U)) : Finset Path :=
  (qs.filterMap Query.path?).toFinset

theorem pathsOf_concat (qs : List (Query U)) (q : Query U) :
    pathsOf (qs ++ [q]) = q.path?.elim (pathsOf qs) (insert · (pathsOf qs)) := by
  rw [pathsOf, List.filterMap_append, List.filterMap_cons, List.toFinset_append]
  cases q.path? with
  | none => simp [pathsOf]
  | some path => simp [pathsOf]

theorem remembers_run (l : Lookup U) (s : Schema U) (qs : List (Query U)) :
    Remembers l s (pathsOf qs) ((create l s).run qs) := by
  induction qs using List.reverseRecOn with
  | nil => exact remembers_create l s
  | append_singleton qs q ih =>
      rw [run_concat, pathsOf_concat]
      exact ih.ask q

/-- After any questions, a resolver answers like one that was never asked before, with the first of
its properties whose path matches. It asks the members for their paths only if no earlier question
was about the same path, and then those up to the first that matches. -/
theorem ask_run (l : Lookup U) (s : Schema U) (qs : List (Query U)) (q : Query U) :
    (((create l s).run qs).ask q).1 = ((create l s).ask q).1 ∧
      (((create l s).run qs).ask q).1 = q.answer (l.firstMatch s) ∧
        (((create l s).run qs).ask q).2.asked =
          ((create l s).run qs).asked + q.path?.elim 0 (fun path =>
            if path ∈ pathsOf qs then 0 else l.visited path s.members) ∧
          ((create l s).run qs).asked = ∑ path ∈ pathsOf qs, l.visited path s.members := by
  have hrun := remembers_run l s qs
  have hanswer : ∀ {paths : Finset Path} {r : Resolver U}, Remembers l s paths r →
      (r.ask q).1 = q.answer (l.firstMatch s) := by
    intro paths r h
    rw [ask_answer]
    congr 1
    funext path
    rw [h.find_answer, Lookup.first?_eq_firstMatch]
  refine ⟨?_, hanswer hrun, ?_, ?_⟩
  · rw [hanswer hrun, hanswer (remembers_create l s)]
  · rw [ask_resolver]
    cases q.path? with
    | none => rfl
    | some path =>
        rw [Option.elim_some, Option.elim_some, hrun.find_asked, Lookup.effort_eq_visited]
  · rw [hrun.asked]
    exact Finset.sum_congr rfl fun path _ => Lookup.effort_eq_visited l path s.members

end Resolver

end TypedRecords
