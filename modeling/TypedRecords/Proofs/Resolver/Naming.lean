import TypedRecords.Proofs.Path.Parsing
import TypedRecords.Proofs.Resolver.Memory
import TypedRecords.Proofs.Sample

namespace TypedRecords

variable {U : Universe} {s : Schema U}

namespace Path

/-- The second path is the first with root nodes inserted or removed above its last node, one after
the other. -/
inductive UpToRoots (p : Path) : Path → Prop
  | refl : UpToRoots p p
  | inserted {node : Node} {below above : List Node} (name : String)
      (before : UpToRoots p ⟨node, below ++ above⟩) :
      UpToRoots p ⟨node, below ++ ⟨name, true⟩ :: above⟩
  | removed {node : Node} {below above : List Node} {name : String}
      (before : UpToRoots p ⟨node, below ++ ⟨name, true⟩ :: above⟩) :
      UpToRoots p ⟨node, below ++ above⟩

theorem relativeName_insert_root (node : Node) (below above : List Node) (name : String) :
    relativeName ⟨node, below ++ ⟨name, true⟩ :: above⟩ = relativeName ⟨node, below ++ above⟩ := by
  simp [relativeName, nodes]

theorem UpToRoots.relativeName_eq {p q : Path} (h : p.UpToRoots q) :
    q.relativeName = p.relativeName := by
  induction h with
  | refl => rfl
  | inserted name before ih => rw [relativeName_insert_root, ih]
  | removed before ih => rw [← ih, relativeName_insert_root]

end Path

namespace Signature

variable {d : Signature U}

theorem path?_eq_none_iff : d.path? = none ↔ d.isVirtual = true := by
  rw [path?, isVirtual]
  split <;> simp [*]

theorem isVirtual_of_path? {p : Path} (h : d.path? = some p) : d.isVirtual = false := by
  rw [← Bool.not_eq_true, ← path?_eq_none_iff, h]
  exact Option.some_ne_none p

theorem relativeName_of_path? {p : Path} (h : d.path? = some p) :
    p.relativeName = d.relativeName := by
  rw [Signature.relativeName, h]

end Signature

namespace Schema

/-- The first path member with a relative name. -/
def pathMember? (s : Schema U) (relativeName : String) : Option (Property U) :=
  s.members.find? fun p => !p.isVirtual && p.relativeName == relativeName

theorem isVirtual_of_pathMember? {name : String} {p : Property U}
    (h : s.pathMember? name = some p) : p.isVirtual = false := by
  have hp := List.find?_some h
  simp only [Bool.and_eq_true, Bool.not_eq_true'] at hp
  exact hp.1

theorem pathMember?_eq_member?_iff {name : String} :
    s.pathMember? name = s.member? name ↔
      ∀ p, s.member? name = some p → p.isVirtual = false := by
  constructor
  · intro h p hp
    exact isVirtual_of_pathMember? (h.trans hp)
  · intro h
    cases hmember : s.member? name with
    | none =>
        have hnone := List.find?_eq_none.mp hmember
        refine List.find?_eq_none.mpr fun p hp => ?_
        simp [hnone p hp]
    | some p =>
        obtain ⟨hp, before, after, hmembers, hbefore⟩ :=
          List.find?_eq_some_iff_append.mp hmember
        refine List.find?_eq_some_iff_append.mpr ⟨?_, before, after, hmembers, ?_⟩
        · simp [h p hmember, hp]
        · intro q hq
          simp [hbefore q hq]

end Schema

namespace Lookup

theorem standard_hits (query : Path) (p : Property U) :
    (standard U).hits query p = (!p.isVirtual && p.relativeName == query.relativeName) := by
  rw [hits_eq]
  change (p.path?.any fun candidate => candidate.relativeName == query.relativeName) = _
  cases hpath : p.path? with
  | none => simp [Signature.path?_eq_none_iff.mp hpath]
  | some candidate =>
      simp [Signature.isVirtual_of_path? hpath, Signature.relativeName_of_path? hpath]

theorem standard_first? (s : Schema U) (query : Path) :
    (standard U).first? s.members query = s.pathMember? query.relativeName := by
  rw [first?, Schema.pathMember?]
  congr 1
  funext p
  exact standard_hits query p

end Lookup

namespace Resolver

theorem find_standard (s : Schema U) (qs : List (Query U)) (path : Path) :
    (((create (.standard U) s).run qs).find path).1 = s.pathMember? path.relativeName := by
  rw [(remembers_run (.standard U) s qs).find_answer path, Lookup.standard_first?]

theorem findText_eq_error_iff {r : Resolver U} {text : String} {e : Error} :
    (r.findText text).1 = .error e ↔
      (∀ c ∈ text.toList, c = '.') ∧ e = .path (.empty text) := by
  have hparse : (r.findText text).1 = .error e ↔
      ∃ f, Path.parse text = .error f ∧ e = .path f := by
    rw [findText]
    cases Path.parse text <;> simp [eq_comm]
  simp only [hparse, Path.parse_eq_error_iff, and_assoc, exists_and_left, exists_eq_left]

/-- The resolver finds the path members of a schema by their relative names. -/
structure FindsByName (s : Schema U) (r : Resolver U) : Prop where
  findText_error_iff : ∀ text e, (r.findText text).1 = .error e ↔
    (∀ c ∈ text.toList, c = '.') ∧ e = .path (.empty text)
  findText : ∀ text, (∃ c ∈ text.toList, c ≠ '.') →
    (r.findText text).1 = .ok (s.pathMember? (Path.normalize text))
  /-- The schema finds the same, unless the first member of the name is a virtual one. -/
  agrees_iff : ∀ text, (∃ c ∈ text.toList, c ≠ '.') →
    ((r.findText text).1 = .ok (s.member? (Path.normalize text)) ↔
      ∀ p, s.member? (Path.normalize text) = some p → p.isVirtual = false)
  find_upToRoots : ∀ p q : Path, p.UpToRoots q → (r.find q).1 = (r.find p).1

/-- Whatever was looked up before, a resolver with the standard rules finds the path members of its
schema by their relative names. -/
theorem findsByName_run (s : Schema U) (qs : List (Query U)) :
    FindsByName s ((create (.standard U) s).run qs) := by
  have hfind := find_standard s qs
  generalize (create (.standard U) s).run qs = r at hfind
  have hread : ∀ text, (∃ c ∈ text.toList, c ≠ '.') →
      (r.findText text).1 = .ok (s.pathMember? (Path.normalize text)) := by
    rintro text ⟨c, hc, hne⟩
    cases hparse : Path.parse text with
    | error e => exact absurd ((Path.parse_eq_error_iff.mp hparse).1 c hc) hne
    | ok path =>
        rw [findText, hparse, ← (Path.readFrom_of_parse hparse).relativeName, ← hfind path]
  refine ⟨fun text e => findText_eq_error_iff, hread, ?_, ?_⟩
  · intro text htext
    rw [hread text htext, Except.ok.injEq, Schema.pathMember?_eq_member?_iff]
  · intro p q hpq
    rw [hfind p, hfind q, hpq.relativeName_eq]

open Sample in
example :
    (Schema.of [heading, title]).member? "title" = some heading ∧
      ((create (.standard kinds) (.of [heading, title])).findText ".title").1 =
        .ok (some title) := by
  constructor <;> rfl

end Resolver

end TypedRecords
