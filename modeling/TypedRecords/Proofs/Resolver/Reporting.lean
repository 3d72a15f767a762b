import TypedRecords.Proofs.Record.Identifiers
import TypedRecords.Proofs.Resolver.Naming

namespace TypedRecords

variable {U : Universe} {P : Population U} {s : Schema U}

namespace Schema

/-- No two path members have the same relative name. -/
def NamesApart (s : Schema U) : Prop :=
  s.members.Pairwise fun p q =>
    p.isVirtual = false → q.isVirtual = false → p.relativeName ≠ q.relativeName

theorem NamesApart.pathMember?_eq (h : s.NamesApart) {p : Property U} (hp : p ∈ s.members)
    (hpath : p.isVirtual = false) : s.pathMember? p.relativeName = some p := by
  obtain ⟨before, after, hmembers⟩ := List.append_of_mem hp
  rw [NamesApart, hmembers] at h
  refine List.find?_eq_some_iff_append.mpr ⟨by simp [hpath], before, after, hmembers, ?_⟩
  intro q hq
  cases hvirtual : q.isVirtual with
  | true => rfl
  | false =>
      have hne := (List.pairwise_append.mp h).2.2 q hq p List.mem_cons_self hvirtual hpath
      simp [hne]

end Schema

namespace Lookup

variable {l : Lookup U}

theorem paths?_eq_some_iff {ps : List (Property U)} {paths : List Path} :
    l.paths? ps = some paths ↔
      List.Forall₂ (fun p path => l.pathOf p.toDescriptor = some path) ps paths := by
  induction ps generalizing paths with
  | nil => simp [paths?, eq_comm]
  | cons p ps ih =>
      simp only [paths?, Option.bind_eq_bind, Option.bind_eq_some_iff, ih, Option.pure_def,
        Option.some.injEq, List.forall₂_cons_left_iff]
      constructor
      · rintro ⟨path, hpath, paths, hpaths, rfl⟩
        exact ⟨path, paths, hpath, hpaths, rfl⟩
      · rintro ⟨path, paths, hpath, hpaths, rfl⟩
        exact ⟨path, hpath, paths, hpaths, rfl⟩

theorem paths?_eq_none_iff {ps : List (Property U)} :
    l.paths? ps = none ↔ ∃ p ∈ ps, l.pathOf p.toDescriptor = none := by
  induction ps with
  | nil => simp [paths?]
  | cons p ps ih =>
      rw [List.exists_mem_cons_iff, ← ih, paths?]
      cases l.pathOf p.toDescriptor <;> cases l.paths? ps <;> simp

end Lookup

namespace Resolver

/-- The paths that `r` reports for the properties of a schema, looked up by `r'`. -/
structure ReportsFor (s : Schema U) (r r' : Resolver U) : Prop where
  listed : r.properties.1.map Prod.snd = s.members.filter fun p => !p.isVirtual
  first : ∀ path p, (path, p) ∈ r.properties.1 →
    (r'.find path).1 = s.pathMember? p.relativeName
  member : s.NamesApart → ∀ path p, (path, p) ∈ r.properties.1 → (r'.find path).1 = some p
  identifiers : s.NamesApart → r.identifierPaths.1 = [] ∨
    List.Forall₂ (fun p path => (r'.find path).1.map Property.toDescriptor = some p.toDescriptor)
      s.identifiers r.identifierPaths.1
  identifierPaths_eq_nil_iff : r.identifierPaths.1 = [] ↔
    s.identifiers = [] ∨ ∃ p ∈ s.identifiers, p.isVirtual = true

section

variable {r : Resolver U}

theorem path?_of_mem_properties (hlookup : r.toLookup = .standard U) {path : Path}
    {p : Property U} (h : (path, p) ∈ r.properties.1) :
    p ∈ r.schema.members ∧ p.path? = some path := by
  obtain ⟨q, hq, hpath⟩ := List.mem_filterMap.mp h
  obtain ⟨path', hpath', heq⟩ := Option.map_eq_some_iff.mp hpath
  cases heq
  rw [hlookup] at hpath'
  exact ⟨hq, hpath'⟩

theorem map_snd_properties (hlookup : r.toLookup = .standard U) :
    r.properties.1.map Prod.snd = r.schema.members.filter fun p => !p.isVirtual := by
  have hguard : ∀ p : Property U, ((p.path?.map (·, p)).map Prod.snd : Option (Property U)) =
      Option.guard (fun p => !p.isVirtual) p := by
    intro p
    cases hpath : p.path? with
    | none => simp [Option.guard, Signature.path?_eq_none_iff.mp hpath]
    | some path => simp [Option.guard, Signature.isVirtual_of_path? hpath]
  rw [properties, hlookup, List.map_filterMap, ← List.filterMap_eq_filter]
  congr 1
  funext p
  exact hguard p

theorem identifierPaths_eq_nil_iff (hlookup : r.toLookup = .standard U) :
    r.identifierPaths.1 = [] ↔
      r.schema.identifiers = [] ∨ ∃ p ∈ r.schema.identifiers, p.isVirtual = true := by
  have hnone : r.paths? r.schema.identifiers = none ↔
      ∃ p ∈ r.schema.identifiers, p.isVirtual = true := by
    rw [Lookup.paths?_eq_none_iff, hlookup]
    exact exists_congr fun p => and_congr_right fun _ => Signature.path?_eq_none_iff
  rw [identifierPaths, ← hnone]
  cases hpaths : r.paths? r.schema.identifiers with
  | none => simp
  | some paths =>
      have hlength := (Lookup.paths?_eq_some_iff.mp hpaths).length_eq
      simp only [Option.getD_some, reduceCtorEq, or_false]
      rw [← List.length_eq_zero_iff, ← List.length_eq_zero_iff, hlength]

end

theorem find_path {p : Property U} {path : Path} (s : Schema U) (qs : List (Query U))
    (hpath : p.path? = some path) :
    (((create (.standard U) s).run qs).find path).1 = s.pathMember? p.relativeName := by
  rw [find_standard, Signature.relativeName_of_path? hpath]

theorem find_path_of_mem {p : Property U} {path : Path} (happart : s.NamesApart)
    (qs : List (Query U)) (hp : p ∈ s.members) (hpath : p.path? = some path) :
    (((create (.standard U) s).run qs).find path).1 = some p := by
  rw [find_path s qs hpath, happart.pathMember?_eq hp (Signature.isVirtual_of_path? hpath)]

/-- What a resolver with the standard rules reports for a schema of properties that are told apart
by reference leads back to these, whatever is looked up before the report and after it. -/
theorem reportsFor_run (hs : s.Referenced P) (qs qs' : List (Query U)) :
    ReportsFor s ((create (.standard U) s).run qs) ((create (.standard U) s).run qs') := by
  have hlookup := (remembers_run (.standard U) s qs).lookup
  have hschema := (remembers_run (.standard U) s qs).schema
  generalize (create (.standard U) s).run qs = r at hlookup hschema
  subst hschema
  refine ⟨map_snd_properties hlookup, ?_, ?_, ?_, identifierPaths_eq_nil_iff hlookup⟩
  · intro path p h
    exact find_path _ qs' (path?_of_mem_properties hlookup h).2
  · intro happart path p h
    obtain ⟨hp, hpath⟩ := path?_of_mem_properties hlookup h
    exact find_path_of_mem happart qs' hp hpath
  · intro happart
    rw [identifierPaths]
    cases hpaths : r.paths? r.schema.identifiers with
    | none => exact Or.inl rfl
    | some paths =>
        have hmarked := fun p (hp : p ∈ r.schema.identifiers) => hs.exists_member_eq hp
        have hreported := Lookup.paths?_eq_some_iff.mp hpaths
        refine Or.inr (((List.forall₂_and_left _ _).mpr ⟨hmarked, hreported⟩).imp ?_)
        rintro p path ⟨⟨m, hm, heq⟩, hpath⟩
        rw [hlookup] at hpath
        rw [find_path_of_mem happart qs' hm (heq ▸ hpath), Option.map_some, heq]

open Sample in
theorem reportsFor_street_title :
    let s : Schema kinds := { members := [heading, title, street], identifiers := [street] }
    let r := create (.standard kinds) s
    let missed := r.run [.findText "street"]
    s.Referenced entries ∧ s.NamesApart ∧ ReportsFor s r missed ∧
      r.identifierPaths.1 ≠ [] ∧
        ∀ path, street.path? = some path → (missed.find path).1 = some street := by
  intro s r missed
  have hentries : ∀ p ∈ [heading, title, street], p.toDescriptor ∈ entries := fun p hp =>
    List.mem_map_of_mem hp
  have hreference : ∀ p ∈ [heading, title, street], p.identity = none := by
    simp only [List.forall_mem_cons, List.not_mem_nil, false_imp_iff, implies_true, and_true]
    exact ⟨rfl, rfl, rfl⟩
  have hstreet : street ∈ [heading, title, street] := by simp
  have hs : s.Referenced entries := by
    refine ⟨⟨⟨_, _, .mark (.of hentries) (hentries street hstreet) rfl⟩, hreference⟩, ?_⟩
    intro p hp
    rw [List.mem_singleton.mp hp]
    rfl
  have hapart : s.NamesApart := by
    have hheading : heading.isVirtual ≠ false := by decide
    have hnames : title.relativeName ≠ street.relativeName := by cbv
    simp only [Schema.NamesApart, s, List.pairwise_cons, List.forall_mem_cons, List.not_mem_nil,
      false_imp_iff, implies_true, and_true, List.Pairwise.nil]
    exact ⟨⟨fun h => absurd h hheading, fun h => absurd h hheading⟩, fun _ _ => hnames⟩
  have hreports : ReportsFor s r missed := reportsFor_run hs [] [.findText "street"]
  refine ⟨hs, hapart, hreports, ?_, ?_⟩
  · rw [ne_eq, hreports.identifierPaths_eq_nil_iff]
    simp [s, show street.isVirtual = false from rfl]
  · intro path hpath
    refine hreports.member hapart path street (List.mem_filterMap.mpr ⟨street, hstreet, ?_⟩)
    exact Option.map_eq_some_iff.mpr ⟨path, hpath, rfl⟩

end Resolver

end TypedRecords
