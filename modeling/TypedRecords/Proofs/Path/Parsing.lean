import TypedRecords.Path.Basic

namespace TypedRecords

namespace Text

theorem cutAt_eq_splitOn (sep : Char) (cs : List Char) : cutAt sep cs = cs.splitOn sep := by
  induction cs with
  | nil => rfl
  | cons c cs ih =>
      rw [cutAt, List.splitOn_cons_eq_if_modifyHead, ← ih]
      by_cases hc : c = sep
      · simp [hc]
      · cases hcut : cutAt sep cs with
        | nil => exact absurd (ih.symm.trans hcut) (List.splitOn_ne_nil sep cs)
        | cons piece pieces => simp [hc]

theorem not_mem_of_mem_cutAt {sep : Char} {cs piece : List Char} (h : piece ∈ cutAt sep cs) :
    sep ∉ piece := by
  induction cs generalizing piece with
  | nil =>
      rw [cutAt, List.mem_singleton] at h
      simp [h]
  | cons c cs ih =>
      rw [cutAt] at h
      split at h
      · rcases List.mem_cons.mp h with rfl | h
        · exact List.not_mem_nil
        · exact ih h
      · rename_i hc
        split at h
        · rw [List.mem_singleton.mp h]
          simpa using Ne.symm hc
        · rename_i first pieces hcut
          rcases List.mem_cons.mp h with rfl | h
          · have hfirst : sep ∉ first := ih (hcut ▸ List.mem_cons_self)
            simp [hfirst, Ne.symm hc]
          · exact ih (hcut ▸ List.mem_cons_of_mem _ h)

end Text

namespace Path

/-- A name that can stand between two dots. -/
def IsPiece (name : String) : Prop :=
  name ≠ "" ∧ '.' ∉ name.toList

theorem toList_pieces (s : String) :
    (pieces s).map String.toList = (s.toList.splitOn '.').filter fun piece => !piece.isEmpty := by
  simp [pieces, Text.cutAt_eq_splitOn, List.map_map, Function.comp_def]

theorem isPiece_of_mem_pieces {s name : String} (h : name ∈ pieces s) : IsPiece name := by
  obtain ⟨piece, hpiece, rfl⟩ := List.mem_map.mp h
  obtain ⟨hcut, hempty⟩ := List.mem_filter.mp hpiece
  refine ⟨?_, ?_⟩
  · intro hname
    have htoList := congrArg String.toList hname
    simp_all
  · rw [String.toList_ofList]
    exact Text.not_mem_of_mem_cutAt hcut

theorem pieces_eq_nil_iff {s : String} : pieces s = [] ↔ ∀ c ∈ s.toList, c = '.' := by
  have hcut : ∀ cs : List Char, ((Text.cutAt '.' cs).filter fun piece => !piece.isEmpty) = [] ↔
      ∀ c ∈ cs, c = '.' := by
    intro cs
    induction cs with
    | nil => simp [Text.cutAt]
    | cons c cs ih =>
        rw [Text.cutAt]
        split
        · rename_i hc
          simp [hc, ih]
        · rename_i hc
          split <;> simp [hc]
  rw [pieces, List.map_eq_nil_iff, hcut]

theorem pieces_joinDots {names : List String} (h : ∀ name ∈ names, IsPiece name) :
    pieces (joinDots names) = names := by
  have hnodot : ∀ piece ∈ names.map String.toList, '.' ∉ piece := by
    simpa using fun name hname => (h name hname).2
  have hkept : ((names.map String.toList).filter fun piece => !piece.isEmpty) =
      names.map String.toList := by
    refine List.filter_eq_self.mpr ?_
    simpa using fun name hname => (h name hname).1
  rw [pieces, joinDots, Text.joinWith, String.toList_ofList, Text.cutAt_eq_splitOn]
  cases names with
  | nil => rfl
  | cons name names =>
      rw [List.splitOn_intercalate '.' hnodot (by simp), hkept, List.map_map]
      simp [Function.comp_def]

theorem pieces_normalize (s : String) : pieces (normalize s) = pieces s :=
  pieces_joinDots fun _ => isPiece_of_mem_pieces

theorem nodes_injective {p q : Path} (h : p.nodes = q.nodes) : p = q := by
  obtain ⟨node, above⟩ := p
  obtain ⟨node', above'⟩ := q
  simp only [nodes, List.reverse_inj, List.cons.injEq] at h
  rw [h.1, h.2]

theorem nodes_extend (outer : Path) (names : List String) :
    (extend outer names).nodes = outer.nodes ++ names.map fun name => { name := name } := by
  induction names generalizing outer with
  | nil => simp [extend]
  | cons name names ih =>
      have hcons : extend outer (name :: names) = extend ((single name).under outer) names := rfl
      rw [hcons, ih]
      simp [nodes, single, under]

theorem parse_eq_ok_iff {s : String} {p : Path} :
    parse s = .ok p ↔ p.nodes = (pieces s).map fun name => { name := name } := by
  rw [parse]
  cases hpieces : pieces s with
  | nil => simp [nodes]
  | cons outermost names =>
      have hnodes : (extend (single outermost) names).nodes =
          (outermost :: names).map fun name => { name := name } := nodes_extend _ _
      rw [← hnodes]
      constructor
      · rintro ⟨⟩
        rfl
      · intro h
        rw [nodes_injective h]

theorem parse_eq_error_iff {s : String} {e : PathError} :
    parse s = .error e ↔ (∀ c ∈ s.toList, c = '.') ∧ e = .empty s := by
  rw [← pieces_eq_nil_iff, parse]
  cases pieces s <;> simp [eq_comm]

/-- The path has the non-empty pieces of the text between its dots as components, none of them a
root, and is named by the text without superfluous dots. -/
structure ReadFrom (p : Path) (s : String) : Prop where
  components : p.components.map String.toList =
    (s.toList.splitOn '.').filter fun piece => !piece.isEmpty
  ordinary : ∀ node ∈ p.nodes, node.isRoot = false
  fullName : p.fullName = normalize s
  relativeName : p.relativeName = normalize s

theorem readFrom_of_parse {s : String} {p : Path} (h : parse s = .ok p) : p.ReadFrom s := by
  have hnodes := parse_eq_ok_iff.mp h
  have hcomponents : p.components = pieces s := by simp [components, hnodes, Function.comp_def]
  have hordinary : ∀ node ∈ p.nodes, node.isRoot = false := by
    rw [hnodes]
    simp
  have hfilter : (p.nodes.filter fun node => !node.isRoot) = p.nodes :=
    List.filter_eq_self.mpr fun node hnode => by rw [hordinary node hnode]; rfl
  refine ⟨?_, hordinary, ?_, ?_⟩
  · rw [hcomponents, toList_pieces]
  · rw [fullName, hcomponents, normalize]
  · rw [relativeName, hfilter, ← components, hcomponents, normalize]

/-- A path without roots, each name of which can stand between two dots. -/
def Plain (p : Path) : Prop :=
  ∀ node ∈ p.nodes, node.isRoot = false ∧ IsPiece node.name

theorem parse_fullName {p : Path} (h : p.Plain) : parse p.fullName = .ok p := by
  have hpieces : pieces p.fullName = p.components := by
    refine pieces_joinDots fun name hname => ?_
    obtain ⟨node, hnode, rfl⟩ := List.mem_map.mp hname
    exact (h node hnode).2
  have hnodes : ∀ node ∈ p.nodes, node = { name := node.name } := by
    rintro ⟨name, isRoot⟩ hnode
    cases (h _ hnode).1
    rfl
  rw [parse_eq_ok_iff, hpieces, components, List.map_map]
  calc
    p.nodes = p.nodes.map id := (List.map_id _).symm
    _ = p.nodes.map fun node => { name := node.name } := List.map_congr_left hnodes

theorem normalize_normalize (s : String) : normalize (normalize s) = normalize s := by
  rw [normalize, pieces_normalize, ← normalize]

theorem parse_eq_iff_normalize_eq {s t : String} {p q : Path} (hp : parse s = .ok p)
    (hq : parse t = .ok q) : p = q ↔ normalize s = normalize t := by
  constructor
  · rintro rfl
    rw [← (readFrom_of_parse hp).fullName, (readFrom_of_parse hq).fullName]
  · intro h
    have hpieces : pieces s = pieces t := by rw [← pieces_normalize s, h, pieces_normalize]
    apply nodes_injective
    rw [parse_eq_ok_iff.mp hp, parse_eq_ok_iff.mp hq, hpieces]

/-- Reading texts as paths and naming paths are inverse to each other: a text is read unless it
consists of dots, it is read as the path of its pieces, and a plain path is read from its name. -/
theorem parse_inverse :
    (∀ s e, parse s = .error e ↔ (∀ c ∈ s.toList, c = '.') ∧ e = .empty s) ∧
      (∀ s, (∃ c ∈ s.toList, c ≠ '.') → ∃ p, parse s = .ok p ∧ p.ReadFrom s) ∧
        (∀ p : Path, p.Plain → parse p.fullName = .ok p) ∧
          (∀ s, normalize (normalize s) = normalize s) ∧
            ∀ s t p q, parse s = .ok p → parse t = .ok q →
              (p = q ↔ normalize s = normalize t) := by
  refine ⟨fun s e => parse_eq_error_iff, ?_, fun p => parse_fullName, normalize_normalize,
    fun s t p q => parse_eq_iff_normalize_eq⟩
  rintro s ⟨c, hc, hne⟩
  cases hparse : parse s with
  | error e => exact absurd ((parse_eq_error_iff.mp hparse).1 c hc) hne
  | ok p => exact ⟨p, rfl, readFrom_of_parse hparse⟩

theorem parse_inverse_table_column :
    ∃ p, parse ".table..column" = .ok p ∧ p.ReadFrom ".table..column" ∧
      (p = (single "column").under (single "table") ↔
        normalize ".table..column" = normalize "table.column") := by
  obtain ⟨-, hread, hnamed, -, hsame⟩ := parse_inverse
  obtain ⟨p, hparse, hp⟩ := hread ".table..column" ⟨'t', by decide, by decide⟩
  have hname : ((single "column").under (single "table")).fullName = "table.column" := by cbv
  have hplain : ((single "column").under (single "table")).Plain := by
    intro node hnode
    have hnodes : node = { name := "table" } ∨ node = { name := "column" } := by
      simpa [nodes, single, under] using hnode
    rcases hnodes with rfl | rfl
    · exact ⟨rfl, by decide, by decide⟩
    · exact ⟨rfl, by decide, by decide⟩
  exact ⟨p, hparse, hp, hsame _ _ _ _ hparse (hname ▸ hnamed _ hplain)⟩

end Path

end TypedRecords
