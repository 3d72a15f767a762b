import TypedRecords.Resolver.Access
import TypedRecords.Proofs.Record.History
import TypedRecords.Proofs.Resolver.Memory

namespace TypedRecords

variable {U : Universe}

inductive Access (U : Universe) where
  | has (path : Path)
  | get (path : Path)
  | getAs (path : Path) (k : U.Kind)
  | write (path : Path) (x : Option (Value U))
  | writeAs (path : Path) (k : U.Kind) (x : Option (U.El k))

namespace Access

def path : Access U → Path
  | has path | get path | getAs path _ | write path _ | writeAs path _ _ => path

abbrev Answer : Access U → Type
  | has _ => Bool
  | get _ => Except Error (Option (Value U))
  | getAs _ k => Except Error (Option (U.El k))
  | write .. | writeAs .. => Except Error Unit

/-- The edit that a write by path stands for, where `found` gives the property that a path leads
to. -/
def edit? (found : Path → Option (Property U)) : Access U → Option (Edit U)
  | write path x => (found path).map fun p => .write p.toDescriptor x false
  | writeAs path k x => (found path).map fun p => .write p.toDescriptor (x.map (Value.mk k)) false
  | has _ | get _ | getAs .. => none

end Access

/-- A record, and the resolver that it is used through. -/
structure PathView (U : Universe) where
  resolver : Resolver U
  contents : Contents U

namespace PathView

def write (v : PathView U) (path : Path) (x : Option (Value U)) :
    Except Error Unit × PathView U :=
  match v.resolver.write v.contents path x with
  | (.ok c, r) => (.ok (), ⟨r, c⟩)
  | (.error e, r) => (.error e, ⟨r, v.contents⟩)

def access (v : PathView U) : (a : Access U) → a.Answer × PathView U
  | .has path =>
    let answered := v.resolver.hasValue v.contents path
    (answered.1, ⟨answered.2, v.contents⟩)
  | .get path =>
    let answered := v.resolver.get v.contents path
    (answered.1, ⟨answered.2, v.contents⟩)
  | .getAs path k =>
    let answered := v.resolver.getAs v.contents path k
    (answered.1, ⟨answered.2, v.contents⟩)
  | .write path x => v.write path x
  | .writeAs path k x => v.write path (x.map (Value.mk k))

def run (v : PathView U) (as : List (Access U)) : PathView U :=
  as.foldl (fun v a => (v.access a).2) v

/-- The view acts like the record `c`, of which `found` gives the property that a path leads to. -/
structure ActsLike (found : Path → Option (Property U)) (c : Contents U) (v : PathView U) :
    Prop where
  contents_eq : v.contents = c
  has : ∀ path, (v.access (.has path)).1 = (found path).elim false c.has
  get : ∀ path, (v.access (.get path)).1 =
    (found path).elim (.error (.property (.notFound path.fullName))) c.get
  getAs_iff : ∀ path k x, (v.access (.getAs path k)).1 = .ok x ↔
    ∃ p, found path = some p ∧ p.kind = k ∧
      (v.access (.get path)).1 = .ok (x.map (Value.mk k))
  getAs_of_none : ∀ path k, found path = none →
    (v.access (.getAs path k)).1 = .error (.property (.notFound path.fullName))
  write : ∀ path x, (v.access (.write path x)).1 =
    (found path).elim (.error (.property (.notFound path.fullName)))
      fun p => c.outcome (.write p.toDescriptor x false)
  writeAs : ∀ path k x, (v.access (.writeAs path k x)).1 =
    (found path).elim (.error (.property (.notFound path.fullName)))
      fun p => c.outcome (.write p.toDescriptor (x.map (Value.mk k)) false)
  leaves : ∀ a, (v.access a).2.contents = (a.edit? found).elim c c.after

section

variable {v : PathView U} {path : Path} {r : Resolver U}

theorem write_of_none (hfind : v.resolver.find path = (none, r)) (x : Option (Value U)) :
    v.write path x = (.error (Resolver.noMember path), ⟨r, v.contents⟩) := by
  simp only [write, Resolver.write, hfind]

theorem write_of_some {p : Property U} (hfind : v.resolver.find path = (some p, r))
    (x : Option (Value U)) :
    v.write path x = (v.contents.outcome (.write p.toDescriptor x false),
      ⟨r, v.contents.after (.write p.toDescriptor x false)⟩) := by
  simp only [write, Resolver.write, hfind, Contents.outcome, Contents.after, Contents.apply]
  cases v.contents.write p.toDescriptor x false <;> rfl

theorem getAs_of_none (hfind : v.resolver.find path = (none, r)) (k : U.Kind) :
    v.resolver.getAs v.contents path k = (.error (Resolver.noMember path), r) := by
  simp only [Resolver.getAs, Resolver.findTyped, hfind]

theorem getAs_of_some {p : Property U} (hfind : v.resolver.find path = (some p, r)) {k : U.Kind}
    {x : Option (U.El k)} :
    (v.resolver.getAs v.contents path k).1 = .ok x ↔
      p.kind = k ∧ v.contents.get p = .ok (x.map (Value.mk k)) := by
  simp only [Resolver.getAs, Resolver.findTyped, hfind]
  by_cases hk : p.kind = k
  · subst hk
    simp only [Property.typed?, dif_pos, Contents.get]
    cases v.contents.read p with
    | error e => simp [Except.map]
    | ok y =>
        have hinj : Function.Injective (Value.mk p.kind) := by
          rintro a b hab
          cases hab
          rfl
        simp [Except.map, (Option.map_injective hinj).eq_iff]
  · simp [Property.typed?, hk]

theorem write_resolver (v : PathView U) (path : Path) (x : Option (Value U)) :
    (v.write path x).2.resolver = (v.resolver.find path).2 := by
  cases hfind : v.resolver.find path with
  | mk answer r =>
      cases answer with
      | none => rw [write_of_none hfind]
      | some p => rw [write_of_some hfind]

theorem access_resolver (v : PathView U) (a : Access U) :
    (v.access a).2.resolver = (v.resolver.find a.path).2 := by
  cases a with
  | has path =>
      simp only [access, Resolver.hasValue, Access.path]
      split <;> simp [*]
  | get path =>
      simp only [access, Resolver.get, Access.path]
      split <;> simp [*]
  | getAs path k =>
      simp only [access, Resolver.getAs, Resolver.findTyped, Access.path]
      obtain ⟨answer, r⟩ := v.resolver.find path
      cases answer with
      | none => rfl
      | some p => cases h : p.typed? k <;> simp [h]
  | write path x => exact v.write_resolver path x
  | writeAs path k x => exact v.write_resolver path _

theorem actsLike_of_find {found : Path → Option (Property U)}
    (hfound : ∀ path, (v.resolver.find path).1 = found path) :
    ActsLike found v.contents v := by
  have hfind : ∀ path, ∃ r, v.resolver.find path = (found path, r) := fun path =>
    ⟨_, Prod.ext (hfound path) rfl⟩
  have hwrite : ∀ path x, ∃ r, v.write path x =
      ((found path).elim (.error (.property (.notFound path.fullName)))
          fun p => v.contents.outcome (.write p.toDescriptor x false),
        ⟨r, (found path).elim v.contents
          fun p => v.contents.after (.write p.toDescriptor x false)⟩) := by
    intro path x
    obtain ⟨r, hr⟩ := hfind path
    cases hp : found path with
    | none => exact ⟨r, write_of_none (hp ▸ hr) x⟩
    | some p => exact ⟨r, write_of_some (hp ▸ hr) x⟩
  have hget : ∀ path, (v.access (.get path)).1 =
      (found path).elim (.error (.property (.notFound path.fullName))) v.contents.get := by
    intro path
    obtain ⟨r, hr⟩ := hfind path
    cases hp : found path <;> simp [access, Resolver.get, hr, hp, Resolver.noMember]
  refine ⟨rfl, ?_, hget, ?_, ?_, ?_, ?_, ?_⟩
  · intro path
    obtain ⟨r, hr⟩ := hfind path
    cases hp : found path <;> simp [access, Resolver.hasValue, hr, hp]
  · intro path k x
    rw [hget path]
    obtain ⟨r, hr⟩ := hfind path
    cases hp : found path with
    | none => simp [access, getAs_of_none (hp ▸ hr)]
    | some p => simpa [access] using getAs_of_some (hp ▸ hr)
  · intro path k hp
    obtain ⟨r, hr⟩ := hfind path
    simp [access, getAs_of_none (hp ▸ hr), Resolver.noMember]
  · intro path x
    obtain ⟨r, hr⟩ := hwrite path x
    rw [access, hr]
  · intro path k x
    obtain ⟨r, hr⟩ := hwrite path (x.map (Value.mk k))
    rw [access, hr]
  · intro a
    cases a with
    | has path | get path | getAs path k => rfl
    | write path x =>
        obtain ⟨r, hr⟩ := hwrite path x
        rw [access, hr, Access.edit?]
        cases found path <;> rfl
    | writeAs path k x =>
        obtain ⟨r, hr⟩ := hwrite path (x.map (Value.mk k))
        rw [access, hr, Access.edit?]
        cases found path <;> rfl

end

theorem run_concat (v : PathView U) (as : List (Access U)) (a : Access U) :
    v.run (as ++ [a]) = ((v.run as).access a).2 := by
  simp [run]

section

variable {v : PathView U} {l : Lookup U} {s : Schema U} {paths : Finset Path}

theorem actsLike_of_remembers (h : Resolver.Remembers l s paths v.resolver) :
    ActsLike (l.firstMatch s) v.contents v :=
  actsLike_of_find fun path => (h.find_answer path).trans (l.first?_eq_firstMatch s path)

theorem exists_remembers_run (h : Resolver.Remembers l s paths v.resolver)
    (as : List (Access U)) : ∃ paths, Resolver.Remembers l s paths (v.run as).resolver := by
  induction as using List.reverseRecOn with
  | nil => exact ⟨paths, h⟩
  | append_singleton as a ih =>
      obtain ⟨paths, hpaths⟩ := ih
      rw [run_concat, access_resolver]
      exact ⟨_, hpaths.find a.path⟩

theorem contents_run (h : Resolver.Remembers l s paths v.resolver) (as : List (Access U)) :
    (v.run as).contents = v.contents.run (as.filterMap (Access.edit? (l.firstMatch s))) := by
  induction as using List.reverseRecOn with
  | nil => rfl
  | append_singleton as a ih =>
      obtain ⟨paths, hpaths⟩ := exists_remembers_run h as
      rw [run_concat, (actsLike_of_remembers hpaths).leaves a, ih, List.filterMap_append,
        List.filterMap_cons]
      cases a.edit? (l.firstMatch s) with
      | none => simp
      | some e => simp [Contents.run_concat]

end

/-- However often its resolver was asked before, and after any accesses, a record that is used by
path acts like one that was edited directly, through the first members whose paths match. -/
theorem actsLike_run (l : Lookup U) (c : Contents U) (qs : List (Query U)) (as : List (Access U)) :
    ActsLike (l.firstMatch c.schema)
      (c.run (as.filterMap (Access.edit? (l.firstMatch c.schema))))
      (run ⟨(Resolver.create l c.schema).run qs, c⟩ as) := by
  have hstart := Resolver.remembers_run l c.schema qs
  let start : PathView U := ⟨(Resolver.create l c.schema).run qs, c⟩
  obtain ⟨paths, hpaths⟩ := exists_remembers_run (v := start) hstart as
  have hcontents := contents_run (v := start) hstart as
  exact hcontents ▸ actsLike_of_remembers hpaths

end PathView

end TypedRecords
