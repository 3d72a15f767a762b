import TypedRecords.Schema
import TypedRecords.Text.Lowercase

/-!
Answers are remembered, misses included, so properties are asked for their paths only when a path
has not been looked up before.
-/

namespace TypedRecords

/-- The rules of a resolver: the paths of properties, and when a property's path matches a query. -/
structure Lookup (U : Universe) where
  pathOf : Descriptor U → Option Path
  isMatch : Path → Path → Bool

structure Resolver (U : Universe) extends Lookup U where
  schema : Schema U
  known : Table Path (Option (Property U)) := {}
  asked : Nat := 0

def Path.matchesExactly (candidate query : Path) : Bool :=
  candidate.relativeName == query.relativeName

/-- Paths match when their relative names have the same lower-case form. -/
def Path.matchesAnyCase (candidate query : Path) : Bool :=
  Text.lowercase candidate.relativeName == Text.lowercase query.relativeName

/-- Path properties have their own path, virtual ones none, and relative names must be equal. -/
def Lookup.standard (U : Universe) : Lookup U :=
  ⟨fun d => d.path?, Path.matchesExactly⟩

namespace Lookup

variable {U : Universe}

def hits (l : Lookup U) (query : Path) (p : Property U) : Bool :=
  match l.pathOf p.toDescriptor with
  | some candidate => l.isMatch candidate query
  | none => false

/-- The first of a list of properties whose path matches the query. -/
def first? (l : Lookup U) (ps : List (Property U)) (query : Path) : Option (Property U) :=
  ps.find? (l.hits query)

def effort (l : Lookup U) (query : Path) : List (Property U) → Nat
  | [] => 0
  | p :: rest => if l.hits query p then 1 else l.effort query rest + 1

/-- The paths of properties, up to the first that has none; `none` if there is such a one. -/
def paths? (l : Lookup U) : List (Property U) → Option (List Path)
  | [] => some []
  | p :: rest => do
    let path ← l.pathOf p.toDescriptor
    return path :: (← l.paths? rest)

/-- How many properties have their path asked for until one has none. -/
def pathEffort (l : Lookup U) : List (Property U) → Nat
  | [] => 0
  | p :: rest => if (l.pathOf p.toDescriptor).isSome then l.pathEffort rest + 1 else 1

end Lookup

namespace Resolver

variable {U : Universe}

def create (l : Lookup U) (s : Schema U) : Resolver U :=
  { toLookup := l, schema := s }

def find (r : Resolver U) (query : Path) : Option (Property U) × Resolver U :=
  match r.known.get? query with
  | some answer => (answer, r)
  | none =>
    let answer := r.first? r.schema.members query
    (answer,
      { r with
        known := r.known.insert query answer
        asked := r.asked + r.effort query r.schema.members })

def findText (r : Resolver U) (s : String) : Except Error (Option (Property U)) × Resolver U :=
  match Path.parse s with
  | .error e => (.error (.path e), r)
  | .ok query =>
    let (answer, r) := r.find query
    (.ok answer, r)

def has (r : Resolver U) (query : Path) : Bool × Resolver U :=
  let (answer, r) := r.find query
  (answer.isSome, r)

def findTyped (r : Resolver U) (query : Path) (k : U.Kind) :
    Except Error (Option (Typed U k)) × Resolver U :=
  match r.find query with
  | (none, r) => (.ok none, r)
  | (some p, r) =>
    match p.typed? k with
    | some t => (.ok (some t), r)
    | none =>
      (.error (.property (.typeMismatch p.relativeName (U.name k) p.typeName)), r)

/-- The paths of the identifiers, or no path at all if some identifier has none. -/
def identifierPaths (r : Resolver U) : List Path × Resolver U :=
  ((r.paths? r.schema.identifiers).getD [],
    { r with asked := r.asked + r.pathEffort r.schema.identifiers })

def path? (r : Resolver U) (p : Property U) : Option Path × Resolver U :=
  (r.pathOf p.toDescriptor, { r with asked := r.asked + 1 })

def properties (r : Resolver U) : List (Path × Property U) × Resolver U :=
  (r.schema.members.filterMap fun p => (r.pathOf p.toDescriptor).map (·, p),
    { r with asked := r.asked + r.schema.members.length })

end Resolver

end TypedRecords
