import TypedRecords.Feed
import TypedRecords.Text.Pieces

/-!
A root stands for the container of a hierarchy: its name is part of full names and is left out of
relative names.
-/

namespace TypedRecords

/-- One name of a path, and whether it names the container of the hierarchy. -/
structure Path.Node where
  name : String
  isRoot : Bool := false
  deriving DecidableEq

/-- A path: its last node and the nodes above it, the nearest first. -/
structure Path where
  node : Path.Node
  above : List Path.Node := []
  deriving DecidableEq

inductive PathError where
  | empty (input : String)
  deriving DecidableEq

def PathError.message : PathError → String
  | .empty input => s!"Empty path: '{input}'"

namespace Path

def single (name : String) : Path :=
  { node := { name } }

def root (name : String) : Path :=
  { node := { name, isRoot := true } }

/-- The path with its parent replaced; what stood above the last node before is forgotten. -/
def under (p parent : Path) : Path :=
  { p with above := parent.node :: parent.above }

def parent? (p : Path) : Option Path :=
  match p.above with
  | [] => none
  | node :: above => some { node, above }

def name (p : Path) : String :=
  p.node.name

def isRoot (p : Path) : Bool :=
  p.node.isRoot

/-- The nodes of the path, the outermost first. -/
def nodes (p : Path) : List Node :=
  (p.node :: p.above).reverse

def length (p : Path) : Nat :=
  p.above.length + 1

def components (p : Path) : List String :=
  p.nodes.map Node.name

def pieces (s : String) : List String :=
  ((Text.cutAt '.' s.toList).filter fun piece => !piece.isEmpty).map String.ofList

def joinDots (names : List String) : String :=
  Text.joinWith ['.'] names

/-- The text with repeated, leading and trailing dots removed. -/
def normalize (s : String) : String :=
  joinDots (pieces s)

def relativeName (p : Path) : String :=
  joinDots ((p.nodes.filter fun node => !node.isRoot).map Node.name)

def fullName (p : Path) : String :=
  joinDots p.components

/-- The path whose nodes are the given names below `outer`, none of them a root. -/
def extend (outer : Path) (names : List String) : Path :=
  names.foldl (fun parent name => (single name).under parent) outer

def parse (s : String) : Except PathError Path :=
  match pieces s with
  | [] => .error (.empty s)
  | outermost :: names => .ok (extend (single outermost) names)

def feedNodes {κ : Type} : Node → List Node → Feed κ
  | node, [] => [.text node.name, .number 0, Feed.flag node.isRoot]
  | node, next :: above =>
    [.text node.name, .number 1] ++ feedNodes next above ++ [Feed.flag node.isRoot]

/-- The data that a path hands to a hasher: its name, its parent if there is one, its root mark. -/
def feed {κ : Type} (p : Path) : Feed κ :=
  feedNodes p.node p.above

end Path

end TypedRecords
