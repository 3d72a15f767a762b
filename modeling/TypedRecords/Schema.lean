import TypedRecords.Property.Basic

/-!
Adding a property that equals a member changes nothing, and only members can be marked as
identifiers.
-/

namespace TypedRecords

structure Schema (U : Universe) where
  members : List (Property U) := []
  identifiers : List (Property U) := []
  configuration : Configuration U := {}

namespace Schema

variable {U : Universe}

def empty : Schema U :=
  {}

def occurs (d : Descriptor U) (ps : List (Property U)) : Bool :=
  ps.any fun p => p.toDescriptor == d

def contains (s : Schema U) (d : Descriptor U) : Bool :=
  occurs d s.members

def isIdentifier (s : Schema U) (d : Descriptor U) : Bool :=
  occurs d s.identifiers

def containsAll (s other : Schema U) : Bool :=
  other.members.all fun p => s.contains p.toDescriptor

/-- The list with a property behind the others, unless it equals one of them. -/
def append (ps : List (Property U)) (p : Property U) : List (Property U) :=
  if occurs p.toDescriptor ps then ps else ps ++ [p]

/-- The schema with a property as its last member, unless it equals a member. -/
def add (s : Schema U) (p : Property U) : Schema U :=
  { s with members := append s.members p }

def addAll (s : Schema U) (ps : List (Property U)) : Schema U :=
  ps.foldl add s

def addSchema (s other : Schema U) : Schema U :=
  { members := other.members.foldl append s.members
    identifiers := other.identifiers.foldl append s.identifiers
    configuration := s.configuration.merge other.configuration }

def remove (s : Schema U) (d : Descriptor U) : Schema U :=
  { s with
    members := s.members.filter fun p => !(p.toDescriptor == d)
    identifiers := s.identifiers.filter fun p => !(p.toDescriptor == d) }

def mark (s : Schema U) (p : Property U) : Except SchemaError (Schema U) :=
  if s.contains p.toDescriptor then .ok { s with identifiers := append s.identifiers p }
  else .error (.notMember p.relativeName)

/-- Marks several members in order, up to the first that is none. -/
def markAll (s : Schema U) (ps : List (Property U)) : Except SchemaError (Schema U) :=
  ps.foldlM mark s

def withParameter (s : Schema U) (key : String) (v : Value U) : Schema U :=
  { s with configuration := s.configuration.set key v }

def of (ps : List (Property U)) : Schema U :=
  empty.addAll ps

/-- The schema built anew from its own members, identifiers and parameters. -/
def copy (s : Schema U) : Schema U :=
  empty.addSchema s

def extend (s : Schema U) (ps : List (Property U)) : Schema U :=
  s.copy.addAll ps

/-- The members of two schemas, those of the first one first. -/
def join (a b : Schema U) : Schema U :=
  a.copy.addSchema b

def member? (s : Schema U) (relativeName : String) : Option (Property U) :=
  s.members.find? fun p => p.relativeName == relativeName

def renderAll (ps : List (Property U)) : String :=
  "[" ++ ", ".intercalate (ps.map fun p => p.render) ++ "]"

def render (s : Schema U) : String :=
  "PropertySet \x7b properties: " ++ renderAll s.members ++ ", identifiers: " ++
    renderAll s.identifiers ++ ", configuration: " ++ s.configuration.render ++ " \x7d"

end Schema

end TypedRecords
