import TypedRecords.Record.Writing

namespace TypedRecords

/-- Rules of a record for equality and hashing that replace the ones by identifiers. -/
structure Comparison (U : Universe) where
  same : Option (Contents U → Contents U → Bool) := none
  feed : Option (Contents U → Feed U.Kind) := none

structure Record (U : Universe) extends Contents U where
  comparison : Comparison U := {}

namespace Contents

variable {U : Universe}

/-- Whether a property has equal values in two records, or none in either. -/
def agree (a b : Contents U) (p : Property U) : Bool :=
  match a.get p, b.get p with
  | .ok x, .ok y => sameOption x y
  | _, _ => false

def sameIdentifiers (a b : Contents U) : Bool :=
  if a.schema.identifiers.isEmpty then decide (a.id = b.id)
  else a.schema.identifiers.all fun p => a.agree b p

/-- What the value of an identifier hands to a hasher; a failed reading counts as absence. -/
def feedIdentifier (c : Contents U) (p : Property U) : Feed U.Kind :=
  match c.get p with
  | .ok (some v) => .number 1 :: v.feed
  | _ => [.number 0]

def feedIdentifiers (c : Contents U) : Feed U.Kind :=
  if c.schema.identifiers.isEmpty then [.ident c.id]
  else c.schema.identifiers.flatMap c.feedIdentifier

end Contents

namespace Record

variable {U : Universe}

/-- Whether a record equals another, by its own rule if it has one. -/
def same (a b : Record U) : Bool :=
  if a.id = b.id then true
  else
    match a.comparison.same with
    | some rule => rule a.toContents b.toContents
    | none => a.toContents.sameIdentifiers b.toContents

def feed (r : Record U) : Feed U.Kind :=
  match r.comparison.feed with
  | some rule => rule r.toContents
  | none => r.feedIdentifiers

def withContents (r : Record U) (c : Contents U) : Record U :=
  { r with toContents := c }

end Record

end TypedRecords
