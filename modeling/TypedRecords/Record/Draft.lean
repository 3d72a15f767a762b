import TypedRecords.Record.Comparison

namespace TypedRecords

structure PendingWrite (U : Universe) where
  property : Descriptor U
  value : Option (Value U)
  override : Bool

structure RecordDraft (U : Universe) where
  schema : Schema U
  pending : List (PendingWrite U) := []
  invalidAllowed : Bool := false
  comparison : Comparison U := {}

namespace RecordDraft

variable {U : Universe}

def write (d : RecordDraft U) (p : Descriptor U) (v : Option (Value U)) (override : Bool) :
    RecordDraft U :=
  { d with pending := d.pending ++ [⟨p, v, override⟩] }

/-- Adds writes of the stored values of a record, of the properties that the schema has. -/
def copyValues (d : RecordDraft U) (source : Contents U) : RecordDraft U :=
  let shared := source.storedValues.filter fun entry => d.schema.contains entry.1.toDescriptor
  { d with
    pending := d.pending ++ shared.map fun entry => ⟨entry.1.toDescriptor, some entry.2, true⟩ }

def allowInvalid (d : RecordDraft U) (invalidAllowed : Bool) : RecordDraft U :=
  { d with invalidAllowed }

def writeAll (c : Contents U) : List (PendingWrite U) → Except Error (Contents U)
  | [] => .ok c
  | w :: rest => do writeAll (← c.write w.property w.value w.override) rest

def build (d : RecordDraft U) (id : Ident) : Except Error (Record U) := do
  let c ← writeAll { id, schema := d.schema, invalidAllowed := d.invalidAllowed } d.pending
  return { toContents := c, comparison := d.comparison }

end RecordDraft

namespace Record

variable {U : Universe}

def create (s : Schema U) (id : Ident) : Record U :=
  { id, schema := s }

def duplicate (r : Record U) (id : Ident) : Record U :=
  { r with id }

/-- A copy of the values that another schema has, as a record of that schema. -/
def duplicateInto (r : Record U) (s : Schema U) (id : Ident) : Except Error (Record U) :=
  RecordDraft.build
    (({ schema := s } : RecordDraft U).allowInvalid r.invalidAllowed |>.copyValues r.toContents) id

end Record

end TypedRecords
