import TypedRecords.Record.Basic

/-!
A write that fails at any step leaves the record as it was.
-/

namespace TypedRecords.Contents

variable {U : Universe}

def checkWritable (c : Contents U) (d : Descriptor U) (override : Bool) : Except Error Unit :=
  if !c.contains d then .error (notFound d)
  else if d.isVirtual || (d.isReadOnly && !override) then
    .error (.property (.readOnly d.relativeName))
  else .ok ()

/-- Stores or removes the value of a property after checking its kind and its validity. -/
def store (c : Contents U) (d : Descriptor U) (v : Option (Value U)) :
    Except Error (Contents U) := do
  if let some v := v then
    if let .error e := d.expect v then
      throw (.property e)
  if !c.invalidAllowed then
    if let .error e := d.validate v then
      throw (.validation e)
  match v with
  | some v => return { c with values := c.values.insert d v }
  | none => return { c with values := c.values.erase d }

def accept (d : Descriptor U) (v : Option (Value U)) : Except Error (Option (Value U)) :=
  match v, d.attributes.converter with
  | some v, some converter =>
    if v.kind = converter.modelKind then
      match converter.fromModel (some v) with
      | .ok x => .ok x
      | .error e => .error (.conversion e)
    else .ok (some v)
  | v, _ => .ok v

/-- Writes a value of any kind; `override` lifts the protection of a read-only property. -/
def write (c : Contents U) (d : Descriptor U) (v : Option (Value U)) (override : Bool) :
    Except Error (Contents U) := do
  c.checkWritable d override
  c.store d (← accept d v)

def clear (c : Contents U) (d : Descriptor U) : Except Error (Contents U) :=
  c.write d none false

def acceptModel (d : Descriptor U) (m : Option (Value U)) : Except Error (Option (Value U)) :=
  match m, d.attributes.converter with
  | some m, some converter =>
    match converter.fromModel (some m) with
    | .ok x => .ok x
    | .error e => .error (.conversion e)
  | m, _ => .ok m

def writeModel (c : Contents U) (d : Descriptor U) (m : Option (Value U)) :
    Except Error (Contents U) := do
  c.checkWritable d false
  c.store d (← acceptModel d m)

end TypedRecords.Contents
