import TypedRecords.Property.Validation
import TypedRecords.Schema

/-!
A member is recognised by property equality, so a stored value is also found through another
property that equals its own.
-/

namespace TypedRecords

/-- What a record holds, apart from how it is compared with others. -/
structure Contents (U : Universe) where
  id : Ident
  schema : Schema U
  values : Table (Descriptor U) (Value U) := {}
  /-- Whether values are stored without being validated. -/
  invalidAllowed : Bool := false

namespace Contents

variable {U : Universe}

def contains (c : Contents U) (d : Descriptor U) : Bool :=
  c.schema.contains d

def stored (c : Contents U) (d : Descriptor U) : Except Error (Option (U.El d.kind)) :=
  match c.values.get? d with
  | none => .ok none
  | some v =>
    match d.expect v with
    | .ok x => .ok (some x)
    | .error e => .error (.property e)

def storedValues (c : Contents U) : List (Property U × Value U) :=
  c.schema.members.filterMap fun p => (c.values.get? p.toDescriptor).map (p, ·)

def notFound (d : Descriptor U) : Error :=
  .property (.notFound d.relativeName)

mutual

/-- The value of a virtual property, where `name` is its name. -/
def provide (c : Contents U) (name : String) :
    {k : U.Kind} → Provider U k → Except Error (Option (U.El k))
  | _, .missing => .error (.property (.missingProvider name))
  | _, .computed computation =>
    match c.compute computation with
    | .ok x => .ok x
    | .error e => .error (.property (.provider name e))

def compute (c : Contents U) : {k : U.Kind} → Computation U k → Except Error (Option (U.El k))
  | _, .answer result => result
  | _, .read d provider next =>
    c.compute <| next <|
      if c.contains d then
        if d.isVirtual then c.provide d.name provider else c.stored d
      else .error (notFound d)
  | _, .has d provider next =>
    c.compute <| next <|
      c.contains d &&
        if d.isVirtual then
          match c.provide d.name provider with
          | .ok x => x.isSome
          | .error _ => false
        else (c.values.get? d).isSome
  | _, .stored next => c.compute (next (c.storedValues.map fun (p, v) => (p.toDescriptor, v)))

end

def read (c : Contents U) (p : Property U) : Except Error (Option (U.El p.kind)) :=
  if c.contains p.toDescriptor then
    if p.isVirtual then c.provide p.name p.provider else c.stored p.toDescriptor
  else .error (notFound p.toDescriptor)

/-- The value of a property, together with its kind. -/
def get (c : Contents U) (p : Property U) : Except Error (Option (Value U)) :=
  (c.read p).map fun x => x.map (Value.mk p.kind)

/-- The value of a property in the form of its model, or itself if there is no converter. -/
def getModel (c : Contents U) (p : Property U) : Except Error (Option (Value U)) := do
  p.model (← c.get p)

def getModelAs (c : Contents U) (p : Property U) (k : U.Kind) :
    Except Error (Option (U.El k)) := do
  p.modelAs k (← c.get p)

def has (c : Contents U) (p : Property U) : Bool :=
  c.contains p.toDescriptor &&
    if p.isVirtual then
      match c.provide p.name p.provider with
      | .ok x => x.isSome
      | .error _ => false
    else (c.values.get? p.toDescriptor).isSome

/-- The validation failures of members in order, or the first error of reading one. -/
def failures (c : Contents U) : List (Property U) → Except Error (List ValidationError)
  | [] => .ok []
  | p :: rest => do
    let v ← c.get p
    let others ← c.failures rest
    match p.validate v with
    | .ok _ => return others
    | .error e => return e :: others

def validate (c : Contents U) : Except Error Unit := do
  match ValidationError.ofFailures (← c.failures c.schema.members) with
  | .ok _ => return ()
  | .error e => .error (.validation e)

def isValid (c : Contents U) : Bool :=
  match c.validate with
  | .ok _ => true
  | .error _ => false

def render (c : Contents U) : String :=
  let entries := c.storedValues.map fun (p, v) => Text.quoted p.relativeName ++ ": " ++ v.render
  "\x7b" ++ ", ".intercalate entries ++ "\x7d"

end Contents

end TypedRecords
