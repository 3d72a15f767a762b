import TypedRecords.Property.Basic

namespace TypedRecords

structure Draft (U : Universe) (k : U.Kind) where
  attributes : Attributes U k := {}
  identity : Option (Identity U) := none

namespace Draft

variable {U : Universe} {k : U.Kind}

/-- Attaches a converter. A temporal converter also records its part in the configuration. -/
def withConverter (d : Draft U k) (c : Converter U k) : Draft U k :=
  let configuration :=
    match c.conversion.temporal with
    | some part =>
      let p := temporalParameter U
      d.attributes.configuration.set p.key ⟨U.temporalKind, U.temporal part⟩
    | none => d.attributes.configuration
  { d with attributes := { d.attributes with converter := some c, configuration } }

/-- Takes the converter away; what it recorded in the configuration stays. -/
def withoutConverter (d : Draft U k) : Draft U k :=
  { d with attributes := { d.attributes with converter := none } }

def withRule (d : Draft U k) (r : Rule U) : Draft U k :=
  { d with attributes := { d.attributes with rules := d.attributes.rules ++ [r] } }

def withoutRules (d : Draft U k) : Draft U k :=
  { d with attributes := { d.attributes with rules := [] } }

def withCaption (d : Draft U k) (f : Caption → Caption) : Draft U k :=
  { d with attributes := { d.attributes with caption := f d.attributes.caption } }

def withParameter (d : Draft U k) (key : String) (v : Value U) : Draft U k :=
  { d with
    attributes :=
      { d.attributes with configuration := d.attributes.configuration.set key v } }

def withIdentity (d : Draft U k) (i : Identity U) : Draft U k :=
  { d with identity := some i }

end Draft

structure PathDraft (U : Universe) (k : U.Kind) extends Draft U k where
  name : String
  parent : Option Path := none
  isFinal : Bool := false

namespace PathDraft

variable {U : Universe} {k : U.Kind}

def alter (d : PathDraft U k) (f : Draft U k → Draft U k) : PathDraft U k :=
  { d with toDraft := f d.toDraft }

/-- Sets the parent, unless the path is final. -/
def withParent (d : PathDraft U k) (parent : Path) : Except PropertyError (PathDraft U k) :=
  if d.isFinal then .error (.parent d.name .isFinal) else .ok { d with parent := some parent }

/-- Makes the path final, unless it has a parent. -/
def makeFinal (d : PathDraft U k) : Except PropertyError (PathDraft U k) :=
  if d.parent.isSome then .error (.parent d.name .hasParent) else .ok { d with isFinal := true }

def withReadOnly (d : PathDraft U k) (readOnly : Bool) : PathDraft U k :=
  d.alter fun d => { d with attributes := { d.attributes with readOnly } }

def build (d : PathDraft U k) (id : Ident) : Property U where
  id := id
  name := d.name
  form := .path d.parent d.isFinal
  kind := k
  attributes := d.attributes
  identity := d.identity
  provider := .missing

end PathDraft

structure VirtualDraft (U : Universe) (k : U.Kind) extends Draft U k where
  name : Option String := none
  provider : Provider U k := .missing

def generatedName (id : Ident) : String :=
  "$virtual:" ++ id.text

namespace VirtualDraft

variable {U : Universe} {k : U.Kind}

def alter (d : VirtualDraft U k) (f : Draft U k → Draft U k) : VirtualDraft U k :=
  { d with toDraft := f d.toDraft }

def withName (d : VirtualDraft U k) (name : String) : VirtualDraft U k :=
  { d with name := some name }

def withComputation (d : VirtualDraft U k) (c : Computation U k) : VirtualDraft U k :=
  { d with provider := .computed c }

def build (d : VirtualDraft U k) (id : Ident) : Property U where
  id := id
  name := d.name.getD (generatedName id)
  form := .virtual d.name.isNone
  kind := k
  attributes := d.attributes
  identity := d.identity
  provider := d.provider

end VirtualDraft

namespace Property

variable {U : Universe}

def toPathDraft (p : Property U) : Except PropertyError (PathDraft U p.kind) :=
  match p.form with
  | .path parent isFinal =>
    .ok
      { name := p.name
        parent
        isFinal
        attributes := p.attributes
        identity := p.identity }
  | .virtual _ => .error (.sort p.name .path .virtual)

def toVirtualDraft (p : Property U) : Except PropertyError (VirtualDraft U p.kind) :=
  match p.form with
  | .virtual isGenerated =>
    .ok
      { name := if isGenerated then none else some p.name
        provider := p.provider
        attributes := p.attributes
        identity := p.identity }
  | .path .. => .error (.sort p.name .virtual .path)

/-- A copy of the property with another identity, and a name made up anew if it was made up. -/
def duplicate (p : Property U) (id : Ident) : Property U :=
  match p.form with
  | .virtual true => { p with id, name := generatedName id }
  | _ => { p with id }

end Property

end TypedRecords
