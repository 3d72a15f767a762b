import TypedRecords.Configuration
import TypedRecords.Converter.Basic
import TypedRecords.Validator.Basic

namespace TypedRecords

/--
A description of a property for readers, with a code and arguments for wording it in other
languages.
-/
structure Caption where
  message : Option String := none
  code : Option String := none
  arguments : List String := []
  deriving DecidableEq

def Caption.isEmpty (c : Caption) : Bool :=
  c.message.isNone && c.code.isNone

inductive Form where
  | path (parent : Option Path) (isFinal : Bool)
  /-- A virtual property, whose name may have been made up from its identity. -/
  | virtual (isGenerated : Bool)
  deriving DecidableEq

structure Attributes (U : Universe) (k : U.Kind) where
  converter : Option (Converter U k) := none
  rules : List (Rule U) := []
  readOnly : Bool := false
  caption : Caption := {}
  configuration : Configuration U := {}

structure Signature (U : Universe) where
  id : Ident
  name : String
  form : Form
  kind : U.Kind
  attributes : Attributes U kind := {}

namespace Signature

variable {U : Universe}

def isVirtual (s : Signature U) : Bool :=
  match s.form with
  | .path .. => false
  | .virtual _ => true

def sort (s : Signature U) : PropertySort :=
  if s.isVirtual then .virtual else .path

def isReadOnly (s : Signature U) : Bool :=
  s.isVirtual || s.attributes.readOnly

def parent? (s : Signature U) : Option Path :=
  match s.form with
  | .path parent _ => parent
  | .virtual _ => none

def isFinal (s : Signature U) : Bool :=
  match s.form with
  | .path _ isFinal => isFinal
  | .virtual _ => false

def path? (s : Signature U) : Option Path :=
  match s.form with
  | .path none _ => some (.single s.name)
  | .path (some parent) _ => some ((Path.single s.name).under parent)
  | .virtual _ => none

/-- The dot-joined name without roots; the name of a virtual property is its own. -/
def relativeName (s : Signature U) : String :=
  match s.path? with
  | some p => p.relativeName
  | none => s.name

def fullName (s : Signature U) : String :=
  match s.path? with
  | some p => p.fullName
  | none => s.name

def typeName (s : Signature U) : String :=
  U.name s.kind

def expect (s : Signature U) (v : Value U) : Except PropertyError (U.El s.kind) :=
  match v.as? s.kind with
  | some x => .ok x
  | none => .error (.typeMismatch s.name s.typeName v.typeName)

def render (s : Signature U) : String :=
  "Property \x7b name: " ++ Text.quoted s.name ++ ", type: " ++ Text.quoted s.typeName ++
    ", virtual: " ++ toString s.isVirtual ++ ", id: " ++ s.id.text ++ " \x7d"

end Signature

end TypedRecords
