import TypedRecords.Collection.Table
import TypedRecords.Error
import TypedRecords.Text.Quoted
import TypedRecords.Value

/-!
Reading a parameter of another kind than the reader expects is an error; reading an absent one is
not.
-/

namespace TypedRecords

/-- Values of parameters under their keys. -/
structure Configuration (U : Universe) where
  parameters : Table String (Value U) := {}

structure Parameter (U : Universe) where
  key : String
  kind : U.Kind

namespace Configuration

variable {U : Universe}

def empty : Configuration U :=
  {}

def set (c : Configuration U) (key : String) (v : Value U) : Configuration U :=
  ⟨c.parameters.insert key v⟩

def merge (c other : Configuration U) : Configuration U :=
  ⟨c.parameters.insertAll other.parameters⟩

def remove (c : Configuration U) (key : String) : Configuration U :=
  ⟨c.parameters.erase key⟩

def has (c : Configuration U) (key : String) : Bool :=
  c.parameters.contains key

/-- Reads a parameter: nothing if its key is absent, an error if its value is of another kind. -/
def get (c : Configuration U) (p : Parameter U) :
    Except ConfigurationError (Option (U.El p.kind)) :=
  match c.parameters.get? p.key with
  | none => .ok none
  | some v =>
    match v.as? p.kind with
    | some x => .ok (some x)
    | none => .error (.typeMismatch p.key (U.name p.kind) v.typeName)

def getOr (c : Configuration U) (p : Parameter U) (fallback : U.El p.kind) :
    Except ConfigurationError (U.El p.kind) :=
  (c.get p).map fun x => x.getD fallback

/-- Whether a parameter has a value of its kind that is equal to `x`. -/
def hasValue (c : Configuration U) (p : Parameter U) (x : U.El p.kind) : Bool :=
  match (c.parameters.get? p.key).bind (Value.as? p.kind) with
  | some y => U.same p.kind y x
  | none => false

def keys (c : Configuration U) : List String :=
  c.parameters.keys.mergeSort fun a b => decide (a ≤ b)

def size (c : Configuration U) : Nat :=
  c.parameters.entries.length

/-- The keys with their values, in increasing order of the keys. -/
def toList (c : Configuration U) : List (String × Value U) :=
  c.keys.filterMap fun key => (c.parameters.get? key).map (key, ·)

def render (c : Configuration U) : String :=
  let entries := c.toList.map fun (key, v) => Text.quoted key ++ ": " ++ Text.quoted v.typeName
  "\x7b" ++ ", ".intercalate entries ++ "\x7d"

end Configuration

/-- The parameter under which a property records what part of a timestamp its values stand for. -/
def temporalParameter (U : Universe) : Parameter U :=
  ⟨"propbox.temporal-type", U.temporalKind⟩

def Parameter.render {U : Universe} (p : Parameter U) : String :=
  "ConfigParam \x7b key: " ++ Text.quoted p.key ++ ", type: " ++ Text.quoted (U.name p.kind) ++
    " \x7d"

end TypedRecords
