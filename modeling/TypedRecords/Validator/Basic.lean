import TypedRecords.Error
import TypedRecords.Value

namespace TypedRecords

/-- Accepts a value, which may be absent, or says why it does not. -/
abbrev Validator (T : Type) : Type :=
  Option T → Except ValidationError Unit

namespace Validator

variable {T : Type}

def predicate (holds : T → Bool) (message : String) (code : Option String)
    (arguments : List String) : Validator T
  | none => .ok ()
  | some x => if holds x then .ok () else .error (.invalid message code arguments)

def failure? (v : Validator T) (x : Option T) : Option ValidationError :=
  match v x with
  | .ok _ => none
  | .error e => some e

/-- Accepts what every validator of a list accepts, and otherwise reports all their failures. -/
def allOf (validators : List (Validator T)) : Validator T :=
  fun x => ValidationError.ofFailures (validators.filterMap fun v => v.failure? x)

end Validator

structure Rule (U : Universe) where
  kind : U.Kind
  check : Validator (U.El kind)

def Rule.validate {U : Universe} (r : Rule U) : Option (Value U) → Except ValidationError Unit
  | none => r.check none
  | some v =>
    match v.as? r.kind with
    | some x => r.check (some x)
    | none => .error (.unsupportedType (U.name r.kind) v.typeName)

end TypedRecords
