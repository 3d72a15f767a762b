import TypedRecords.Property.Identity

/-!
A rule that does not support the kind of a value is tried again on the model value, which is
computed at most once as long as the conversion succeeds.
-/

namespace TypedRecords.Signature

variable {U : Universe}

/-- The model value of a value, or none if there is no converter or it fails. -/
def modelOf? (s : Signature U) (v : Option (Value U)) : Option (Option (Value U)) :=
  match s.attributes.converter with
  | none => none
  | some c => (c.toModel v).toOption

/-- The failures of rules on a value; `model` is its model value, if that is already known. -/
def failuresFrom (s : Signature U) (v : Option (Value U)) :
    (model : Option (Option (Value U))) → List (Rule U) → List ValidationError
  | _, [] => []
  | model, r :: rest =>
    match r.validate v with
    | .ok _ => s.failuresFrom v model rest
    | .error e =>
      if e.isUnsupportedType then
        let model :=
          match model with
          | some m => some m
          | none => s.modelOf? v
        match model with
        | none => e :: s.failuresFrom v none rest
        | some m =>
          match r.validate m with
          | .ok _ => s.failuresFrom v (some m) rest
          | .error retried => retried :: s.failuresFrom v (some m) rest
      else e :: s.failuresFrom v model rest

def validate (s : Signature U) (v : Option (Value U)) : Except ValidationError Unit :=
  ValidationError.ofFailures (s.failuresFrom v none s.attributes.rules)

end TypedRecords.Signature
