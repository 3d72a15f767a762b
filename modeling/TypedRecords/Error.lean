import TypedRecords.Path.Basic

namespace TypedRecords

inductive ConversionError where
  /-- No constant of the enumeration has the name, or the constant is not listed. -/
  | unknownName (name enumeration : String)
  | ordinalOutOfRange (ordinal : Int) (enumeration : String) (constants : Nat)
  | wrongType (expected actual : String)
  | coercion (value target : String)
  | temporal (reason : String)
  | json
  | failed (reason : String)
  deriving DecidableEq

def ConversionError.message? : ConversionError → Option String
  | .unknownName name enumeration => s!"No constant named '{name}' in enum {enumeration}"
  | .ordinalOutOfRange ordinal enumeration constants =>
    s!"Ordinal {ordinal} out of range for enum {enumeration} with {constants} constants"
  | .wrongType expected actual =>
    s!"Converter expects a value of type {expected}, got {actual}"
  | .coercion value target => s!"Cannot coerce {value} to {target}"
  | .temporal reason => s!"Temporal conversion failed: {reason}"
  | .json => none
  | .failed reason => s!"Conversion failed: {reason}"

namespace ConversionError

def isEnumeration : ConversionError → Bool
  | .unknownName .. | .ordinalOutOfRange .. => true
  | _ => false

def isWrongType : ConversionError → Bool
  | .wrongType .. => true
  | _ => false

def isCoercion : ConversionError → Bool
  | .coercion .. => true
  | _ => false

end ConversionError

inductive ValidationError where
  /-- A rule is broken; the code and the arguments let readers word it in their language. -/
  | invalid (message : String) (code : Option String) (arguments : List String)
  | unsupportedType (expected actual : String)
  | aggregate (failures : List ValidationError)

namespace ValidationError

/-- Texts with `; ` between them. -/
def joined : List String → String
  | [] => ""
  | [s] => s
  | s :: rest => s ++ "; " ++ joined rest

mutual

def message : ValidationError → String
  | .invalid message _ _ => message
  | .unsupportedType expected actual =>
    s!"Validator expects values of type {expected}, got {actual}"
  | .aggregate failures =>
    s!"{failures.length} validation failures: " ++ joined (messages failures)

def messages : List ValidationError → List String
  | [] => []
  | failure :: rest => message failure :: messages rest

end

mutual

/-- The failures that are not made of others, in order. -/
def leaves : ValidationError → List ValidationError
  | .invalid message code arguments => [.invalid message code arguments]
  | .unsupportedType expected actual => [.unsupportedType expected actual]
  | .aggregate failures => leavesOfAll failures

def leavesOfAll : List ValidationError → List ValidationError
  | [] => []
  | failure :: rest => leaves failure ++ leavesOfAll rest

end

def plain (message : String) : ValidationError :=
  .invalid message none []

def code? : ValidationError → Option String
  | .invalid _ code _ => code
  | _ => none

def arguments : ValidationError → List String
  | .invalid _ _ arguments => arguments
  | _ => []

def isUnsupportedType : ValidationError → Bool
  | .unsupportedType .. => true
  | _ => false

def isAggregate : ValidationError → Bool
  | .aggregate _ => true
  | _ => false

/-- No failure is success, one failure stands for itself, and several are put together. -/
def ofFailures : List ValidationError → Except ValidationError Unit
  | [] => .ok ()
  | [failure] => .error failure
  | failures => .error (.aggregate failures)

end ValidationError

inductive SchemaError where
  | notMember (property : String)
  deriving DecidableEq

def SchemaError.message : SchemaError → String
  | .notMember property =>
    s!"Cannot mark '{property}' as identifier: not a member of the property set"

inductive ConfigurationError where
  | typeMismatch (key expected actual : String)
  deriving DecidableEq

def ConfigurationError.message : ConfigurationError → String
  | .typeMismatch key expected actual =>
    s!"Configuration parameter '{key}' has type {actual}, expected {expected}"

/-- The two sorts of property: those that store a value and those that compute it. -/
inductive PropertySort where
  | path
  | virtual
  deriving DecidableEq

def PropertySort.text : PropertySort → String
  | .path => "path"
  | .virtual => "virtual"

/-- Why a path property cannot be given a parent, or cannot be made final. -/
inductive ParentConflict where
  | isFinal
  | hasParent
  deriving DecidableEq

def ParentConflict.text : ParentConflict → String
  | .isFinal => "path is final"
  | .hasParent => "a parent is already set"

mutual

inductive PropertyError where
  | notFound (property : String)
  | readOnly (property : String)
  | typeMismatch (property expected actual : String)
  | provider (property : String) (source : Error)
  | missingProvider (property : String)
  | parent (property : String) (conflict : ParentConflict)
  | sort (property : String) (expected actual : PropertySort)

inductive Error where
  | property (e : PropertyError)
  | conversion (e : ConversionError)
  | validation (e : ValidationError)
  | schema (e : SchemaError)
  | path (e : PathError)
  | configuration (e : ConfigurationError)

end

mutual

def PropertyError.message? : PropertyError → Option String
  | .notFound p => some s!"Property '{p}' not found in property set"
  | .readOnly p => some s!"Property '{p}' is read-only"
  | .typeMismatch p expected actual =>
    some s!"Type mismatch for property '{p}': expected {expected}, found {actual}"
  | .provider p source =>
    (source.message?).map fun text => s!"Failed to read virtual property '{p}': {text}"
  | .missingProvider p => some s!"Virtual property '{p}' has no value provider"
  | .parent p conflict => some s!"Cannot set parent of property '{p}': {conflict.text}"
  | .sort p expected actual =>
    some s!"Property '{p}' is a {actual.text} property, not a {expected.text} property"

def Error.message? : Error → Option String
  | .property e => e.message?
  | .conversion e => e.message?
  | .validation e => some e.message
  | .schema e => some e.message
  | .path e => some e.message
  | .configuration e => some e.message

end

def PropertyError.property : PropertyError → String
  | .notFound p | .readOnly p | .typeMismatch p _ _ | .provider p _ | .missingProvider p
  | .parent p _ | .sort p _ _ => p

namespace Error

def isNotFound : Error → Bool
  | .property (.notFound _) | .schema (.notMember _) => true
  | _ => false

def isReadOnly : Error → Bool
  | .property (.readOnly _) => true
  | _ => false

def isTypeMismatch : Error → Bool
  | .property (.typeMismatch ..) | .conversion (.wrongType ..)
  | .configuration (.typeMismatch ..) => true
  | _ => false

def isConversion : Error → Bool
  | .conversion _ => true
  | _ => false

def isValidation : Error → Bool
  | .validation _ => true
  | _ => false

def isAccess : Error → Bool
  | .property (.provider ..) | .property (.missingProvider _) => true
  | _ => false

end Error

end TypedRecords
