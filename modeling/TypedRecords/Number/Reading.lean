import TypedRecords.Number.Fixed

namespace TypedRecords

inductive IntegerError where
  | empty
  | invalidDigit
  | tooLarge
  | tooSmall
  deriving DecidableEq

def IntegerError.text : IntegerError → String
  | .empty => "cannot parse integer from empty string"
  | .invalidDigit => "invalid digit found in string"
  | .tooLarge => "number too large to fit in target type"
  | .tooSmall => "number too small to fit in target type"

namespace Fixed

def readUp {f : IntFormat} (n : Fixed f) : List Char → Except IntegerError (Fixed f)
  | [] => .ok n
  | c :: cs =>
    if c.isDigit then
      match ofInt? f (n.val * 10 + (c.toNat - 48)) with
      | some n => readUp n cs
      | none => .error .tooLarge
    else .error .invalidDigit

def readDown {f : IntFormat} (n : Fixed f) : List Char → Except IntegerError (Fixed f)
  | [] => .ok n
  | c :: cs =>
    if c.isDigit then
      match ofInt? f (n.val * 10 - (c.toNat - 48)) with
      | some n => readDown n cs
      | none => .error .tooSmall
    else .error .invalidDigit

/-- Reads a decimal integer; a sign by itself is an invalid digit. -/
def read (f : IntFormat) : List Char → Except IntegerError (Fixed f)
  | [] => .error .empty
  | ['-'] | ['+'] => .error .invalidDigit
  | '-' :: cs => readDown (zero f) cs
  | '+' :: cs => readUp (zero f) cs
  | cs => readUp (zero f) cs

end Fixed

end TypedRecords
