import TypedRecords.Pattern.Progress
import TypedRecords.Text.Blank
import TypedRecords.Text.Quoted
import TypedRecords.Validator.Basic
import TypedRecords.Validator.Email

/-!
Only `notNull`, `notEmpty` and `notBlank` refuse an absent value.
-/

namespace TypedRecords.Validator

variable {T : Type}

def refuse (message name : String) (arguments : List String) : Except ValidationError Unit :=
  .error (.invalid message (some ("validation." ++ name)) arguments)

def rule (holds : T → Bool) (message name : String) (arguments : List String) : Validator T :=
  predicate holds message (some ("validation." ++ name)) arguments

def notNull : Validator T
  | some _ => .ok ()
  | none => refuse "Value is required" "not_null" []

def notEmpty (length : T → Nat) : Validator T
  | some x =>
    if 0 < length x then .ok () else refuse "Value must not be empty" "not_empty" []
  | none => refuse "Value must not be empty" "not_empty" []

/-- Accepts present texts with some character that is not white space. -/
def notBlank : Validator String
  | some s =>
    if Text.allBlank s then refuse "Value must not be blank" "not_blank" [] else .ok ()
  | none => refuse "Value must not be blank" "not_blank" []

def notNegative (le : T → T → Bool) (zero : T) : Validator T :=
  rule (fun x => le zero x) "Value must not be negative" "not_negative" []

def positive (le : T → T → Bool) (zero : T) : Validator T :=
  rule (fun x => le zero x && !le x zero) "Value must be positive" "positive" []

def min (le : T → T → Bool) (text : T → String) (least : T) : Validator T :=
  rule (fun x => le least x) ("Value must be at least " ++ text least) "min" [text least]

def max (le : T → T → Bool) (text : T → String) (greatest : T) : Validator T :=
  rule (fun x => le x greatest) ("Value must be at most " ++ text greatest) "max"
    [text greatest]

def minLength (length : T → Nat) (least : Nat) : Validator T :=
  rule (fun x => decide (least ≤ length x)) ("Length must be at least " ++ toString least)
    "min_length" [toString least]

def maxLength (length : T → Nat) (greatest : Nat) : Validator T :=
  rule (fun x => decide (length x ≤ greatest)) ("Length must be at most " ++ toString greatest)
    "max_length" [toString greatest]

/-- Accepts texts in which a pattern occurs, whose own text is `source`. -/
def pattern (source : String) (p : Pattern) : Validator String :=
  rule p.occursIn ("Value must match " ++ source) "pattern" [source]

def email : Validator String :=
  rule Email.address.occursIn "Value must be a valid e-mail address" "email" []

def listText (render : T → String) (xs : List T) : String :=
  "[" ++ ", ".intercalate (xs.map render) ++ "]"

def isIn (same : T → T → Bool) (render : T → String) (allowed : List T) : Validator T :=
  let text := listText render allowed
  rule (fun x => allowed.any fun a => same a x) ("Value must be one of " ++ text) "in" [text]

def notIn (same : T → T → Bool) (render : T → String) (forbidden : List T) : Validator T :=
  let text := listText render forbidden
  rule (fun x => !forbidden.any fun a => same a x) ("Value must not be one of " ++ text) "not_in"
    [text]

def past (isPast : T → Bool) : Validator T :=
  rule isPast "Value must be in the past" "past" []

def future (isFuture : T → Bool) : Validator T :=
  rule isFuture "Value must be in the future" "future" []

end TypedRecords.Validator
