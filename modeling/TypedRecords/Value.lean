import TypedRecords.Feed

/-!
Values are equal if they are of one kind and its own equality holds, which need not be identity:
two timestamps may denote the same instant on different clocks.
-/

namespace TypedRecords

/-- What part of a timestamp a value stands for. -/
inductive TemporalPart where
  | date
  | time
  | dateTime
  deriving DecidableEq

structure Universe where
  Kind : Type
  kindEq : DecidableEq Kind
  El : Kind → Type
  name : Kind → String
  same : (k : Kind) → El k → El k → Bool
  feed : (k : Kind) → El k → Feed Kind
  render : (k : Kind) → El k → String
  /-- The kind whose values say what part of a timestamp a value stands for. -/
  temporalKind : Kind
  temporal : TemporalPart → El temporalKind

instance (U : Universe) : DecidableEq U.Kind :=
  U.kindEq

structure Value (U : Universe) where
  kind : U.Kind
  val : U.El kind

namespace Value

variable {U : Universe}

def as? (k : U.Kind) (v : Value U) : Option (U.El k) :=
  if h : v.kind = k then some (h ▸ v.val) else none

def typeName (v : Value U) : String :=
  U.name v.kind

def same (a b : Value U) : Bool :=
  match b.as? a.kind with
  | some x => U.same a.kind a.val x
  | none => false

/-- What the value hands to a hasher: its kind, then the data of the value itself. -/
def feed (v : Value U) : Feed U.Kind :=
  .kind v.kind :: U.feed v.kind v.val

def render (v : Value U) : String :=
  U.render v.kind v.val

@[simp]
theorem as?_self (v : Value U) : v.as? v.kind = some v.val := by
  simp [as?]

theorem as?_eq_none {v : Value U} {k : U.Kind} (h : v.kind ≠ k) : v.as? k = none := by
  simp [as?, h]

theorem eq_mk_of_as? {v : Value U} {k : U.Kind} {x : U.El k} (h : v.as? k = some x) :
    v = ⟨k, x⟩ := by
  unfold as? at h
  split at h
  next hk =>
    subst hk
    cases h
    rfl
  · cases h

end Value

def sameOption {U : Universe} : Option (Value U) → Option (Value U) → Bool
  | some a, some b => a.same b
  | none, none => true
  | _, _ => false

end TypedRecords
