import TypedRecords.Ident

/-!
Two things hash alike exactly when they hand over the same data, so a hash is modelled by the
sequence of data itself.
-/

namespace TypedRecords

/-- One piece of data handed to a hasher. -/
inductive Atom (κ : Type) where
  | number (n : Int)
  | text (s : String)
  | kind (k : κ)
  | ident (i : Ident)
  deriving DecidableEq

abbrev Feed (κ : Type) : Type := List (Atom κ)

def Feed.flag {κ : Type} (b : Bool) : Atom κ :=
  .number (if b then 1 else 0)

end TypedRecords
