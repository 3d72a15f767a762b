/-!
A table holds at most one value under equal keys, and keeps a key as it was first written.
-/

namespace TypedRecords

/-- Values under keys, in the order in which the keys were first written. -/
structure Table (κ ν : Type) where
  entries : List (κ × ν) := []

namespace Table

variable {κ ν : Type} [BEq κ]

def get? (t : Table κ ν) (k : κ) : Option ν :=
  t.entries.lookup k

def contains (t : Table κ ν) (k : κ) : Bool :=
  (t.get? k).isSome

def insertEntry (k : κ) (v : ν) : List (κ × ν) → List (κ × ν)
  | [] => [(k, v)]
  | (k', v') :: rest => if k == k' then (k', v) :: rest else (k', v') :: insertEntry k v rest

def insert (t : Table κ ν) (k : κ) (v : ν) : Table κ ν :=
  ⟨insertEntry k v t.entries⟩

def erase (t : Table κ ν) (k : κ) : Table κ ν :=
  ⟨t.entries.filter fun entry => !(k == entry.1)⟩

def insertAll (t other : Table κ ν) : Table κ ν :=
  other.entries.foldl (fun t entry => t.insert entry.1 entry.2) t

def keys (t : Table κ ν) : List κ :=
  t.entries.map Prod.fst

end Table

end TypedRecords
