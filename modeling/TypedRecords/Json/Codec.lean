import TypedRecords.Collection.Sorted
import TypedRecords.Json.Basic
import TypedRecords.Number.Fixed

namespace TypedRecords

namespace Json

inductive Member where
  | absent
  | present (v : Json)
  | repeated

def lookup (key : String) (members : List (Text × Json)) : Member :=
  match members.filter fun m => m.1 == some key with
  | [] => .absent
  | [(_, v)] => .present v
  | _ => .repeated

def keysHaveText (members : List (Text × Json)) : Bool :=
  members.all fun m => m.1.isSome

/-- The integer a value writes. A real literal is no integer, and neither is `-0`. -/
def toInt? : Json → Option Int
  | .number (.integer false n) => some n
  | .number (.integer true n) => if n = 0 then none else some (-(n : Int))
  | _ => none

def ofInt (n : Int) : Json :=
  .number (.integer (decide (n < 0)) n.natAbs)

def ofString (s : String) : Json :=
  .string (some s)

def toString? : Json → Option String
  | .string s => s
  | _ => none

def toBool? : Json → Option Bool
  | .bool b => some b
  | _ => none

end Json

structure Codec (α : Type) where
  encode : α → Json
  decode : Json → Option α

namespace Codec

variable {α β : Type}

def toText (c : Codec α) (a : α) : String :=
  (c.encode a).render

def ofText? (c : Codec α) (s : String) : Option α := do
  c.decode (← Json.parse s)

def bool : Codec Bool :=
  ⟨.bool, Json.toBool?⟩

def string : Codec String :=
  ⟨Json.ofString, Json.toString?⟩

def fixed (f : IntFormat) : Codec (Fixed f) :=
  ⟨fun n => Json.ofInt n.val, fun v => v.toInt?.bind (Fixed.ofInt? f)⟩

def list (c : Codec α) : Codec (List α) where
  encode xs := .array (xs.map c.encode)
  decode
    | .array items => items.mapM c.decode
    | _ => none

/-- Sorted sets, as arrays; repeated elements are merged. -/
def sortedSet [Ord α] [Std.TransOrd α] (c : Codec α) : Codec (SortedSet α) where
  encode s := .array (s.toList.map c.encode)
  decode
    | .array items => (items.mapM c.decode).map SortedBy.ofList
    | _ => none

def entry? (c : Codec α) (m : Json.Text × Json) : Option (String × α) := do
  return (← m.1, ← c.decode m.2)

/-- Sorted maps with texts as keys, as objects; of repeated keys the last counts. -/
def sortedMap (c : Codec α) : Codec (SortedMap String α) where
  encode m := .object (m.toList.map fun entry => (some entry.1, c.encode entry.2))
  decode
    | .object members => (members.mapM c.entry?).map SortedBy.ofList
    | _ => none

/-- Two fields, as an object with their keys; an array of the two is also read. -/
def fields (key₁ key₂ : String) (c₁ : Codec α) (c₂ : Codec β) : Codec (α × β) where
  encode p := .object [(some key₁, c₁.encode p.1), (some key₂, c₂.encode p.2)]
  decode
    | .object members =>
      match Json.keysHaveText members, Json.lookup key₁ members, Json.lookup key₂ members with
      | true, .present a, .present b => do return (← c₁.decode a, ← c₂.decode b)
      | _, _, _ => none
    | .array [a, b] => do return (← c₁.decode a, ← c₂.decode b)
    | _ => none

/-- Named constants, as their names; an object of the name and `null` is also read. -/
def constants (all : List α) (nameOf : α → String) : Codec α where
  encode a := Json.ofString (nameOf a)
  decode
    | .string (some s) => all.find? fun a => nameOf a == s
    | .object [(some s, .null)] => all.find? fun a => nameOf a == s
    | _ => none

def map (c : Codec α) (make : α → β) (view : β → α) : Codec β :=
  ⟨fun b => c.encode (view b), fun v => (c.decode v).map make⟩

end Codec

end TypedRecords
