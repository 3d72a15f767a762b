import TypedRecords.Path.Basic
import TypedRecords.Json.Codec

namespace TypedRecords.Path

def nameMember (node : Node) : Json.Text × Json :=
  (some "name", Json.ofString node.name)

def rootMembers (node : Node) : List (Json.Text × Json) :=
  if node.isRoot then [(some "root", .bool true)] else []

def nodesToJson : Node → List Node → Json
  | node, [] => .object (nameMember node :: rootMembers node)
  | node, next :: above =>
    .object (nameMember node :: (some "parent", nodesToJson next above) :: rootMembers node)

def toJson (p : Path) : Json :=
  nodesToJson p.node p.above

def nestingLimit : Nat :=
  127

def assemble (name : String) (parent : Option Path) (isRoot : Bool) : Path :=
  let leaf : Path := { node := { name, isRoot } }
  match parent with
  | none => leaf
  | some parent => leaf.under parent

def parentOfJson? (readPath : Json → Option Path) : Json → Option (Option Path)
  | .null => some none
  | v => (readPath v).map some

def parentOfMember? (readPath : Json → Option Path) : Json.Member → Option (Option Path)
  | .absent => some none
  | .present v => parentOfJson? readPath v
  | .repeated => none

def rootOfMember? : Json.Member → Option Bool
  | .absent => some false
  | .present v => v.toBool?
  | .repeated => none

/-- Reads a path whose objects and arrays nest at most `depth` deep. -/
def ofJson? : (depth : Nat) → Json → Option Path
  | 0, _ => none
  | depth + 1, .object members => do
    if !Json.keysHaveText members then none
    else
      let .present name := Json.lookup "name" members | none
      let parent ← parentOfMember? (ofJson? depth) (Json.lookup "parent" members)
      let isRoot ← rootOfMember? (Json.lookup "root" members)
      return assemble (← name.toString?) parent isRoot
  | depth + 1, .array items =>
    match items with
    | [name] => do
      return assemble (← name.toString?) none false
    | [name, parent] => do
      return assemble (← name.toString?) (← parentOfJson? (ofJson? depth) parent) false
    | [name, parent, isRoot] => do
      return assemble (← name.toString?) (← parentOfJson? (ofJson? depth) parent)
        (← isRoot.toBool?)
    | _ => none
  | _, _ => none

def toJsonText (p : Path) : String :=
  p.toJson.render

def ofJsonText? (s : String) : Option Path := do
  ofJson? nestingLimit (← Json.parse s)

end TypedRecords.Path
