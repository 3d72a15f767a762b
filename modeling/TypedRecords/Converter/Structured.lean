import TypedRecords.Converter.Basic
import TypedRecords.Json.Codec

namespace TypedRecords

def Codec.conversion {T : Type} (c : Codec T) : Conversion T String :=
  .ofFunctions
    (fun s =>
      match c.ofText? s with
      | some t => .ok t
      | none => .error .json)
    (fun t => .ok (c.toText t))

end TypedRecords
