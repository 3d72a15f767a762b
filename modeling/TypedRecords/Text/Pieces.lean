namespace TypedRecords.Text

/-- The pieces of a text between the occurrences of `sep`, empty ones included. -/
def cutAt (sep : Char) : List Char → List (List Char)
  | [] => [[]]
  | c :: cs =>
    if c = sep then [] :: cutAt sep cs
    else
      match cutAt sep cs with
      | [] => [[c]]
      | piece :: pieces => (c :: piece) :: pieces

def joinWith (sep : List Char) (texts : List String) : String :=
  String.ofList (sep.intercalate (texts.map String.toList))

end TypedRecords.Text
