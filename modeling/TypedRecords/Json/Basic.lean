import TypedRecords.Json.Token

/-!
An object keeps its members in the order written, repeated keys included.
-/

namespace TypedRecords

open Json (Text Numeral Token)

inductive Json where
  | null
  | bool (b : Bool)
  | number (n : Numeral)
  | string (s : Text)
  | array (items : List Json)
  | object (members : List (Text × Json))

namespace Json

def separated : List (List Token) → List Token
  | [] => []
  | [ts] => ts
  | ts :: rest => ts ++ .comma :: separated rest

mutual

def tokens : Json → List Token
  | .null => [.null]
  | .bool b => [.bool b]
  | .number n => [.number n]
  | .string s => [.string s]
  | .array items => .openBracket :: separated (itemTokens items) ++ [.closeBracket]
  | .object members => .openBrace :: separated (memberTokens members) ++ [.closeBrace]

def itemTokens : List Json → List (List Token)
  | [] => []
  | v :: rest => tokens v :: itemTokens rest

def memberTokens : List (Text × Json) → List (List Token)
  | [] => []
  | (key, v) :: rest => (.string key :: .colon :: tokens v) :: memberTokens rest

end

def render (v : Json) : String :=
  String.ofList (v.tokens.flatMap Token.text)

/-- An array or object whose end has not been read; the finished parts stand latest first. -/
inductive Frame where
  | items (done : List Json)
  | members (done : List (Text × Json)) (key : Text)

/-- How far the reading of a value has come. -/
inductive Reading where
  | value (stack : List Frame)
  | firstItem (stack : List Frame)
  | firstKey (stack : List Frame)
  | key (done : List (Text × Json)) (stack : List Frame)
  | colon (done : List (Text × Json)) (key : Text) (stack : List Frame)
  | finished (v : Json) (stack : List Frame)

def startValue (stack : List Frame) : Token → Option Reading
  | .null => some (.finished .null stack)
  | .bool b => some (.finished (.bool b) stack)
  | .number n => some (.finished (.number n) stack)
  | .string s => some (.finished (.string s) stack)
  | .openBracket => some (.firstItem stack)
  | .openBrace => some (.firstKey stack)
  | _ => none

def Reading.push : Reading → Token → Option Reading
  | .value stack, t => startValue stack t
  | .firstItem stack, .closeBracket => some (.finished (.array []) stack)
  | .firstItem stack, t => startValue (.items [] :: stack) t
  | .firstKey stack, .closeBrace => some (.finished (.object []) stack)
  | .firstKey stack, .string k => some (.colon [] k stack)
  | .key done stack, .string k => some (.colon done k stack)
  | .colon done k stack, .colon => some (.value (.members done k :: stack))
  | .finished v (.items done :: stack), .comma => some (.value (.items (v :: done) :: stack))
  | .finished v (.items done :: stack), .closeBracket =>
    some (.finished (.array (v :: done).reverse) stack)
  | .finished v (.members done k :: stack), .comma => some (.key ((k, v) :: done) stack)
  | .finished v (.members done k :: stack), .closeBrace =>
    some (.finished (.object ((k, v) :: done).reverse) stack)
  | _, _ => none

/-- The value that has been read, if it is complete. -/
def Reading.result : Reading → Option Json
  | .finished v [] => some v
  | _ => none

def ofTokens (ts : List Token) : Option Json := do
  let reading ← ts.foldlM Reading.push (.value [])
  reading.result

def parse (s : String) : Option Json := do
  ofTokens (← Token.lex s.toList)

end Json

end TypedRecords
