import TypedRecords.Pattern.Class

namespace TypedRecords.Pattern

/-- An open group: the finished alternatives, the parts of the current one, and the mode. -/
structure Group where
  alternatives : List Pattern := []
  parts : List Pattern := []
  mode : Mode := {}

namespace Group

def current (g : Group) : Pattern :=
  g.parts.foldl (fun rest part => part.andThen rest) .empty

def pattern (g : Group) : Pattern :=
  g.alternatives.foldl (fun p alternative => .either alternative p) g.current

def add (g : Group) (p : Pattern) : Group :=
  { g with parts := p :: g.parts }

def repeatLast? (g : Group) (least : Nat) (most : Option Nat) : Option Group :=
  match g.parts with
  | [] => none
  | p :: parts => some { g with parts := p.repeated least most :: parts }

end Group

abbrev Open : Type := Group × List Group

def bound? (cs : List Char) : Option (Nat × List Char) :=
  let cs := cs.dropWhile Text.isBlank
  (Text.digits? (cs.takeWhile Char.isDigit)).map
    (·, (cs.dropWhile Char.isDigit).dropWhile Text.isBlank)

def bounds? (cs : List Char) : Option ((Nat × Option Nat) × List Char) := do
  let (least, rest) ← bound? cs
  match rest with
  | '}' :: rest => return ((least, some least), rest)
  | ',' :: '}' :: rest => return ((least, none), rest)
  | ',' :: rest => do
    match (← bound? rest) with
    | (most, '}' :: rest) => if least ≤ most then some ((least, some most), rest) else none
    | _ => none
  | _ => none

/-- Repeats the last part of a group, and passes over the mark of a repetition of few pieces. -/
def repetition? (least : Nat) (most : Option Nat) (here : Open) (rest : List Char) :
    Option (Open × List Char) :=
  (here.1.repeatLast? least most).map fun g =>
    ((g, here.2),
      match rest with
      | '?' :: rest => rest
      | rest => rest)

def openGroup (mode : Mode) (here : Open) : Open :=
  ({ mode }, here.1 :: here.2)

def group? (here : Open) (cs : List Char) : Option (Open × List Char) :=
  let mode := here.1.mode
  let named (cs : List Char) :=
    match cs.dropWhile (· != '>') with
    | _ :: rest => some (openGroup mode here, rest)
    | [] => none
  match mode.skip cs with
  | '?' :: '<' :: cs => named cs
  | '?' :: 'P' :: '<' :: cs => named cs
  | '?' :: cs =>
    match mode.ofLetters? true cs with
    | some (mode, ':' :: rest) => some (openGroup mode here, rest)
    | some (mode, _ :: rest) => some (({ here.1 with mode }, here.2), rest)
    | _ => none
  | cs => some (openGroup mode here, cs)

def item? (here : Open) (c : Char) (cs : List Char) : Option (Open × List Char) :=
  let (g, outer) := here
  let part (p : Pattern) (rest : List Char) : Option (Open × List Char) :=
    some ((g.add p, outer), rest)
  match c with
  | '(' => group? here cs
  | ')' =>
    match outer with
    | [] => none
    | around :: outer => some ((around.add g.pattern, outer), cs)
  | '|' => some (({ g with alternatives := g.current :: g.alternatives, parts := [] }, outer), cs)
  | '*' => repetition? 0 none here cs
  | '+' => repetition? 1 none here cs
  | '?' => repetition? 0 (some 1) here cs
  | '{' => do
    let ((least, most), rest) ← bounds? cs
    repetition? least most here rest
  | '[' => do
    let (s, rest) ← class? g.mode cs
    part (.oneOf s) rest
  | '^' => part (.edge g.mode.start) cs
  | '$' => part (.edge g.mode.stop) cs
  | '.' => part (.oneOf g.mode.dot) cs
  | c => do
    let (a, rest) ← atom? g.mode (c :: cs)
    part (a.pattern g.mode) rest

/-- Reads the items of a pattern; every round takes at least a character. -/
def items? : (fuel : Nat) → Open → List Char → Option Pattern
  | fuel, here, cs =>
    match here.1.mode.skip cs with
    | [] => if here.2.isEmpty then some here.1.pattern else none
    | c :: cs =>
      match fuel with
      | 0 => none
      | fuel + 1 =>
        match item? here c cs with
        | some (here, rest) => items? fuel here rest
        | none => none

def ofText? (s : String) : Option Pattern :=
  items? s.toList.length ({}, []) s.toList

end TypedRecords.Pattern
