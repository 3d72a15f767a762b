import TypedRecords.Pattern.Escape

/-!
Lists in a class are combined from left to right: `&&` stands for what both have, `--` for what
only the first has and `~~` for what exactly one has.
-/

namespace TypedRecords.Pattern

def namedClasses : List (String × List (Char × Char)) :=
  [("alnum", [('0', '9'), ('A', 'Z'), ('a', 'z')]), ("alpha", [('A', 'Z'), ('a', 'z')]),
    ("ascii", [('\x00', '\x7f')]), ("blank", [('\t', '\t'), (' ', ' ')]),
    ("cntrl", [('\x00', '\x1f'), ('\x7f', '\x7f')]), ("digit", [('0', '9')]),
    ("graph", [('!', '~')]), ("lower", [('a', 'z')]), ("print", [(' ', '~')]),
    ("punct", [('!', '/'), (':', '@'), ('[', '\x60'), ('\x7b', '~')]),
    ("space", [('\t', '\r'), (' ', ' ')]), ("upper", [('A', 'Z')]),
    ("word", [('0', '9'), ('A', 'Z'), ('_', '_'), ('a', 'z')]),
    ("xdigit", [('0', '9'), ('A', 'F'), ('a', 'f')])]

def negatedIf (negated : Bool) (s : CharSet) : CharSet :=
  if negated then .complement s else s

def namedClass? (m : Mode) : List Char → Option (CharSet × List Char)
  | ':' :: cs =>
    let (negated, cs) :=
      match cs with
      | '^' :: cs => (true, cs)
      | cs => (false, cs)
    match cs.dropWhile (· != ':') with
    | ':' :: ']' :: rest =>
      (namedClasses.lookup (String.ofList (cs.takeWhile (· != ':')))).map fun ranges =>
        (negatedIf negated (m.cased (.ofRanges ranges)), rest)
    | _ => none
  | _ => none

/--
An open class: whether it is negated, how the list that is being read is combined with what stands
before it, and the list read so far.
-/
structure OpenClass where
  negated : Bool
  combine : CharSet → CharSet := id
  listed : CharSet := .empty

namespace OpenClass

def add (b : OpenClass) (s : CharSet) : OpenClass :=
  { b with listed := .union b.listed s }

def operate (b : OpenClass) (operation : CharSet → CharSet → CharSet) : OpenClass :=
  { b with combine := operation (b.combine b.listed), listed := .empty }

def close (b : OpenClass) : CharSet :=
  negatedIf b.negated (b.combine b.listed)

end OpenClass

def openClass (m : Mode) (cs : List Char) : OpenClass × List Char :=
  let (negated, cs) :=
    match m.skip cs with
    | '^' :: cs => (true, m.skip cs)
    | cs => (false, cs)
  match cs with
  | ']' :: cs => ({ negated, listed := .char ']' }, cs)
  | '-' :: cs =>
    let isPassed (c : Char) := c == '-' || m.spaced && Text.isBlank c
    ({ negated, listed := .char '-' }, cs.dropWhile isPassed)
  | cs => ({ negated }, cs)

/-- The set of an atom in a class; places have none. -/
def Atom.set? (m : Mode) : Atom → Option CharSet
  | .char c => some (m.casedChar c)
  | .set s => some s
  | .edge _ => none

def classItem? (m : Mode) (cs : List Char) : Option (CharSet × List Char) := do
  let (first, rest) ← atom? m cs
  match m.skip rest with
  | '-' :: behind =>
    match m.skip behind with
    | ']' :: _ => return (← first.set? m, rest)
    | '-' :: _ => return (← first.set? m, rest)
    | behind =>
      match first, (← atom? m behind) with
      | .char a, (.char b, rest) => if a ≤ b then some (m.cased (.range a b), rest) else none
      | _, _ => none
  | _ => return (← first.set? m, rest)

/-- Reads on in a class, inside the classes around it; every round takes at least a character. -/
def classFrom? (m : Mode) :
    (fuel : Nat) → OpenClass → (outer : List OpenClass) → List Char → Option (CharSet × List Char)
  | 0, _, _, _ => none
  | fuel + 1, b, outer, cs =>
    match m.skip cs with
    | [] => none
    | ']' :: rest =>
      match outer with
      | [] => some (b.close, rest)
      | around :: outer => classFrom? m fuel (around.add (b.close)) outer rest
    | '[' :: rest =>
      match namedClass? m rest with
      | some (s, rest) => classFrom? m fuel (b.add s) outer rest
      | none =>
        let (inner, rest) := openClass m rest
        classFrom? m fuel inner (b :: outer) rest
    | '&' :: '&' :: rest => classFrom? m fuel (b.operate .inter) outer rest
    | '-' :: '-' :: rest => classFrom? m fuel (b.operate .difference) outer rest
    | '~' :: '~' :: rest => classFrom? m fuel (b.operate .symmetricDifference) outer rest
    | cs =>
      match classItem? m cs with
      | some (s, rest) => classFrom? m fuel (b.add s) outer rest
      | none => none

def class? (m : Mode) (cs : List Char) : Option (CharSet × List Char) :=
  let (b, rest) := openClass m cs
  classFrom? m (rest.length + 1) b [] rest

end TypedRecords.Pattern
