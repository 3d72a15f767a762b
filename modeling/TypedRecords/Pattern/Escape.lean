import TypedRecords.Pattern.Mode
import TypedRecords.Text.Digits

namespace TypedRecords.Pattern

inductive Atom where
  | char (c : Char)
  | set (s : CharSet)
  | edge (e : Edge)

def Atom.pattern (m : Mode) : Atom → Pattern
  | .char c => .oneOf (m.casedChar c)
  | .set s => .oneOf s
  | .edge e => .edge e

def Mode.classOf? (m : Mode) (letter : Char) : Option CharSet :=
  match letter with
  | 'd' => some m.digits
  | 'D' => some (.complement m.digits)
  | 'w' => some m.words
  | 'W' => some (.complement m.words)
  | 's' => some m.blanks
  | 'S' => some (.complement m.blanks)
  | _ => none

def controlOf? (letter : Char) : Option Char :=
  match letter with
  | 'a' => some '\x07'
  | 'f' => some '\x0c'
  | 'n' => some '\n'
  | 'r' => some '\r'
  | 't' => some '\t'
  | 'v' => some '\x0b'
  | _ => none

def codePoint? (digits : List Char) : Option Char :=
  match Text.hexNumber? digits with
  | some n => if n.isValidChar then some (Char.ofNat n) else none
  | none => none

/-- Reads a code point of `width` digits, or of any number of digits in braces. -/
def hexChar? (width : Nat) : List Char → Option (Char × List Char)
  | '{' :: cs =>
    match cs.dropWhile (· != '}') with
    | [] => none
    | _ :: rest => (codePoint? (cs.takeWhile (· != '}'))).map (·, rest)
  | cs =>
    if cs.length < width then none else (codePoint? (cs.take width)).map (·, cs.drop width)

def Mode.edgeOf? (m : Mode) (name : List Char) : Option Edge :=
  if name = "start".toList then some (.wordStart m.words)
  else if name = "end".toList then some (.wordEnd m.words)
  else if name = "start-half".toList then some (.outsideBefore m.words)
  else if name = "end-half".toList then some (.outsideAfter m.words)
  else none

/-- Reads what follows `\b`: a name in braces, or nothing that belongs to it. -/
def wordEdge? (m : Mode) (cs : List Char) : Option (Edge × List Char) :=
  match cs with
  | '{' :: inner =>
    let name := inner.takeWhile fun c => c.isAlpha || c == '-'
    if name.isEmpty then some (.wordEdge m.words, cs)
    else match inner.drop name.length with
      | '}' :: rest => (m.edgeOf? name).map (·, rest)
      | _ => none
  | cs => some (.wordEdge m.words, cs)

def escape? (m : Mode) : List Char → Option (Atom × List Char)
  | [] => none
  | 'x' :: cs => (hexChar? 2 cs).map fun (c, rest) => (.char c, rest)
  | 'u' :: cs => (hexChar? 4 cs).map fun (c, rest) => (.char c, rest)
  | 'U' :: cs => (hexChar? 8 cs).map fun (c, rest) => (.char c, rest)
  | 'A' :: cs => some (.edge .textStart, cs)
  | 'z' :: cs => some (.edge .textEnd, cs)
  | 'b' :: cs => (wordEdge? m cs).map fun (e, rest) => (.edge e, rest)
  | 'B' :: cs => some (.edge (.noWordEdge m.words), cs)
  | '<' :: cs => some (.edge (.wordStart m.words), cs)
  | '>' :: cs => some (.edge (.wordEnd m.words), cs)
  | c :: cs =>
    match m.classOf? c, controlOf? c with
    | some s, _ => some (.set s, cs)
    | none, some control => some (.char control, cs)
    | none, none => if c.toNat < 0x80 && !c.isAlphanum then some (.char c, cs) else none

def atom? (m : Mode) : List Char → Option (Atom × List Char)
  | [] => none
  | '\\' :: cs => escape? m cs
  | c :: cs => some (.char c, cs)

end TypedRecords.Pattern
