import TypedRecords.Pattern.CharSet

namespace TypedRecords

/-- A place of a text: the character before it and the character after it. -/
structure Place where
  previous : Option Char
  next : Option Char
  deriving DecidableEq

namespace Place

/-- The places of a text: one before each character, and one at the end. -/
def ofChars (cs : List Char) : List Place :=
  List.zipWith Place.mk (none :: cs.map some) (cs.map some ++ [none])

def follows (s : CharSet) (p : Place) : Bool :=
  p.previous.any s.holds

def precedes (s : CharSet) (p : Place) : Bool :=
  p.next.any s.holds

end Place

/-- What a pattern asks of a place without taking a character; `w` are the word characters. -/
inductive Edge where
  | textStart
  | textEnd
  | lineStart
  | lineEnd
  /-- The start of a line where a line feed, a carriage return or both end a line. -/
  | anyLineStart
  /-- The end of a line where a line feed, a carriage return or both end a line. -/
  | anyLineEnd
  | wordEdge (w : CharSet)
  | noWordEdge (w : CharSet)
  | wordStart (w : CharSet)
  | wordEnd (w : CharSet)
  | outsideBefore (w : CharSet)
  | outsideAfter (w : CharSet)
  deriving DecidableEq

def Edge.holds : Edge → Place → Bool
  | .textStart, p => p.previous.isNone
  | .textEnd, p => p.next.isNone
  | .lineStart, p => p.previous.isNone || p.follows (.char '\n')
  | .lineEnd, p => p.next.isNone || p.precedes (.char '\n')
  | .anyLineStart, p =>
    p.previous.isNone || p.follows (.char '\n') ||
      p.follows (.char '\r') && !p.precedes (.char '\n')
  | .anyLineEnd, p =>
    p.next.isNone || p.precedes (.char '\r') ||
      p.precedes (.char '\n') && !p.follows (.char '\r')
  | .wordEdge w, p => p.follows w != p.precedes w
  | .noWordEdge w, p => p.follows w == p.precedes w
  | .wordStart w, p => !p.follows w && p.precedes w
  | .wordEnd w, p => p.follows w && !p.precedes w
  | .outsideBefore w, p => !p.follows w
  | .outsideAfter w, p => !p.precedes w

inductive Pattern where
  | empty
  | edge (e : Edge)
  | oneOf (s : CharSet)
  | seq (p q : Pattern)
  | either (p q : Pattern)
  | oneOrMore (p : Pattern)
  deriving DecidableEq

namespace Pattern

def optional (p : Pattern) : Pattern :=
  .either p .empty

def many (p : Pattern) : Pattern :=
  optional (.oneOrMore p)

/-- One pattern after the other, in a form that is not longer than needed. -/
def andThen : Pattern → Pattern → Pattern
  | .empty, q => q
  | p, .empty => p
  | p, q => .seq p q

def times (p : Pattern) : (n : Nat) → Pattern
  | 0 => .empty
  | n + 1 => p.andThen (p.times n)

/-- At most `n` pieces. -/
def upTo (p : Pattern) : (n : Nat) → Pattern
  | 0 => .empty
  | n + 1 => optional (p.andThen (p.upTo n))

def takesNothing : Pattern → Bool
  | .empty | .edge _ => true
  | .oneOf _ => false
  | .seq p q | .either p q => p.takesNothing && q.takesNothing
  | .oneOrMore p => p.takesNothing

/--
At least `least` pieces, and at most `most` if that is given. Where every piece is empty, a second
one asks for nothing that the first does not.
-/
def repeated (p : Pattern) (least : Nat) (most : Option Nat) : Pattern :=
  if p.takesNothing then if least = 0 then optional p else p
  else
    match most with
    | some most => (p.times least).andThen (p.upTo (most - least))
    | none => if least = 0 then many p else (p.times (least - 1)).andThen (.oneOrMore p)

def acceptsEmpty (place : Place) : Pattern → Bool
  | .empty => true
  | .edge e => e.holds place
  | .oneOf _ => false
  | .seq p q => p.acceptsEmpty place && q.acceptsEmpty place
  | .either p q => p.acceptsEmpty place || q.acceptsEmpty place
  | .oneOrMore p => p.acceptsEmpty place

end Pattern

end TypedRecords
