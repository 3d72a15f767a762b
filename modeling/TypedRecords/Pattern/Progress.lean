import TypedRecords.Pattern.Basic

/-!
A text is read once. The progress of a pattern marks those of its characters that may be the one
just read, so all ways to match are followed at the same time.
-/

namespace TypedRecords

/-- How far the matches of a pattern have come that are under way at a place. -/
inductive Progress where
  | idle (p : Pattern)
  | read (s : CharSet)
  | seq (a b : Progress)
  | either (a b : Progress)
  | oneOrMore (a : Progress)
  deriving DecidableEq

namespace Progress

def seqOf : Progress → Progress → Progress
  | .idle p, .idle q => .idle (.seq p q)
  | a, b => .seq a b

def eitherOf : Progress → Progress → Progress
  | .idle p, .idle q => .idle (.either p q)
  | a, b => .either a b

def oneOrMoreOf : Progress → Progress
  | .idle p => .idle (.oneOrMore p)
  | a => .oneOrMore a

def begin (place : Place) : Pattern → Progress
  | .empty => .idle .empty
  | .edge e => .idle (.edge e)
  | .oneOf s => if place.precedes s then .read s else .idle (.oneOf s)
  | .seq p q =>
    seqOf (begin place p) (if p.acceptsEmpty place then begin place q else .idle q)
  | .either p q => eitherOf (begin place p) (begin place q)
  | .oneOrMore p => oneOrMoreOf (begin place p)

/--
Whether a match is complete at a place: one that is under way or, if the pattern is entered at the
place, one of the empty piece.
-/
def exits (place : Place) (entered : Bool) : Progress → Bool
  | .idle p => entered && p.acceptsEmpty place
  | .read _ => true
  | .seq a b => b.exits place (a.exits place entered)
  | .either a b => a.exits place entered || b.exits place entered
  | .oneOrMore a => a.exits place entered

/-- The progress behind a place, at which the pattern may be entered as well. -/
def next (place : Place) (entered : Bool) : Progress → Progress
  | .idle p => if entered then begin place p else .idle p
  | .read s => if entered && place.precedes s then .read s else .idle (.oneOf s)
  | .seq a b => seqOf (a.next place entered) (b.next place (a.exits place entered))
  | .either a b => eitherOf (a.next place entered) (b.next place entered)
  | .oneOrMore a => oneOrMoreOf (a.next place (entered || a.exits place false))

/-- Whether a match is complete at one of the places, at each of which one may start. -/
def completes (g : Progress) : List Place → Bool
  | [] => false
  | place :: places => g.exits place true || (g.next place true).completes places

end Progress

def Pattern.occursIn (p : Pattern) (s : String) : Bool :=
  (Progress.idle p).completes (Place.ofChars s.toList)

end TypedRecords
