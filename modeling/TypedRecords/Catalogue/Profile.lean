import TypedRecords.Catalogue.Kind
import TypedRecords.Text.Quoted

/-!
What the values of a type have beside equality, such as an order or a length, decides which
validators are available for it.
-/

namespace TypedRecords.Catalogue

/-- An order of the values of a type, and their plain text. -/
structure Order (T : Type) where
  le : T → T → Bool
  text : T → String

structure Profile (T : Type) where
  same : T → T → Bool
  feed : T → Feed Kind
  render : T → String
  order : Option (Order T) := none
  zero : Option T := none
  isEven : Option (T → Bool) := none
  length : Option (T → Nat) := none
  /-- Whether a value lies before a moment, and whether it lies after it. -/
  isPast : Option (DateTime → T → Bool) := none
  isFuture : Option (DateTime → T → Bool) := none

def textProfile : Profile String where
  same a b := a == b
  feed s := [.text s]
  render := Text.quoted
  order := some ⟨fun a b => decide (a ≤ b), id⟩
  zero := some ""
  length := some String.length

def boolProfile : Profile Bool where
  same a b := a == b
  feed b := [Feed.flag b]
  render b := toString b
  order := some ⟨fun a b => !a || b, fun b => toString b⟩
  zero := some false

def fixedProfile (f : IntFormat) : Profile (Fixed f) where
  same a b := a == b
  feed n := [.number n.val]
  render := Fixed.text
  order := some ⟨fun a b => decide (a.val ≤ b.val), Fixed.text⟩
  zero := some (Fixed.zero f)
  isEven := some fun n => n.val % 2 == 0

/-- The profile of binary floating-point numbers, which are shown with a point or an exponent. -/
def binaryProfile (f : BinaryFormat) : Profile (Binary f) where
  same := Binary.same
  feed n := [.text (n.textWith Binary.explicit)]
  render n := n.textWith Binary.explicit
  order := some ⟨Binary.le, fun n => n.textWith Binary.plain⟩
  zero := some Binary.zero

def momentFeed (dt : DateTime) : Feed Kind :=
  [.number dt.second, .number dt.nano]

def instantProfile : Profile DateTime where
  same a b := a == b
  feed := momentFeed
  render dt := dt.textWith "T" ++ "Z"
  isPast := some fun now dt => decide (dt < now)
  isFuture := some fun now dt => decide (now < dt)

def Scalar.profile : (s : Scalar) → Profile s.El
  | .text => textProfile
  | .bool => boolProfile
  | .int f => fixedProfile f
  | .zeroOnly =>
    { same := fun a b => a == b
      feed := fun z => [.number z.val.val]
      render := fun z => "ZeroOnly(" ++ z.val.text ++ ")" }
  | .date =>
    { same := fun a b => a == b
      feed := fun d => [.number d.dayNumber]
      render := Date.text
      order := some ⟨fun a b => !decide (b < a), Date.text⟩
      isPast := some fun now d => decide (d < now.date)
      isFuture := some fun now d => decide (now.date < d) }
  | .dateTime =>
    { same := fun a b => a == b
      feed := momentFeed
      render := DateTime.textWith "T"
      order := some ⟨fun a b => !decide (b < a), DateTime.textWith " "⟩
      isPast := some fun now dt => decide (dt < now)
      isFuture := some fun now dt => decide (now < dt) }
  | .time =>
    { same := fun a b => a == b
      feed := fun t => [.number t.second, .number t.nano]
      render := TimeOfDay.text
      order :=
        some
          ⟨fun a b => decide (a.second < b.second) || a.second == b.second && a.nano ≤ b.nano,
            TimeOfDay.text⟩ }
  | .timestamp =>
    { same := Timestamp.sameInstant
      feed := fun t => momentFeed t.instant
      render := Timestamp.text
      isPast := some fun now t => decide (t.instant < now)
      isFuture := some fun now t => decide (now < t.instant) }
  | .status =>
    { same := fun a b => a == b
      feed := fun s => [.number s.rank]
      render := Status.text }
  | .level =>
    { same := fun a b => a == b
      feed := fun l => [.number l.rank]
      render := Level.text }
  | .point =>
    { same := fun a b => a == b
      feed := fun p => [.number p.x.val, .number p.y.val]
      render := fun p => "Point \x7b x: " ++ p.x.text ++ ", y: " ++ p.y.text ++ " \x7d" }
  | .temporal =>
    { same := fun a b => a == b
      feed := fun t => [.number (TemporalPart.rank t)]
      render := TemporalPart.text }

def Element.profile (e : Element) : Profile e.El :=
  let p := e.scalar.profile
  { same := fun a b => p.same (e.toScalar a) (e.toScalar b)
    feed := fun a => p.feed (e.toScalar a)
    render := fun a => p.render (e.toScalar a) }

def sameLists {α : Type} (same : α → α → Bool) : List α → List α → Bool
  | [], [] => true
  | a :: as, b :: bs => same a b && sameLists same as bs
  | _, _ => false

/-- The profile of collections that are shown between two brackets and have a list of elements. -/
def collectionProfile {C α : Type} (element : Profile α) (toList : C → List α)
    (openMark closeMark : String) : Profile C where
  same a b := sameLists element.same (toList a) (toList b)
  feed c := .number (toList c).length :: (toList c).flatMap element.feed
  render c := openMark ++ ", ".intercalate ((toList c).map element.render) ++ closeMark
  length := some fun c => (toList c).length

def entryProfile : Profile (String × Fixed .int64) where
  same a b := a == b
  feed entry := [.text entry.1, .number entry.2.val]
  render entry := Text.quoted entry.1 ++ ": " ++ entry.2.text

def Kind.profile : (k : Kind) → Profile k.El
  | .one s => s.profile
  | .list e => collectionProfile e.profile (fun xs => xs) "[" "]"
  | .set e => collectionProfile e.profile SortedBy.toList "\x7b" "\x7d"
  | .map => collectionProfile entryProfile SortedBy.toList "\x7b" "\x7d"

@[reducible]
def kinds (names : Kind → String) : Universe where
  Kind := Kind
  kindEq := inferInstance
  El := Kind.El
  name := names
  same k := k.profile.same
  feed k := k.profile.feed
  render k := k.profile.render
  temporalKind := .one .temporal
  temporal part := part

end TypedRecords.Catalogue
