import TypedRecords.Property.Draft
import TypedRecords.Proofs.Schema
import TypedRecords.Proofs.Value

namespace TypedRecords.Sample

inductive Kind where
  | number
  | text
  deriving DecidableEq

abbrev Kind.El : Kind → Type
  | .number => Int
  | .text => String

def kinds : Universe where
  Kind := Kind
  kindEq := inferInstance
  El := Kind.El
  name
    | .number => "number"
    | .text => "text"
  same
    | .number, x, y => decide (x = y)
    | .text, x, y => decide (x = y)
  feed
    | .number, x => [.number x]
    | .text, x => [.text x]
  render
    | .number, x => toString x
    | .text, x => x
  temporalKind := .number
  temporal _ := (0 : Int)

theorem kinds_lawful : kinds.Lawful where
  refl
    | .number, (x : Int) => (decide_eq_true rfl : decide (x = x) = true)
    | .text, (x : String) => (decide_eq_true rfl : decide (x = x) = true)
  symm k x y h := by
    cases k <;> simp only [kinds, decide_eq_true_eq] at h ⊢ <;> exact h.symm
  trans k x y z hxy hyz := by
    cases k <;> simp only [kinds, decide_eq_true_eq] at hxy hyz ⊢ <;> exact hxy.trans hyz
  feed_eq k x y h := by
    cases k <;> simp only [kinds, decide_eq_true_eq] at h ⊢ <;> rw [h]

def number (n : Int) : Value kinds :=
  ⟨Kind.number, n⟩

def text (s : String) : Value kinds :=
  ⟨Kind.text, s⟩

def tallyMarks : Conversion Int String :=
  .ofFunctions
    (fun s =>
      if s.toList.all (· == '|') then .ok s.toList.length else .error (.failed "no tally marks"))
    (fun n => .ok (String.ofList (List.replicate n.toNat '|')))

def marked : Conversion String String :=
  .ofFunctions
    (fun s =>
      match s.toList with
      | '#' :: rest => .ok (String.ofList rest)
      | _ => .error (.failed "no mark"))
    (fun s => .ok ("#" ++ s))

def notNegative : Validator Int :=
  .predicate (fun n => decide (0 ≤ n)) "must not be negative" none []

def count : Property kinds :=
  PathDraft.build (k := Kind.number)
    { name := "count"
      attributes := { rules := [⟨Kind.number, notNegative⟩] }
      identity := some .byName } ⟨1⟩

/-- A number that equals `count`, with tally marks as its model. -/
def tallied : Property kinds :=
  PathDraft.build (k := Kind.number)
    { name := "count"
      attributes := { converter := some ⟨Kind.text, tallyMarks⟩ }
      identity := some .byName } ⟨2⟩

def title : Property kinds :=
  PathDraft.build (k := Kind.text) { name := "title" } ⟨3⟩

def label : Property kinds :=
  PathDraft.build (k := Kind.text)
    { name := "label", attributes := { converter := some ⟨Kind.text, marked⟩ } } ⟨4⟩

/-- A protected number that equals `count`. -/
def frozen : Property kinds :=
  PathDraft.build (k := Kind.number)
    { name := "count", attributes := { readOnly := true }, identity := some .byName } ⟨5⟩

/-- A computed number that equals `count`. -/
def derived : Property kinds :=
  VirtualDraft.build (k := Kind.number)
    { name := some "count"
      provider := .computed (.constant (some (7 : Int)))
      identity := some .byName } ⟨6⟩

def stamp : Property kinds :=
  PathDraft.build (k := Kind.text) { name := "stamp", attributes := { readOnly := true } } ⟨7⟩

def properties : List (Property kinds) :=
  [count, tallied, title, label, frozen, derived, stamp]

def population : Population kinds :=
  .ofList (properties.map Property.toDescriptor) (by decide) (by
    intro d hd i hi
    simp only [properties, List.map_cons, List.map_nil, List.mem_cons, List.not_mem_nil,
      or_false] at hd
    rcases hd with rfl | rfl | rfl | rfl | rfl | rfl | rfl <;> cases hi <;> rfl)

theorem mem_population {p : Property kinds} (hp : p ∈ properties) :
    p.toDescriptor ∈ population :=
  List.mem_map_of_mem hp

theorem covers {members identifiers : List (Property kinds)} (hmembers : members ⊆ properties)
    (hidentifiers : identifiers ⊆ properties) : population.Covers { members, identifiers } :=
  ⟨fun _ hp => mem_population (hmembers hp), fun _ hp => mem_population (hidentifiers hp)⟩

theorem count_mem : count.toDescriptor ∈ population :=
  mem_population (by simp [properties])

theorem tallied_mem : tallied.toDescriptor ∈ population :=
  mem_population (by simp [properties])

theorem title_mem : title.toDescriptor ∈ population :=
  mem_population (by simp [properties])

def fewMarks : Validator String :=
  .predicate (fun s => decide (s.length ≤ 4)) "must have at most 4 marks" none []

/-- A number that is told apart by reference, of which a rule looks at the tally marks. -/
def score : Property kinds :=
  PathDraft.build (k := Kind.number)
    { name := "score"
      attributes :=
        { converter := some ⟨Kind.text, tallyMarks⟩
          rules := [⟨Kind.number, notNegative⟩, ⟨Kind.text, fewMarks⟩] } } ⟨10⟩

def scores : Population kinds :=
  .ofList ([score, title].map Property.toDescriptor) (by decide) (by
    intro d hd i hi
    simp only [List.map_cons, List.map_nil, List.mem_cons, List.not_mem_nil, or_false] at hd
    rcases hd with rfl | rfl <;> cases hi)

def street : Property kinds :=
  PathDraft.build (k := Kind.text)
    { name := "street", parent := some ((Path.single "address").under (.root "record")) } ⟨11⟩

def heading : Property kinds :=
  VirtualDraft.build (k := Kind.text)
    { name := some "title", provider := .computed (.constant (some "untitled")) } ⟨12⟩

def entries : Population kinds :=
  .ofList ([heading, title, street].map Property.toDescriptor) (by decide) (by
    intro d hd i hi
    simp only [List.map_cons, List.map_nil, List.mem_cons, List.not_mem_nil, or_false] at hd
    rcases hd with rfl | rfl | rfl <;> cases hi)

end TypedRecords.Sample
