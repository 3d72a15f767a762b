import TypedRecords.Catalogue.Profile
import TypedRecords.Record.Comparison
import TypedRecords.Resolver.Basic

namespace TypedRecords

namespace Identity

variable {U : Universe}

/-- Properties with the same relative name but for the case of ASCII letters are equal. -/
def ignoringCase : Identity U where
  key := 1
  same a b := a.relativeName.toLower == b.relativeName.toLower
  feed s := [.text s.relativeName.toLower]

/-- Properties with the same name are equal, whatever stands above them. -/
def bySimpleName : Identity U where
  key := 2
  same a b := a.name == b.name
  feed s := [.text s.name]

end Identity

def Path.matchesLast (candidate query : Path) : Bool :=
  candidate.name == query.name

def Path.matchesFully (candidate query : Path) : Bool :=
  candidate.fullName == query.fullName

namespace Descriptor

variable {U : Universe}

def namePath? (d : Descriptor U) : Option Path :=
  some (.single d.name)

def writablePath? (d : Descriptor U) : Option Path :=
  if d.isReadOnly then none else d.path?

end Descriptor

namespace Comparison

variable {U : Universe}

def agreement (p : Property U) (a b : Contents U) : Bool :=
  a.agree b p

/-- Hands over the value of one property, and nothing if it cannot be read or is absent. -/
def feedOf (p : Property U) (c : Contents U) : Feed U.Kind :=
  match c.get p with
  | .ok (some v) => v.feed
  | _ => []

def feedConstant (_ : Contents U) : Feed U.Kind :=
  [.number 42]

end Comparison

namespace Catalogue

variable {names : Kind → String}

abbrev textKind : Kind :=
  .one .text

abbrev countKind : Kind :=
  .one (.int .int64)

def countStored : Computation (kinds names) countKind :=
  .stored fun entries => .constant (Fixed.ofInt? .int64 entries.length)

def presence (p : Property (kinds names)) : Computation (kinds names) (.one .bool) :=
  p.has fun b => .constant (some b)

/-- A name with a number behind it; an absent number counts as zero. -/
def numbered (name : Option String) (number : Option (Fixed .int64)) : Option String :=
  name.map fun s => s ++ "#" ++ (number.getD (Fixed.zero .int64)).text

def numberedName :
    Typed (kinds names) textKind → Typed (kinds names) countKind →
      Computation (kinds names) textKind
  | ⟨p, hp⟩, ⟨q, hq⟩ =>
    p.read fun name =>
      match hp ▸ name with
      | .error e => .fail e
      | .ok s =>
        q.read fun number =>
          match hq ▸ number with
          | .error e => .fail e
          | .ok n => .constant (numbered s n)

end Catalogue

end TypedRecords
