import TypedRecords.Record.Writing
import TypedRecords.Resolver.Basic

namespace TypedRecords.Resolver

variable {U : Universe}

def noMember (query : Path) : Error :=
  .property (.notFound query.fullName)

def hasValue (r : Resolver U) (c : Contents U) (query : Path) : Bool × Resolver U :=
  match r.find query with
  | (none, r) => (false, r)
  | (some p, r) => (c.has p, r)

def get (r : Resolver U) (c : Contents U) (query : Path) :
    Except Error (Option (Value U)) × Resolver U :=
  match r.find query with
  | (none, r) => (.error (noMember query), r)
  | (some p, r) => (c.get p, r)

def getAs (r : Resolver U) (c : Contents U) (query : Path) (k : U.Kind) :
    Except Error (Option (U.El k)) × Resolver U :=
  match r.findTyped query k with
  | (.error e, r) => (.error e, r)
  | (.ok none, r) => (.error (noMember query), r)
  | (.ok (some t), r) => ((c.read t.property).map fun x => t.kind_eq ▸ x, r)

def write (r : Resolver U) (c : Contents U) (query : Path) (v : Option (Value U)) :
    Except Error (Contents U) × Resolver U :=
  match r.find query with
  | (none, r) => (.error (noMember query), r)
  | (some p, r) => (c.write p.toDescriptor v false, r)

end TypedRecords.Resolver
