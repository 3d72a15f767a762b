import TypedRecords.Proofs.Collection.Sorted
import TypedRecords.Proofs.Json.Codec
import TypedRecords.Proofs.Json.Parsing

namespace TypedRecords

variable {α β γ : Type}

theorem mapM_map_eq_some {f : α → β} {g : β → Option α} (h : ∀ a, g (f a) = some a) (xs : List α) :
    (xs.map f).mapM g = some xs := by
  induction xs with
  | nil => rfl
  | cons x xs ih =>
      rw [List.map_cons, List.mapM_cons, h, ih]
      rfl

theorem Json.toInt?_ofInt (n : Int) : toInt? (ofInt n) = some n := by
  cases n with
  | ofNat n => rfl
  | negSucc n =>
      rw [ofInt, decide_eq_true (Int.negSucc_lt_zero n)]
      change (if n + 1 = 0 then none else some (-((n + 1 : Nat) : Int))) = some (Int.negSucc n)
      rw [if_neg (Nat.succ_ne_zero n), Int.negSucc_eq, Int.natCast_succ]

namespace Codec

/-- Every value is read back from what is written for it. -/
def Lossless (c : Codec α) : Prop :=
  ∀ a, c.decode (c.encode a) = some a

theorem lossless_bool : Lossless bool :=
  fun _ => rfl

theorem lossless_string : Lossless string :=
  fun _ => rfl

theorem lossless_fixed (f : IntFormat) : Lossless (fixed f) := fun n => by
  change (Json.toInt? (Json.ofInt n.val)).bind (Fixed.ofInt? f) = some n
  rw [Json.toInt?_ofInt, Option.bind_some, Fixed.ofInt?_val]

theorem lossless_constants {all : List α} {nameOf : α → String} (hall : ∀ a, a ∈ all)
    (hnames : nameOf.Injective) : (constants all nameOf).Lossless := fun a => by
  change (all.find? fun b => nameOf b == nameOf a) = some a
  cases hfound : all.find? fun b => nameOf b == nameOf a with
  | none => exact absurd (beq_self_eq_true (nameOf a)) (List.find?_eq_none.mp hfound a (hall a))
  | some b =>
      have hname := List.find?_some hfound
      exact congrArg some (hnames (beq_iff_eq.mp hname))

variable {c : Codec α}

theorem Lossless.list (h : c.Lossless) : (list c).Lossless :=
  mapM_map_eq_some h

theorem Lossless.sortedSet [Ord α] [Std.TransOrd α] (h : c.Lossless) :
    (sortedSet c).Lossless := fun s => by
  change ((s.toList.map c.encode).mapM c.decode).map SortedBy.ofList = some s
  rw [mapM_map_eq_some h, Option.map_some, SortedBy.ofList_toList]

theorem Lossless.sortedMap (h : c.Lossless) : (sortedMap c).Lossless := fun m => by
  have hentry (entry : String × α) :
      c.entry? (some entry.1, c.encode entry.2) = some entry := by
    change ((c.decode (c.encode entry.2)).bind fun a => some (entry.1, a)) = some entry
    rw [h, Option.bind_some]
  change ((m.toList.map fun entry => (some entry.1, c.encode entry.2)).mapM c.entry?).map
    SortedBy.ofList = some m
  rw [mapM_map_eq_some hentry, Option.map_some, SortedBy.ofList_toList]

theorem Lossless.fields {c₁ : Codec α} {c₂ : Codec β} (h₁ : c₁.Lossless) (h₂ : c₂.Lossless)
    {key₁ key₂ : String} (hkeys : key₁ ≠ key₂) : (fields key₁ key₂ c₁ c₂).Lossless := fun p => by
  have hfirst : Json.lookup key₁ [(some key₁, c₁.encode p.1), (some key₂, c₂.encode p.2)] =
      .present (c₁.encode p.1) := by
    rw [Json.lookup_cons_self, Json.lookup_cons_ne hkeys.symm]
    rfl
  have hsecond : Json.lookup key₂ [(some key₁, c₁.encode p.1), (some key₂, c₂.encode p.2)] =
      .present (c₂.encode p.2) := by
    rw [Json.lookup_cons_ne hkeys, Json.lookup_cons_self]
    rfl
  have htexts : Json.keysHaveText [(some key₁, c₁.encode p.1), (some key₂, c₂.encode p.2)] =
      true :=
    rfl
  simp only [Codec.fields, htexts, hfirst, hsecond]
  rw [h₁, h₂]
  rfl

theorem Lossless.map (h : c.Lossless) {make : α → γ} {view : γ → α}
    (hview : ∀ x, make (view x) = x) : (map c make view).Lossless := fun x => by
  change (c.decode (c.encode (view x))).map make = some x
  rw [h, Option.map_some, hview]

theorem Lossless.ofText?_between (h : c.Lossless) (a : α) {before after : String}
    (hbefore : Json.Blank before.toList) (hafter : Json.Blank after.toList) :
    c.ofText? (before ++ c.toText a ++ after) = some a := by
  rw [ofText?, toText, ((c.encode a).written_render.between hbefore hafter).parse_eq]
  exact h a

end Codec

end TypedRecords
