import TypedRecords.Proofs.Collection.Pairing
import TypedRecords.Proofs.Record.Reading
import TypedRecords.Proofs.Sample

namespace TypedRecords

variable {U : Universe} {P : Population U} {𝒮 : Schema U → Prop}

/-- Two identifiers that are read alike in every record: one property, or equal path properties of
one kind. -/
def Property.ReadsLike (p q : Property U) : Prop :=
  p = q ∨ (p.toDescriptor == q.toDescriptor) = true ∧ p.kind = q.kind ∧
    p.isVirtual = false ∧ q.isVirtual = false

theorem Property.ReadsLike.symm (hP : P.Lawful) {p q : Property U} (hp : p.toDescriptor ∈ P)
    (hq : q.toDescriptor ∈ P) (h : p.ReadsLike q) : q.ReadsLike p := by
  rcases h with rfl | ⟨hequal, hkind, hpathp, hpathq⟩
  · exact Or.inl rfl
  · exact Or.inr ⟨hP.equivAmong.symm hp hq hequal, hkind.symm, hpathq, hpathp⟩

def Property.alike (p q : Property U) : Bool :=
  p.toDescriptor == q.toDescriptor && decide (p.kind = q.kind)

namespace Schema

/-- The identifiers of two schemas are the same and stand in the same order. -/
def Aligned (s t : Schema U) : Prop :=
  List.Forall₂ Property.ReadsLike s.identifiers t.identifiers

/-- No identifier of the schema tells that a record of it equals one of the other: it has none, or
one that the other schema does not contain. -/
def Apart (s t : Schema U) : Prop :=
  s.identifiers = [] ∨ ∃ p ∈ s.identifiers, t.contains p.toDescriptor = false

theorem Aligned.ne_nil {s t : Schema U} (h : s.Aligned t) (hs : s.identifiers ≠ []) :
    t.identifiers ≠ [] := by
  intro ht
  rw [Aligned, ht, List.forall₂_nil_right_iff] at h
  exact hs h

end Schema

namespace Record

/-- A record without rules of its own whose values were reached by edits. -/
structure Reached (P : Population U) (𝒮 : Schema U → Prop) (r : Record U) : Prop where
  comparison : r.comparison = {}
  schema : 𝒮 r.schema
  reachable : r.toContents.Reachable P r.schema

/-- Equality of the records of some schemas is symmetric and transitive, and equal records hash
alike. A record is the only one with its identity. -/
structure ComparesLawfully (P : Population U) (𝒮 : Schema U → Prop) : Prop where
  symm : ∀ {a b : Record U}, a.Reached P 𝒮 → b.Reached P 𝒮 → a.same b = true → b.same a = true
  trans : ∀ {a b c : Record U}, a.Reached P 𝒮 → b.Reached P 𝒮 → c.Reached P 𝒮 →
    (a.id = b.id → a = b) → (b.id = c.id → b = c) →
    a.same b = true → b.same c = true → a.same c = true
  feed_eq : ∀ {a b : Record U}, a.Reached P 𝒮 → b.Reached P 𝒮 → (a.id = b.id → a = b) →
    a.same b = true → a.feed = b.feed

end Record

namespace Contents

theorem agree_iff {a b : Contents U} {p : Property U} :
    a.agree b p = true ↔
      ∃ x y, a.get p = .ok x ∧ b.get p = .ok y ∧ sameOption x y = true := by
  unfold agree
  cases a.get p with
  | error e => simp
  | ok x =>
      cases b.get p with
      | error e => simp
      | ok y => simp

theorem agree_symm (hU : U.Lawful) {a b : Contents U} {p : Property U}
    (h : a.agree b p = true) : b.agree a p = true := by
  obtain ⟨x, y, hx, hy, hxy⟩ := agree_iff.mp h
  exact agree_iff.mpr ⟨y, x, hy, hx, sameOption_symm hU hxy⟩

theorem agree_trans (hU : U.Lawful) {a b c : Contents U} {p : Property U}
    (hab : a.agree b p = true) (hbc : b.agree c p = true) : a.agree c p = true := by
  obtain ⟨x, y, hx, hy, hxy⟩ := agree_iff.mp hab
  obtain ⟨y', z, hy', hz, hyz⟩ := agree_iff.mp hbc
  have heq : y' = y := Except.ok.inj (hy'.symm.trans hy)
  subst heq
  exact agree_iff.mpr ⟨x, z, hx, hz, sameOption_trans hU hxy hyz⟩

def feedOption : Option (Value U) → Feed U.Kind
  | some v => .number 1 :: v.feed
  | none => [.number 0]

theorem feedIdentifier_of_get {c : Contents U} {p : Property U} {x : Option (Value U)}
    (h : c.get p = .ok x) : c.feedIdentifier p = feedOption x := by
  rw [feedIdentifier, h]
  cases x <;> rfl

theorem feedOption_eq (hU : U.Lawful) {x y : Option (Value U)} (h : sameOption x y = true) :
    feedOption x = feedOption y := by
  cases x <;> cases y
  · rfl
  · cases h
  · cases h
  · rw [feedOption, feedOption, Value.feed_eq_of_same hU h]

end Contents

namespace Record

theorem same_iff {a b : Record U} (ha : a.comparison = {}) :
    a.same b = true ↔ a.id = b.id ∨ a.schema.identifiers ≠ [] ∧
      ∀ p ∈ a.schema.identifiers, a.toContents.agree b.toContents p = true := by
  unfold same Contents.sameIdentifiers
  rw [ha]
  by_cases hid : a.id = b.id
  · simp [hid]
  · cases hidentifiers : a.schema.identifiers with
    | nil => simp [hid]
    | cons p ps => simp [hid]

theorem feed_of_ne_nil {a : Record U} (ha : a.comparison = {}) (hne : a.schema.identifiers ≠ []) :
    a.feed = a.schema.identifiers.flatMap a.feedIdentifier := by
  rw [feed, ha]
  exact if_neg (by simpa using hne)

theorem get_of_readsLike (hP : P.Lawful) {c : Contents U} {s : Schema U}
    (hc : Contents.Over P s c) (hs : P.Covers s) {p q : Property U} (hp : p.toDescriptor ∈ P)
    (hq : q.toDescriptor ∈ P) (h : p.ReadsLike q) {x : Option (Value U)} (hx : c.get p = .ok x) :
    c.get q = .ok x := by
  rcases h with rfl | ⟨hequal, hkind, hpathp, hpathq⟩
  · exact hx
  · obtain ⟨hmember, hvalue, hkinds⟩ := (Contents.get_eq_ok_iff hpathp).mp hx
    refine (Contents.get_eq_ok_iff hpathq).mpr ⟨?_, ?_, fun v hv => (hkinds v hv).trans hkind⟩
    · rw [Contents.contains, hc.schema_eq] at hmember ⊢
      rw [← Schema.contains_congr hP hs hp hq hequal]
      exact hmember
    · rw [← hc.get?_congr hP hp hq hequal]
      exact hvalue

theorem agree_of_readsLike (hP : P.Lawful) {a b : Record U} (ha : a.Reached P 𝒮)
    (hb : b.Reached P 𝒮) (hcovers : ∀ s, 𝒮 s → P.Covers s) {p q : Property U}
    (hp : p.toDescriptor ∈ P) (hq : q.toDescriptor ∈ P) (h : p.ReadsLike q)
    (hagree : a.toContents.agree b.toContents p = true) :
    a.toContents.agree b.toContents q = true := by
  obtain ⟨x, y, hx, hy, hxy⟩ := Contents.agree_iff.mp hagree
  have hgeta := get_of_readsLike hP ha.reachable.over (hcovers _ ha.schema) hp hq h hx
  have hgetb := get_of_readsLike hP hb.reachable.over (hcovers _ hb.schema) hp hq h hy
  exact Contents.agree_iff.mpr ⟨x, y, hgeta, hgetb, hxy⟩

theorem aligned_of_same (h : ∀ s t, 𝒮 s → 𝒮 t → s.Aligned t ∨ s.Apart t) {a b : Record U}
    (ha : a.Reached P 𝒮) (hb : b.Reached P 𝒮) (hne : a.schema.identifiers ≠ [])
    (hagree : ∀ p ∈ a.schema.identifiers, a.toContents.agree b.toContents p = true) :
    a.schema.Aligned b.schema := by
  rcases h _ _ ha.schema hb.schema with haligned | hnil | ⟨p, hp, hmember⟩
  · exact haligned
  · exact absurd hnil hne
  · obtain ⟨x, y, hx, hy, hxy⟩ := Contents.agree_iff.mp (hagree p hp)
    have hcontains := Contents.contains_of_get hy
    rw [Contents.contains, hmember] at hcontains
    cases hcontains

theorem symm_of_aligned (hP : P.Lawful) (hU : U.Lawful)
    (hcovers : ∀ s, 𝒮 s → P.Covers s) (h : ∀ s t, 𝒮 s → 𝒮 t → s.Aligned t ∨ s.Apart t)
    {a b : Record U} (ha : a.Reached P 𝒮) (hb : b.Reached P 𝒮) (hab : a.same b = true) :
    b.same a = true := by
  rcases (same_iff ha.comparison).mp hab with hid | ⟨hne, hagree⟩
  · exact (same_iff hb.comparison).mpr (Or.inl hid.symm)
  · have haligned := aligned_of_same h ha hb hne hagree
    refine (same_iff hb.comparison).mpr (Or.inr ⟨haligned.ne_nil hne, ?_⟩)
    intro q hq
    obtain ⟨p, hp, hpq⟩ := exists_of_forall₂ haligned.flip hq
    have hpP := (hcovers _ ha.schema).identifiers p hp
    have hqP := (hcovers _ hb.schema).identifiers q hq
    exact Contents.agree_symm hU
      (agree_of_readsLike hP ha hb hcovers hpP hqP hpq (hagree p hp))

theorem trans_of_aligned (hP : P.Lawful) (hU : U.Lawful)
    (hcovers : ∀ s, 𝒮 s → P.Covers s) (h : ∀ s t, 𝒮 s → 𝒮 t → s.Aligned t ∨ s.Apart t)
    {a b c : Record U} (ha : a.Reached P 𝒮) (hb : b.Reached P 𝒮) (hc : c.Reached P 𝒮)
    (hida : a.id = b.id → a = b) (hidb : b.id = c.id → b = c) (hab : a.same b = true)
    (hbc : b.same c = true) : a.same c = true := by
  rcases (same_iff ha.comparison).mp hab with hid | ⟨hne, hagree⟩
  · exact (hida hid).symm ▸ hbc
  rcases (same_iff hb.comparison).mp hbc with hid | ⟨-, hagree'⟩
  · exact hidb hid ▸ hab
  have haligned := aligned_of_same h ha hb hne hagree
  refine (same_iff ha.comparison).mpr (Or.inr ⟨hne, ?_⟩)
  intro p hp
  obtain ⟨q, hq, hpq⟩ := exists_of_forall₂ haligned hp
  have hpP := (hcovers _ ha.schema).identifiers p hp
  have hqP := (hcovers _ hb.schema).identifiers q hq
  have hqp := hpq.symm hP hpP hqP
  exact Contents.agree_trans hU (hagree p hp)
    (agree_of_readsLike hP hb hc hcovers hqP hpP hqp (hagree' q hq))

theorem feed_eq_of_aligned (hP : P.Lawful) (hU : U.Lawful)
    (hcovers : ∀ s, 𝒮 s → P.Covers s) (h : ∀ s t, 𝒮 s → 𝒮 t → s.Aligned t ∨ s.Apart t)
    {a b : Record U} (ha : a.Reached P 𝒮) (hb : b.Reached P 𝒮) (hida : a.id = b.id → a = b)
    (hab : a.same b = true) : a.feed = b.feed := by
  rcases (same_iff ha.comparison).mp hab with hid | ⟨hne, hagree⟩
  · rw [hida hid]
  · have haligned := aligned_of_same h ha hb hne hagree
    rw [feed_of_ne_nil ha.comparison hne, feed_of_ne_nil hb.comparison (haligned.ne_nil hne)]
    refine flatMap_eq_of_forall₂ haligned ?_
    intro p hp q hq hpq
    obtain ⟨x, y, hx, hy, hxy⟩ := Contents.agree_iff.mp (hagree p hp)
    have hy' := get_of_readsLike hP hb.reachable.over (hcovers _ hb.schema)
      ((hcovers _ ha.schema).identifiers p hp) ((hcovers _ hb.schema).identifiers q hq) hpq hy
    calc
      a.feedIdentifier p = Contents.feedOption x := Contents.feedIdentifier_of_get hx
      _ = Contents.feedOption y := Contents.feedOption_eq hU hxy
      _ = b.feedIdentifier q := (Contents.feedIdentifier_of_get hy').symm

def filled (s : Schema U) (id : Ident) (p : Property U) (x : Value U) : Record U :=
  { toContents := .holding s id p.toDescriptor x }

theorem reached_create {s : Schema U} (hs : 𝒮 s) (id : Ident) :
    (Record.create s id).Reached P 𝒮 :=
  ⟨rfl, hs, id, [], by simp, rfl⟩

theorem reached_filled {s : Schema U} (hs : 𝒮 s) (id : Ident) {p : Property U} {x : Value U}
    (hp : p.toDescriptor ∈ P) (hmember : s.contains p.toDescriptor = true)
    (hx : p.toDescriptor.Stores x) : (filled s id p x).Reached P 𝒮 :=
  ⟨rfl, hs, Contents.reachable_holding id hp hmember hx⟩

theorem get_create {s : Schema U} {id : Ident} {q : Property U}
    (hmember : s.contains q.toDescriptor = true) (hpath : q.isVirtual = false) :
    (Record.create s id).get q = .ok none :=
  Contents.get_of_path hmember hpath fun _ hv => nomatch hv

theorem get_filled (hP : P.Lawful) {s : Schema U} (id : Ident) {p q : Property U} {x : Value U}
    (hp : p.toDescriptor ∈ P) (hq : q.toDescriptor ∈ P)
    (hmember : s.contains q.toDescriptor = true) (hpath : q.isVirtual = false)
    (hkind : (q.toDescriptor == p.toDescriptor) = true → x.kind = q.kind) :
    (filled s id p x).get q =
      .ok (if q.toDescriptor == p.toDescriptor then some x else none) := by
  refine (Contents.get_eq_ok_iff hpath).mpr
    ⟨hmember, Contents.get?_holding hP hp hq s id x, fun w hw => ?_⟩
  split at hw
  · rename_i hqp
    exact Option.some.inj hw ▸ hkind hqp
  · cases hw

theorem feedIdentifier_filled (hP : P.Lawful) {s : Schema U} (id : Ident) {p q : Property U}
    {x : Value U} (hp : p.toDescriptor ∈ P) (hq : q.toDescriptor ∈ P)
    (hmember : s.contains q.toDescriptor = true) (hpath : q.isVirtual = false)
    (hkind : x.kind = p.kind) :
    (filled s id p x).feedIdentifier q =
      Contents.feedOption (if q.alike p then some x else none) := by
  unfold Property.alike
  by_cases hq' : (q.toDescriptor == p.toDescriptor) = true
  · by_cases hqp : q.kind = p.kind
    · have hget := get_filled hP id hp hq hmember hpath fun _ => hkind.trans hqp.symm
      rw [Contents.feedIdentifier_of_get hget, hq', decide_eq_true hqp, Bool.and_true]
    · have hvalue : (filled s id p x).values.get? q.toDescriptor = some x := by
        rw [filled, Contents.get?_holding hP hp hq, if_pos hq']
      obtain ⟨e, he⟩ := Contents.get_of_kind_ne hpath hvalue fun h => hqp (h.symm.trans hkind)
      rw [Contents.feedIdentifier, he, decide_eq_false hqp, Bool.and_false,
        if_neg Bool.false_ne_true]
      rfl
  · have hget := get_filled hP (x := x) id hp hq hmember hpath fun h => absurd h hq'
    rw [Contents.feedIdentifier_of_get hget, Bool.eq_false_iff.mpr hq', Bool.false_and]

theorem map_eq_of_flatMap_eq {α : Type} {v : Value U} {f g : α → Bool} {xs ys : List α}
    (hlength : xs.length = ys.length)
    (h : xs.flatMap (fun x => Contents.feedOption (if f x then some v else none)) =
      ys.flatMap (fun y => Contents.feedOption (if g y then some v else none))) :
    xs.map f = ys.map g := by
  induction xs generalizing ys with
  | nil =>
      cases ys with
      | nil => rfl
      | cons y ys => cases hlength
  | cons x xs ih =>
      cases ys with
      | nil => cases hlength
      | cons y ys =>
          simp only [List.length_cons, Nat.add_right_cancel_iff] at hlength
          simp only [List.flatMap_cons] at h
          have hhead : f x = g y := by
            cases hx : f x <;> cases hy : g y <;>
              simp [hx, hy, Contents.feedOption] at h ⊢
          rw [hhead] at h
          have htail := ih hlength (List.append_cancel_left h)
          rw [List.map_cons, List.map_cons, hhead, htail]

theorem length_flatMap_none {α : Type} (xs : List α) :
    (xs.flatMap fun _ => Contents.feedOption (none : Option (Value U))).length = xs.length := by
  induction xs with
  | nil => rfl
  | cons x xs ih =>
      rw [List.flatMap_cons, List.length_append, ih, List.length_cons, Nat.add_comm]
      rfl

theorem forall₂_of_map_eq {α : Type} {r : α → α → Bool} {xs ys : List α}
    (hrefl : ∀ x ∈ xs, r x x = true) (hlength : xs.length = ys.length)
    (h : ∀ p ∈ xs, xs.map (r · p) = ys.map (r · p)) :
    List.Forall₂ (fun x y => r y x = true) xs ys := by
  induction xs generalizing ys with
  | nil =>
      cases ys with
      | nil => exact .nil
      | cons y ys => cases hlength
  | cons x xs ih =>
      cases ys with
      | nil => cases hlength
      | cons y ys =>
          simp only [List.length_cons, Nat.add_right_cancel_iff] at hlength
          have hhead : r x x = r y x := (List.cons.inj (h x List.mem_cons_self)).1
          have htail : ∀ p ∈ xs, xs.map (r · p) = ys.map (r · p) := fun p hp =>
            (List.cons.inj (h p (List.mem_cons_of_mem _ hp))).2
          refine .cons (hhead ▸ hrefl x List.mem_cons_self) (ih ?_ hlength htail)
          exact fun x' hx' => hrefl x' (List.mem_cons_of_mem _ hx')

theorem feed_eq_flatMap {r : Record U} (hr : r.comparison = {}) (hne : r.schema.identifiers ≠ [])
    {f : Property U → Option (Value U)}
    (hfeed : ∀ q ∈ r.schema.identifiers, r.feedIdentifier q = Contents.feedOption (f q)) :
    r.feed = r.schema.identifiers.flatMap fun q => Contents.feedOption (f q) := by
  rw [feed_of_ne_nil hr hne]
  refine flatMap_eq_of_forall₂ (List.forall₂_same.mpr fun q _ => rfl) ?_
  rintro q hq _ _ rfl
  exact hfeed q hq

theorem same_of_get (hU : U.Lawful) {a b : Record U} (ha : a.comparison = {})
    (hne : a.schema.identifiers ≠ []) {f : Property U → Option (Value U)}
    (hgeta : ∀ q ∈ a.schema.identifiers, a.get q = .ok (f q))
    (hgetb : ∀ q ∈ a.schema.identifiers, b.get q = .ok (f q)) : a.same b = true :=
  (same_iff ha).mpr <| Or.inr ⟨hne, fun q hq =>
    Contents.agree_iff.mpr ⟨_, _, hgeta q hq, hgetb q hq, sameOption_refl hU _⟩⟩

theorem ComparesLawfully.aligned (L : ComparesLawfully P 𝒮) (hP : P.Lawful)
    (hU : U.Lawful) (hcovers : ∀ s, 𝒮 s → P.Covers s)
    (hproper : ∀ s, 𝒮 s → s.Proper)
    (hstorable : ∀ s, 𝒮 s → ∀ p ∈ s.identifiers, p.toDescriptor.Storable)
    {s t : Schema U} (hs : 𝒮 s) (ht : 𝒮 t) (hne : s.identifiers ≠ [])
    (hmember : ∀ p ∈ s.identifiers, t.contains p.toDescriptor = true) : s.Aligned t := by
  have hids : (⟨0⟩ : Ident) ≠ ⟨1⟩ := by decide
  have hpaths : ∀ p ∈ s.identifiers, p.isVirtual = false := fun p hp =>
    (hstorable s hs p hp).elim fun _ hx => hx.path
  have hpatht : ∀ q ∈ t.identifiers, q.isVirtual = false := fun q hq =>
    (hstorable t ht q hq).elim fun _ hx => hx.path
  have hgets : ∀ q ∈ s.identifiers, (Record.create s ⟨0⟩).get q = .ok none :=
    fun q hq => get_create ((hproper s hs).marked q hq) (hpaths q hq)
  have hempty : (Record.create s ⟨0⟩).same (Record.create t ⟨1⟩) = true :=
    same_of_get hU rfl hne hgets fun q hq => get_create (hmember q hq) (hpaths q hq)
  have hreached := reached_create (P := P) hs ⟨0⟩
  have hreached' := reached_create (P := P) ht ⟨1⟩
  have hback := L.symm hreached hreached' hempty
  obtain ⟨hne', hagree'⟩ : t.identifiers ≠ [] ∧ ∀ q ∈ t.identifiers,
      (Record.create t ⟨1⟩).agree (Record.create s ⟨0⟩).toContents q = true :=
    ((same_iff rfl).mp hback).resolve_left fun h => hids h.symm
  have hgett : ∀ q ∈ t.identifiers, (Record.create t ⟨1⟩).get q = .ok none :=
    fun q hq => get_create ((hproper t ht).marked q hq) (hpatht q hq)
  have hlength : s.identifiers.length = t.identifiers.length := by
    have hfeed := L.feed_eq hreached hreached' (absurd · hids) hempty
    rw [feed_eq_flatMap rfl hne fun q hq => Contents.feedIdentifier_of_get (hgets q hq),
      feed_eq_flatMap rfl hne' fun q hq => Contents.feedIdentifier_of_get (hgett q hq)] at hfeed
    have hlengths := congrArg List.length hfeed
    rw [length_flatMap_none, length_flatMap_none] at hlengths
    exact hlengths
  -- a value under one identifier shows where its place is
  have hplaces : ∀ p ∈ s.identifiers,
      s.identifiers.map (·.alike p) = t.identifiers.map (·.alike p) := by
    intro p hp
    obtain ⟨x, hx⟩ := hstorable s hs p hp
    have hpP := (hcovers s hs).identifiers p hp
    have ha := reached_filled hs ⟨0⟩ hpP ((hproper s hs).marked p hp) hx
    have hb := reached_filled ht ⟨1⟩ hpP (hmember p hp) hx
    have hkind : ∀ q ∈ s.identifiers, (q.toDescriptor == p.toDescriptor) = true →
        x.kind = q.kind := by
      intro q hq hqp
      rw [(hproper s hs).eq_of_identifiers hP (hcovers s hs) hq hp hqp]
      exact hx.kind
    have hsame : (filled s ⟨0⟩ p x).same (filled t ⟨1⟩ p x) = true :=
      same_of_get hU rfl hne
        (fun q hq => get_filled hP ⟨0⟩ hpP ((hcovers s hs).identifiers q hq)
          ((hproper s hs).marked q hq) (hpaths q hq) (hkind q hq))
        fun q hq => get_filled hP ⟨1⟩ hpP ((hcovers s hs).identifiers q hq) (hmember q hq)
          (hpaths q hq) (hkind q hq)
    have hfeed := L.feed_eq ha hb (absurd · hids) hsame
    rw [feed_eq_flatMap rfl hne fun q hq => feedIdentifier_filled hP ⟨0⟩ hpP
        ((hcovers s hs).identifiers q hq) ((hproper s hs).marked q hq) (hpaths q hq) hx.kind,
      feed_eq_flatMap rfl hne' fun q hq => feedIdentifier_filled hP ⟨1⟩ hpP
        ((hcovers t ht).identifiers q hq) ((hproper t ht).marked q hq) (hpatht q hq) hx.kind]
      at hfeed
    exact map_eq_of_flatMap_eq hlength hfeed
  have hself : ∀ p ∈ s.identifiers, p.alike p = true := by
    intro p hp
    rw [Property.alike, hP.equivAmong.refl ((hcovers s hs).identifiers p hp), decide_eq_true rfl]
    rfl
  have halike := forall₂_of_map_eq hself hlength hplaces
  refine List.forall₂_iff_zip.mpr ⟨hlength, ?_⟩
  intro p q hpq
  obtain ⟨hp, hq⟩ := List.of_mem_zip hpq
  obtain ⟨hqp, hkind⟩ := Bool.and_eq_true_iff.mp (List.forall₂_zip halike hpq)
  have hpq' := hP.equivAmong.symm ((hcovers t ht).identifiers q hq)
    ((hcovers s hs).identifiers p hp) hqp
  exact Or.inr ⟨hpq', (of_decide_eq_true hkind).symm, hpaths p hp, hpatht q hq⟩

/-- Among the records of some schemas, equality is an equivalence that equal hashes go with if any
two of the schemas have the same identifiers or are apart. For schemas whose identifiers are path
properties that can store a value, this is necessary too. -/
theorem comparesLawfully_aligned_or_apart (hP : P.Lawful)
    (hU : U.Lawful) (hcovers : ∀ s, 𝒮 s → P.Covers s) :
    ((∀ s t, 𝒮 s → 𝒮 t → s.Aligned t ∨ s.Apart t) → ComparesLawfully P 𝒮) ∧
      ((∀ s, 𝒮 s → s.Proper ∧ ∀ p ∈ s.identifiers, p.toDescriptor.Storable) →
        ComparesLawfully P 𝒮 → ∀ s t, 𝒮 s → 𝒮 t → s.Aligned t ∨ s.Apart t) := by
  constructor
  · intro h
    refine ⟨?_, ?_, ?_⟩
    · intro a b ha hb hab
      exact symm_of_aligned hP hU hcovers h ha hb hab
    · intro a b c ha hb hc hida hidb hab hbc
      exact trans_of_aligned hP hU hcovers h ha hb hc hida hidb hab hbc
    · intro a b ha hb hida hab
      exact feed_eq_of_aligned hP hU hcovers h ha hb hida hab
  · intro hgood L s t hs ht
    by_cases hapart : s.Apart t
    · exact Or.inr hapart
    · left
      simp only [Schema.Apart, not_or, not_exists, not_and, Bool.not_eq_false] at hapart
      exact L.aligned hP hU hcovers (fun s hs => (hgood s hs).1)
        (fun s hs => (hgood s hs).2) hs ht hapart.1 hapart.2

open Sample in
theorem comparesLawfully_count_tallied :
    ComparesLawfully population
        (fun s => s = { members := [count, title], identifiers := [count] } ∨
          s = { members := [tallied], identifiers := [tallied] }) ∧
      ¬ComparesLawfully population
        (fun s => s = { members := [title] } ∨
          s = { members := [title], identifiers := [title] }) := by
  constructor
  · refine (comparesLawfully_aligned_or_apart Population.ofList_lawful kinds_lawful ?_).1 ?_
    · rintro s (rfl | rfl)
      · exact covers (by simp [properties]) (by simp [properties])
      · exact covers (by simp [properties]) (by simp [properties])
    · rintro s t (rfl | rfl) (rfl | rfl)
      · exact Or.inl (.cons (Or.inl rfl) .nil)
      · exact Or.inl (.cons (Or.inr ⟨rfl, rfl, rfl, rfl⟩) .nil)
      · exact Or.inl (.cons (Or.inr ⟨rfl, rfl, rfl, rfl⟩) .nil)
      · exact Or.inl (.cons (Or.inl rfl) .nil)
  · intro L
    have hclosed := (comparesLawfully_aligned_or_apart Population.ofList_lawful kinds_lawful
      ?_).2 ?_ L _ _ (Or.inr rfl) (Or.inl rfl)
    · rcases hclosed with haligned | hnil | ⟨p, hp, hmember⟩
      · cases haligned
      · cases hnil
      · rw [List.mem_singleton.mp hp] at hmember
        cases hmember
    · rintro s (rfl | rfl)
      · exact covers (by simp [properties]) (by simp)
      · exact covers (by simp [properties]) (by simp [properties])
    · have hstorable : title.toDescriptor.Storable :=
        ⟨text "", rfl, rfl, _, .plain _ fun c hc => nomatch hc⟩
      rintro s (rfl | rfl)
      · exact ⟨⟨by simp, .nil, by simp⟩, by simp⟩
      · refine ⟨⟨by simp, by simp, ?_⟩, ?_⟩
        · intro p hp
          rw [List.mem_singleton.mp hp]
          rfl
        · intro p hp
          rw [List.mem_singleton.mp hp]
          exact hstorable

open Sample in
/-- The empty record of a schema with an identifier equals that of a schema without, which does not
equal it and hashes differently. -/
theorem same_title_unmarked :
    (Record.create { members := [title], identifiers := [title] } ⟨1⟩).same
        (Record.create { members := [title] } ⟨0⟩) = true ∧
      (Record.create { members := [title] } ⟨0⟩).same
        (Record.create { members := [title], identifiers := [title] } ⟨1⟩) = false ∧
      (Record.create { members := [title], identifiers := [title] } ⟨1⟩).feed ≠
        (Record.create { members := [title] } ⟨0⟩).feed := by
  refine ⟨rfl, rfl, ?_⟩
  decide

end Record

end TypedRecords
