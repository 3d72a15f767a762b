import TypedRecords.Proofs.Collection.Merging
import TypedRecords.Proofs.Schema.Building

namespace TypedRecords

variable {U : Universe} {P : Descriptor U → Prop}

namespace Configuration

variable {c c' : Configuration U}

theorem get_eq_of_lookup {p : Parameter U}
    (h : c.parameters.get? p.key = c'.parameters.get? p.key) : c.get p = c'.get p := by
  rw [get, get, h]

theorem lookup_merge (c : Configuration U) (hc' : c'.parameters.Distinct) (key : String) :
    (c.merge c').parameters.get? key =
      if c'.has key then c'.parameters.get? key else c.parameters.get? key := by
  rw [merge, Table.get?_insertAll _ hc', has, Table.contains]
  cases c'.parameters.get? key <;> rfl

end Configuration

namespace Schema

open Change

variable {ms is ms' is' ms'' is'' : List (Change U)} {a b c : Schema U}

theorem equivAmong_properties (hP : EquivAmong P) :
    EquivAmong fun p : Property U => P p.toDescriptor where
  refl ha := hP.refl ha
  symm ha hb := hP.symm ha hb
  trans ha hb hc := hP.trans ha hb hc

theorem Built.distinctIdentifiers (h : Built P ms is a) : Distinct a.identifiers :=
  h.identifiers_eq ▸ distinct_result is

theorem Built.distinctParameters (h : Built P ms is a) : a.configuration.parameters.Distinct := by
  induction h with
  | empty => exact Table.distinct_empty
  | add before hp ih => exact ih
  | addAll before hps ih =>
      rw [addAll_eq]
      exact ih
  | addSchema before other ih ih' => exact ih.insertAll _
  | remove before hd ih => exact ih
  | mark before hp marked ih =>
      obtain ⟨-, rfl⟩ := mark_eq_ok_iff.mp marked
      exact ih
  | markAll before hps marked ih =>
      obtain ⟨-, rfl⟩ := markAll_eq_ok_iff.mp marked
      exact ih
  | withParameter before key v ih => exact ih.insert key v
  | copy before ih => exact Table.distinct_empty.insertAll _

theorem ext {a b : Schema U} (hmembers : a.members = b.members)
    (hidentifiers : a.identifiers = b.identifiers)
    (hparameters : a.configuration.parameters = b.configuration.parameters) : a = b := by
  obtain ⟨members, identifiers, ⟨parameters⟩⟩ := a
  obtain ⟨members', identifiers', ⟨parameters'⟩⟩ := b
  simp only at hmembers hidentifiers hparameters
  rw [hmembers, hidentifiers, hparameters]

theorem Built.copy_eq (h : Built P ms is a) : a.copy = a :=
  ext h.copy_members h.copy_identifiers h.distinctParameters.empty_insertAll

theorem Built.join_eq_addSchema (h : Built P ms is a) (b : Schema U) :
    a.join b = a.addSchema b := by
  rw [Schema.join, h.copy_eq]

theorem Built.members_join (hP : EquivAmong P) (ha : Built P ms is a) (hb : Built P ms' is' b) :
    (a.join b).members = orderedUnion a.members b.members := by
  rw [ha.join_eq_addSchema]
  exact foldl_appendNew_of_pairwise (equivAmong_properties hP) ha.members_within
    hb.members_within hb.distinct

theorem Built.identifiers_join (hP : EquivAmong P) (ha : Built P ms is a)
    (hb : Built P ms' is' b) :
    (a.join b).identifiers = orderedUnion a.identifiers b.identifiers := by
  rw [ha.join_eq_addSchema]
  exact foldl_appendNew_of_pairwise (equivAmong_properties hP) ha.identifiers_within
    hb.identifiers_within hb.distinctIdentifiers

theorem Built.configuration_join (ha : Built P ms is a) (b : Schema U) :
    (a.join b).configuration = a.configuration.merge b.configuration := by
  rw [ha.join_eq_addSchema]
  rfl

theorem Built.join_assoc (hP : EquivAmong P) (ha : Built P ms is a) (hb : Built P ms' is' b)
    (hc : Built P ms'' is'' c) : (a.join b).join c = a.join (b.join c) := by
  have hab := ha.join hb
  have hbc := hb.join hc
  refine ext ?_ ?_ ?_
  · rw [hab.members_join hP hc, ha.members_join hP hb, ha.members_join hP hbc,
      hb.members_join hP hc]
    exact orderedUnion_assoc (equivAmong_properties hP) ha.members_within hb.members_within
      hc.members_within
  · rw [hab.identifiers_join hP hc, ha.identifiers_join hP hb, ha.identifiers_join hP hbc,
      hb.identifiers_join hP hc]
    exact orderedUnion_assoc (equivAmong_properties hP) ha.identifiers_within
      hb.identifiers_within hc.identifiers_within
  · rw [hab.configuration_join, ha.configuration_join, ha.configuration_join,
      hb.configuration_join]
    exact ha.distinctParameters.insertAll_assoc hb.distinctParameters hc.distinctParameters

theorem Built.join_empty (ha : Built P ms is a) : a.join Schema.empty = a := by
  rw [ha.join_eq_addSchema]
  rfl

theorem Built.empty_join (ha : Built P ms is a) : Schema.empty.join a = a :=
  ha.copy_eq

theorem Built.join_self (hP : EquivAmong P) (ha : Built P ms is a) : a.join a = a := by
  refine ext ?_ ?_ ?_
  · rw [ha.members_join hP ha]
    exact orderedUnion_self (equivAmong_properties hP) ha.members_within
  · rw [ha.identifiers_join hP ha]
    exact orderedUnion_self (equivAmong_properties hP) ha.identifiers_within
  · rw [ha.configuration_join]
    exact ha.distinctParameters.insertAll_self

theorem Built.extend_eq_join (hP : EquivAmong P) (ha : Built P ms is a) {ps : List (Property U)}
    (hps : ∀ p ∈ ps, P p.toDescriptor) : a.extend ps = a.join (.of ps) := by
  have hof : (Schema.of ps).members = ps.foldl appendNew [] := by
    rw [Schema.of, addAll_eq]
    rfl
  rw [Schema.extend, ha.copy_eq, addAll_eq]
  refine ext ?_ ?_ ?_
  · rw [ha.members_join hP (.of hps), hof]
    exact foldl_appendNew (equivAmong_properties hP) ha.members_within hps
  · rw [ha.join_eq_addSchema, Schema.of, addAll_eq]
    rfl
  · rw [ha.configuration_join, Schema.of, addAll_eq]
    rfl

/-- A schema is the union of two others: what the first one has stands first and with its own
properties, and the parameters of the second win. -/
structure Joins (P : Descriptor U → Prop) (a b s : Schema U) : Prop where
  contains : ∀ d, P d → (s.contains d = true ↔ a.contains d = true ∨ b.contains d = true)
  members : s.members = a.members ++ b.members.filter fun p => !a.contains p.toDescriptor
  isIdentifier : ∀ d, P d →
    (s.isIdentifier d = true ↔ a.isIdentifier d = true ∨ b.isIdentifier d = true)
  identifiers : s.identifiers =
    a.identifiers ++ b.identifiers.filter fun p => !a.isIdentifier p.toDescriptor
  parameter : ∀ key, s.configuration.parameters.get? key =
    if b.configuration.has key then b.configuration.parameters.get? key
    else a.configuration.parameters.get? key
  get : ∀ p : Parameter U, s.configuration.get p =
    if b.configuration.has p.key then b.configuration.get p else a.configuration.get p

theorem Built.joins (hP : EquivAmong P) (ha : Built P ms is a) (hb : Built P ms' is' b) :
    Joins P a b (a.join b) where
  contains d hd := by
    rw [← Bool.or_eq_true, ← Bool.eq_iff_iff, ha.join_eq_addSchema]
    exact occurs_foldl_append hP ha.members_within hb.members_within hd
  members := ha.members_join hP hb
  isIdentifier d hd := by
    rw [← Bool.or_eq_true, ← Bool.eq_iff_iff, ha.join_eq_addSchema]
    exact occurs_foldl_append hP ha.identifiers_within hb.identifiers_within hd
  identifiers := ha.identifiers_join hP hb
  parameter key := by
    rw [ha.configuration_join]
    exact Configuration.lookup_merge _ hb.distinctParameters key
  get p := by
    have hlookup := Configuration.lookup_merge a.configuration hb.distinctParameters p.key
    rw [ha.configuration_join]
    split at hlookup
    · rename_i hhas
      rw [if_pos hhas, Configuration.get_eq_of_lookup hlookup]
    · rename_i hhas
      rw [if_neg hhas, Configuration.get_eq_of_lookup hlookup]

/-- Joining is an ordered union whose parameters are those of the second schema where it has them.
It is associative and idempotent, the empty schema is neutral, copying changes nothing, and
extending is joining with the schema of the new members. -/
theorem Built.join_laws (hP : EquivAmong P) (ha : Built P ms is a) (hb : Built P ms' is' b)
    (hc : Built P ms'' is'' c) {ps : List (Property U)} (hps : ∀ p ∈ ps, P p.toDescriptor) :
    Joins P a b (a.join b) ∧
      (a.join b).join c = a.join (b.join c) ∧
        (Schema.empty.join a = a ∧ a.join Schema.empty = a) ∧
          a.join a = a ∧ a.copy = a ∧ a.extend ps = a.join (.of ps) :=
  ⟨ha.joins hP hb, ha.join_assoc hP hb hc, ⟨ha.empty_join, ha.join_empty⟩, ha.join_self hP,
    ha.copy_eq, ha.extend_eq_join hP hps⟩

open Sample in
theorem join_laws_count_tallied :
    let a := (Schema.of [count]).withParameter "size" (number 1)
    let b := (Schema.of [tallied, title]).withParameter "size" (text "one")
    Joins (· ∈ population) a b (a.join b) ∧ (a.join b).members = [count, title] ∧
      (a.join b).configuration.get ⟨"size", Kind.text⟩ = .ok (some "one") ∧
        (a.join b).join a = a.join (b.join a) := by
  intro a b
  have hcount : ∀ p ∈ [count], p.toDescriptor ∈ population := by simp [count_mem]
  have hpair : ∀ p ∈ [tallied, title], p.toDescriptor ∈ population := by
    simp [tallied_mem, title_mem]
  have ha : Built (· ∈ population) _ _ a := .withParameter (.of hcount) _ _
  have hb : Built (· ∈ population) _ _ b := .withParameter (.of hpair) _ _
  obtain ⟨hjoins, hassoc, -⟩ :=
    Built.join_laws Population.ofList_lawful.equivAmong ha hb ha hpair
  exact ⟨hjoins, rfl, rfl, hassoc⟩

end Schema

end TypedRecords
