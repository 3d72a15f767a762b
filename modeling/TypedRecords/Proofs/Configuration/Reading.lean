import TypedRecords.Configuration
import TypedRecords.Proofs.Collection.Merging
import TypedRecords.Proofs.Configuration.History

/-!
Configurations are made one after the other, each from an earlier one by calls that may merge
others.
-/

namespace TypedRecords.Configuration

variable {U : Universe}

/-- The keys are distinct, and under each of them is what its last change left. -/
structure Records (changes : List (Change U)) (c : Configuration U) : Prop where
  distinct : c.parameters.Distinct
  get?_eq : ∀ key, c.parameters.get? key = Change.left changes key

section

variable {changes later : List (Change U)} {c other : Configuration U}

theorem records_empty : Records ([] : List (Change U)) .empty :=
  ⟨Table.distinct_empty, fun _ => rfl⟩

theorem Records.update (hc : Records changes c) (change : Change U) :
    Records (changes ++ [change]) ⟨c.parameters.update change.key change.value?⟩ := by
  refine ⟨hc.distinct.update .of_lawful c.parameters.keysIn_true trivial _, fun key => ?_⟩
  rw [Table.get?_update .of_lawful c.parameters.keysIn_true trivial trivial, hc.get?_eq,
    Change.left_concat]

theorem Records.set (hc : Records changes c) (key : String) (v : Value U) :
    Records (changes ++ [.write key v]) (c.set key v) :=
  hc.update (.write key v)

theorem Records.remove (hc : Records changes c) (key : String) :
    Records (changes ++ [.remove key]) (c.remove key) :=
  hc.update (.remove key)

theorem Records.merge (hc : Records changes c) (hother : Records later other) :
    Records (changes ++ Change.inForce later) (c.merge other) := by
  refine ⟨hc.distinct.insertAll other.parameters, fun key => ?_⟩
  rw [Configuration.merge, Table.get?_insertAll _ hother.distinct, hother.get?_eq, hc.get?_eq,
    Change.left_append_inForce]

/-- All readers of a configuration agree on what the last change of each key left. -/
structure ReadsAs (changes : List (Change U)) (c : Configuration U) : Prop where
  get_eq_none_iff : ∀ p, c.get p = .ok none ↔ Change.LeavesNothing changes p.key
  get_eq_some_iff : ∀ p x, c.get p = .ok (some x) ↔ Change.Leaves changes p.key ⟨p.kind, x⟩
  get_eq_error_iff : ∀ p e, c.get p = .error e ↔ ∃ v, Change.Leaves changes p.key v ∧
    v.kind ≠ p.kind ∧ e = .typeMismatch p.key (U.name p.kind) (U.name v.kind)
  has_iff : ∀ key, c.has key = true ↔ ∃ v, Change.Leaves changes key v
  hasValue_iff : ∀ p x, c.hasValue p x = true ↔
    ∃ y, c.get p = .ok (some y) ∧ U.same p.kind y x = true
  hasValue_iff_get : ∀ p, (∀ x y, U.same p.kind x y = true ↔ x = y) →
    ∀ x, c.hasValue p x = true ↔ c.get p = .ok (some x)
  getOr_eq_ok_iff : ∀ p fallback x, c.getOr p fallback = .ok x ↔
    c.get p = .ok (some x) ∨ c.get p = .ok none ∧ x = fallback
  getOr_eq_error_iff : ∀ p fallback e, c.getOr p fallback = .error e ↔ c.get p = .error e
  nodup_keys : c.keys.Nodup
  mem_keys_iff : ∀ key, key ∈ c.keys ↔ c.has key = true
  size_eq : c.size = c.keys.length

section Readers

variable {p : Parameter U}

theorem get_cases (c : Configuration U) (p : Parameter U) :
    (c.parameters.get? p.key = none ∧ c.get p = .ok none) ∨
      (∃ x, c.parameters.get? p.key = some ⟨p.kind, x⟩ ∧ c.get p = .ok (some x)) ∨
      ∃ v, c.parameters.get? p.key = some v ∧ v.kind ≠ p.kind ∧
        c.get p = .error (.typeMismatch p.key (U.name p.kind) (U.name v.kind)) := by
  cases hfound : c.parameters.get? p.key with
  | none => exact .inl ⟨rfl, by simp only [get, hfound]⟩
  | some v =>
      right
      cases hread : v.as? p.kind with
      | none =>
          have hkind : v.kind ≠ p.kind := fun h => by
            rw [← h, Value.as?_self] at hread
            cases hread
          exact .inr ⟨v, rfl, hkind, by simp only [get, hfound, hread, Value.typeName]⟩
      | some x =>
          have hv := Value.eq_mk_of_as? hread
          exact .inl ⟨x, congrArg some hv, by simp only [get, hfound, hread]⟩

theorem get_eq_none_iff : c.get p = .ok none ↔ c.parameters.get? p.key = none := by
  rcases c.get_cases p with ⟨hfound, hget⟩ | ⟨x, hfound, hget⟩ | ⟨v, hfound, -, hget⟩ <;>
    simp [hfound, hget]

theorem get_eq_some_iff {x : U.El p.kind} :
    c.get p = .ok (some x) ↔ c.parameters.get? p.key = some ⟨p.kind, x⟩ := by
  rcases c.get_cases p with ⟨hfound, hget⟩ | ⟨y, hfound, hget⟩ | ⟨v, hfound, hkind, hget⟩
  · simp [hfound, hget]
  · simp [hfound, hget]
  · rw [hfound, hget]
    refine iff_of_false nofun fun h => hkind ?_
    rw [Option.some.inj h]

theorem get_eq_error_iff {e : ConfigurationError} :
    c.get p = .error e ↔ ∃ v, c.parameters.get? p.key = some v ∧ v.kind ≠ p.kind ∧
      e = .typeMismatch p.key (U.name p.kind) (U.name v.kind) := by
  rcases c.get_cases p with ⟨hfound, hget⟩ | ⟨x, hfound, hget⟩ | ⟨v, hfound, hkind, hget⟩
  · simp [hfound, hget]
  · simp [hfound, hget]
  · simp [hfound, hget, hkind, eq_comm]

theorem hasValue_iff {x : U.El p.kind} : c.hasValue p x = true ↔
    ∃ y, c.get p = .ok (some y) ∧ U.same p.kind y x = true := by
  rw [hasValue]
  rcases c.get_cases p with ⟨hfound, hget⟩ | ⟨y, hfound, hget⟩ | ⟨v, hfound, hkind, hget⟩
  · simp [hfound, hget]
  · have hread : Value.as? p.kind ⟨p.kind, y⟩ = some y := Value.as?_self ⟨p.kind, y⟩
    simp [hfound, hget, hread]
  · simp [hfound, hget, Value.as?_eq_none hkind]

theorem getOr_eq_ok_iff {fallback x : U.El p.kind} : c.getOr p fallback = .ok x ↔
    c.get p = .ok (some x) ∨ c.get p = .ok none ∧ x = fallback := by
  rw [getOr]
  rcases c.get p with e | _ | y <;> simp [Except.map, eq_comm]

theorem getOr_eq_error_iff {fallback : U.El p.kind} {e : ConfigurationError} :
    c.getOr p fallback = .error e ↔ c.get p = .error e := by
  rw [getOr]
  cases c.get p <;> simp [Except.map]

end Readers

theorem mem_keys_iff (hc : c.parameters.Distinct) {key : String} :
    key ∈ c.keys ↔ c.has key = true := by
  rw [keys, List.mem_mergeSort, has, Table.contains, Option.isSome_iff_exists]
  constructor
  · intro hkey
    obtain ⟨entry, hentry, rfl⟩ := List.mem_map.mp hkey
    exact ⟨entry.2, hc.get?_of_mem .of_lawful c.parameters.keysIn_true hentry trivial BEq.rfl⟩
  · rintro ⟨v, hv⟩
    obtain ⟨entry, hentry, hequal, -⟩ := Table.exists_entry_of_get? hv
    exact List.mem_map.mpr ⟨entry, hentry, (beq_iff_eq.mp hequal).symm⟩

theorem nodup_keys (hc : c.parameters.Distinct) : c.keys.Nodup := by
  rw [keys, (List.mergeSort_perm _ _).nodup_iff]
  exact hc.keys.imp fun h => beq_eq_false_iff_ne.mp h

theorem Records.readsAs (hc : Records changes c) : ReadsAs changes c where
  get_eq_none_iff p := by
    rw [get_eq_none_iff, hc.get?_eq, Change.leavesNothing_iff]
  get_eq_some_iff p x := by
    rw [get_eq_some_iff, hc.get?_eq, Change.leaves_iff]
  get_eq_error_iff p e := by
    simp only [get_eq_error_iff, hc.get?_eq, Change.leaves_iff]
  has_iff key := by
    rw [has, Table.contains, hc.get?_eq, Option.isSome_iff_exists]
    simp only [Change.leaves_iff]
  hasValue_iff p x := hasValue_iff
  hasValue_iff_get p hidentity x := by
    rw [hasValue_iff]
    constructor
    · rintro ⟨y, hget, hsame⟩
      rwa [(hidentity y x).mp hsame] at hget
    · intro hget
      exact ⟨x, hget, (hidentity x x).mpr rfl⟩
  getOr_eq_ok_iff p fallback x := getOr_eq_ok_iff
  getOr_eq_error_iff p fallback e := getOr_eq_error_iff
  nodup_keys := nodup_keys hc.distinct
  mem_keys_iff key := mem_keys_iff hc.distinct
  size_eq := by
    rw [keys, List.length_mergeSort, Table.keys, List.length_map, size]

end

/-- A call on a builder. The configuration that is merged is known by its place among those made
before; at a place behind them stands the empty one. -/
inductive Call (U : Universe) where
  | set (key : String) (v : Value U)
  | merge (place : Nat)
  | remove (key : String)

structure Derivation (U : Universe) where
  place : Nat
  calls : List (Call U)

def Call.apply (made : List (Configuration U)) (c : Configuration U) : Call U → Configuration U
  | .set key v => c.set key v
  | .merge place => c.merge (made.getD place .empty)
  | .remove key => c.remove key

def Call.changes (histories : List (List (Change U))) : Call U → List (Change U)
  | .set key v => [.write key v]
  | .merge place => Change.inForce (histories.getD place [])
  | .remove key => [.remove key]

def Derivation.result (made : List (Configuration U)) (d : Derivation U) : Configuration U :=
  d.calls.foldl (Call.apply made) (made.getD d.place .empty)

def Derivation.changes (histories : List (List (Change U))) (d : Derivation U) :
    List (Change U) :=
  histories.getD d.place [] ++ d.calls.flatMap (Call.changes histories)

/-- The configurations that are made by derivations one after the other. -/
def made (ds : List (Derivation U)) : List (Configuration U) :=
  ds.foldl (fun made d => made ++ [d.result made]) []

/-- The changes that lead to each of the configurations. -/
def histories (ds : List (Derivation U)) : List (List (Change U)) :=
  ds.foldl (fun histories d => histories ++ [d.changes histories]) []

variable {cs : List (Configuration U)} {hs : List (List (Change U))} {changes : List (Change U)}
  {c : Configuration U}

theorem records_getD (h : List.Forall₂ Records hs cs) (place : Nat) :
    Records (hs.getD place []) (cs.getD place .empty) := by
  induction h generalizing place with
  | nil => exact records_empty
  | cons hfirst _ ih =>
      cases place with
      | zero => exact hfirst
      | succ place => exact ih place

theorem Records.apply (h : List.Forall₂ Records hs cs) (hc : Records changes c) (call : Call U) :
    Records (changes ++ call.changes hs) (call.apply cs c) := by
  cases call with
  | set key v => exact hc.set key v
  | merge place => exact hc.merge (records_getD h place)
  | remove key => exact hc.remove key

theorem Records.applyAll (h : List.Forall₂ Records hs cs) (hc : Records changes c)
    (calls : List (Call U)) :
    Records (changes ++ calls.flatMap (Call.changes hs)) (calls.foldl (Call.apply cs) c) := by
  induction calls generalizing changes c with
  | nil => simpa using hc
  | cons call calls ih =>
      rw [List.flatMap_cons, ← List.append_assoc]
      exact ih (hc.apply h call)

theorem made_concat (ds : List (Derivation U)) (d : Derivation U) :
    made (ds ++ [d]) = made ds ++ [d.result (made ds)] := by
  rw [made, List.foldl_concat]
  rfl

theorem histories_concat (ds : List (Derivation U)) (d : Derivation U) :
    histories (ds ++ [d]) = histories ds ++ [d.changes (histories ds)] := by
  rw [histories, List.foldl_concat]
  rfl

theorem records_made (ds : List (Derivation U)) :
    List.Forall₂ Records (histories ds) (made ds) := by
  induction ds using List.reverseRecOn with
  | nil => exact .nil
  | append_singleton ds d ih =>
      rw [histories_concat, made_concat]
      exact List.rel_append ih (.cons ((records_getD ih d.place).applyAll ih d.calls) .nil)

theorem made_prefix (ds later : List (Derivation U)) : made ds <+: made (ds ++ later) := by
  induction later using List.reverseRecOn with
  | nil => simp only [List.append_nil, List.prefix_rfl]
  | append_singleton later d ih =>
      rw [← List.append_assoc, made_concat]
      exact ih.trans (List.prefix_append _ _)

/-- The last write of a key wins in every configuration that is made, and making further ones from
it changes nothing of it. -/
structure LastWriteWins (ds : List (Derivation U)) : Prop where
  readsAs : List.Forall₂ ReadsAs (histories ds) (made ds)
  unchanged : ∀ later, made ds <+: made (ds ++ later)
  /-- To merge a configuration is to write what the last change of each of its keys wrote. -/
  mem_inForce_iff : ∀ (changes : List (Change U)) change, change ∈ Change.inForce changes ↔
    ∃ v, change = .write change.key v ∧ Change.Leaves changes change.key v

theorem lastWriteWins (ds : List (Derivation U)) : LastWriteWins ds where
  readsAs := (records_made ds).imp fun _ _ h => h.readsAs
  unchanged := made_prefix ds
  mem_inForce_iff _ _ := Change.mem_inForce_iff

end TypedRecords.Configuration
