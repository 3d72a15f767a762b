import TypedRecords.Proofs.Collection.Distinct
import TypedRecords.Proofs.Record.Making
import TypedRecords.Proofs.Record.Reading
import TypedRecords.Proofs.Sample

namespace TypedRecords

variable {U : Universe} {P : Population U} {s t : Schema U}

/-- A write through the property stores the value as it is. -/
structure Descriptor.Returns (d : Descriptor U) (v : Value U) : Prop where
  path : d.isVirtual = false
  kind : v.kind = d.kind
  takes : d.Takes (some v) (some v)

namespace Contents

theorem write_of_returns {c : Contents U} {d : Descriptor U} {v : Value U}
    (hmember : c.contains d = true) (hv : d.Returns v) :
    c.write d (some v) true =
      if c.invalidAllowed = true then .ok (c.put d (some v))
      else
        match d.validate (some v) with
        | .ok _ => .ok (c.put d (some v))
        | .error e => .error (.validation e) := by
  have hkind : ∀ w, some v = some w → w.kind = d.kind := fun w hw => Option.some.inj hw ▸ hv.kind
  have hwritable : c.Writable d true := ⟨hmember, hv.path, fun _ => rfl⟩
  rw [write_eq_offer, accept_eq_ok_iff.mpr hv.takes, offer, checkWritable_eq_ok_iff.mpr hwritable]
  exact store_of_kind hkind

end Contents

namespace RecordDraft

def restore (entries : List (Property U × Value U)) : List (PendingWrite U) :=
  entries.map fun entry => ⟨entry.1.toDescriptor, some entry.2, true⟩

theorem get?_of_writeAll (hP : P.Lawful) {f : Descriptor U → Option (Value U)}
    (hf : ∀ a ∈ P, ∀ b ∈ P, (a == b) = true → f a = f b)
    {entries : List (Property U × Value U)}
    (hentries : ∀ entry ∈ entries, entry.1.toDescriptor ∈ P ∧
      entry.1.toDescriptor.Returns entry.2 ∧ f entry.1.toDescriptor = some entry.2)
    {c c' : Contents U} (hc : Contents.Over P t c) (h : writeAll c (restore entries) = .ok c')
    {q : Descriptor U} (hq : q ∈ P) :
    c'.schema = t ∧ c'.values.get? q =
      if entries.any (q == ·.1.toDescriptor) then f q else c.values.get? q := by
  induction entries generalizing c with
  | nil =>
      cases h
      exact ⟨hc.schema_eq, rfl⟩
  | cons entry entries ih =>
      obtain ⟨p, v⟩ := entry
      obtain ⟨hp, hreturns, hfp⟩ := hentries (p, v) List.mem_cons_self
      obtain ⟨c₁, hwrite, hrest⟩ := writeAll_cons_eq_ok_iff.mp h
      obtain ⟨-, x, htakes, -, rfl⟩ := Contents.write_eq_ok_iff.mp hwrite
      have hx : x = some v := htakes.unique hreturns.takes
      subst hx
      have hc₁ : Contents.Over P t (c.put p.toDescriptor (some v)) :=
        ⟨hc.schema_eq, hc.keys.update hp _⟩
      obtain ⟨hschema, hget⟩ :=
        ih (fun entry hentry => hentries entry (List.mem_cons_of_mem _ hentry)) hc₁ hrest
      refine ⟨hschema, ?_⟩
      rw [hget, hc.get?_put hP hp hq, List.any_cons]
      cases hqp : q == p.toDescriptor with
      | false => rw [Bool.false_or, if_neg Bool.false_ne_true]
      | true => rw [Bool.true_or, if_pos rfl, if_pos rfl, hf q hq _ hp hqp, hfp, ite_self]

theorem exists_write_of_writeAll_error {c : Contents U} {ws : List (PendingWrite U)} {e : Error}
    (h : writeAll c ws = .error e) :
    ∃ c' : Contents U, c'.schema = c.schema ∧ c'.invalidAllowed = c.invalidAllowed ∧
      ∃ w ∈ ws, c'.write w.property w.value w.override = .error e := by
  induction ws generalizing c with
  | nil => cases h
  | cons w ws ih =>
      rw [writeAll] at h
      cases hwrite : c.write w.property w.value w.override with
      | error e' =>
          rw [hwrite] at h
          cases h
          exact ⟨c, rfl, rfl, w, List.mem_cons_self, hwrite⟩
      | ok c₁ =>
          rw [hwrite] at h
          obtain ⟨-, x, -, -, rfl⟩ := Contents.write_eq_ok_iff.mp hwrite
          obtain ⟨c', hschema, hallowed, w', hw', hfails⟩ := ih h
          exact ⟨c', hschema, hallowed, w', List.mem_cons_of_mem _ hw', hfails⟩

theorem error_of_writeAll {entries : List (Property U × Value U)}
    (hentries : ∀ entry ∈ entries, t.contains entry.1.toDescriptor = true ∧
      entry.1.toDescriptor.Returns entry.2)
    {c : Contents U} (hc : c.schema = t) {e : Error}
    (h : writeAll c (restore entries) = .error e) :
    ∃ entry ∈ entries, ∃ f, entry.1.validate (some entry.2) = .error f ∧ e = .validation f := by
  obtain ⟨c', hschema, -, w, hw, hfails⟩ := exists_write_of_writeAll_error h
  obtain ⟨entry, hentry, rfl⟩ := List.mem_map.mp hw
  obtain ⟨hmember, hreturns⟩ := hentries entry hentry
  have hcontains : c'.contains entry.1.toDescriptor = true := by
    rw [Contents.contains, hschema, hc, hmember]
  rw [Contents.write_of_returns hcontains hreturns] at hfails
  refine ⟨entry, hentry, ?_⟩
  split at hfails
  · cases hfails
  · split at hfails
    · cases hfails
    · rename_i f hinvalid
      exact ⟨f, hinvalid, (Except.error.inj hfails).symm⟩

theorem error_ne_validation {c : Contents U} {ws : List (PendingWrite U)}
    (hallowed : c.invalidAllowed = true) {f : ValidationError} :
    writeAll c ws ≠ .error (.validation f) := by
  intro h
  obtain ⟨c', -, hallowed', w, -, hfails⟩ := exists_write_of_writeAll_error h
  rcases Contents.write_error hfails with ⟨_, he⟩ | ⟨_, he⟩ | ⟨hnot, -⟩
  · cases he
  · cases he
  · rw [hallowed', hallowed] at hnot
    cases hnot

end RecordDraft

namespace Contents

def shared (c : Contents U) (t : Schema U) : List (Property U × Value U) :=
  c.storedValues.filter fun entry => t.contains entry.1.toDescriptor

theorem mem_shared {c : Contents U} {p : Property U} {v : Value U} :
    (p, v) ∈ c.shared t ↔
      p ∈ c.schema.members ∧ c.values.get? p.toDescriptor = some v ∧
        t.contains p.toDescriptor = true := by
  rw [shared, List.mem_filter, mem_storedValues, and_assoc]

theorem any_shared_iff (hP : P.Lawful) (hs : P.Covers s) (ht : P.Covers t) {c : Contents U}
    (hc : Over P s c) {q : Descriptor U} (hq : q ∈ P) :
    (c.shared t).any (q == ·.1.toDescriptor) = true ↔
      c.contains q = true ∧ t.contains q = true ∧ (c.values.get? q).isSome = true := by
  have hschema := hc.schema_eq
  rw [List.any_eq_true]
  constructor
  · rintro ⟨⟨p, v⟩, hentry, hqp⟩
    obtain ⟨hp, hv, hmember⟩ := mem_shared.mp hentry
    rw [hschema] at hp
    have hpP := hs.members p hp
    rw [contains, hschema, Schema.contains_congr hP hs hq hpP hqp,
      Schema.contains_congr hP ht hq hpP hqp, hc.get?_congr hP hq hpP hqp, hv]
    exact ⟨Schema.contains_of_mem hP hs hp, hmember, rfl⟩
  · rintro ⟨hcontains, hmember, hsome⟩
    rw [contains, hschema] at hcontains
    obtain ⟨p, hp, hpq⟩ := Schema.contains_iff.mp hcontains
    obtain ⟨v, hv⟩ := Option.isSome_iff_exists.mp hsome
    have hpP := hs.members p hp
    refine ⟨(p, v), mem_shared.mpr ⟨hschema ▸ hp, ?_, ?_⟩, hP.equivAmong.symm hpP hq hpq⟩
    · rw [hc.get?_congr hP hpP hq hpq, hv]
    · rw [Schema.contains_congr hP ht hpP hq hpq, hmember]

theorem pairwise_storedValues {c : Contents U} (hc : c.schema.Proper) :
    c.storedValues.Pairwise fun a b => (a.1.toDescriptor == b.1.toDescriptor) = false := by
  refine List.pairwise_filterMap.mpr (hc.distinct.imp ?_)
  intro p q hpq a ha b hb
  obtain ⟨_, -, rfl⟩ := Option.map_eq_some_iff.mp ha
  obtain ⟨_, -, rfl⟩ := Option.map_eq_some_iff.mp hb
  exact hpq

theorem shared_holding (hP : P.Lawful) (hs : P.Covers s) (hproper : s.Proper) (id : Ident)
    {d : Descriptor U} (hd : d ∈ P) {p : Property U} (hp : p ∈ s.members)
    (hdp : (d == p.toDescriptor) = true) (hmember : t.contains p.toDescriptor = true)
    (x : Value U) : (holding s id d x).shared t = [(p, x)] := by
  have hvalue := fun q hq => get?_holding hP (q := q) hd hq s id x
  have hpd := hP.equivAmong.symm hd (hs.members p hp) hdp
  have hentry : (p, x) ∈ (holding s id d x).shared t := by
    refine mem_shared.mpr ⟨hp, ?_, hmember⟩
    rw [hvalue _ (hs.members p hp), if_pos hpd]
  have hequal : ∀ entry ∈ (holding s id d x).shared t,
      entry.1.toDescriptor ∈ P ∧ (entry.1.toDescriptor == d) = true := by
    rintro ⟨q, v⟩ hq
    obtain ⟨hqs, hv, -⟩ := mem_shared.mp hq
    refine ⟨hs.members q hqs, ?_⟩
    rw [hvalue _ (hs.members q hqs)] at hv
    split at hv
    · assumption
    · cases hv
  have hpairwise : ((holding s id d x).shared t).Pairwise fun a b =>
      (a.1.toDescriptor == d) = true → (b.1.toDescriptor == d) = false := by
    refine ((pairwise_storedValues hproper).filter _).imp_of_mem ?_
    intro a b ha hb hne had
    have hda := hP.equivAmong.symm (hequal a ha).1 hd had
    rw [hP.equivAmong.comm (hequal b hb).1 hd]
    exact hP.equivAmong.apart (hequal a ha).1 (hequal b hb).1 hd hne hda
  have hself := List.filter_eq_self.mpr fun entry hentry => (hequal entry hentry).2
  exact hself.symm.trans (filter_eq_singleton hpairwise hentry hpd)

end Contents

namespace Record

/-- The copy of a record into a schema reads like the record where both have a path property, and
has no other values; it fails only if a value that would be copied is invalid. -/
def CopiesFaithfully (P : Population U) (r : Record U) (t : Schema U) (id : Ident) : Prop :=
  match r.duplicateInto t id with
  | .ok c =>
      (∀ q : Property U, q.toDescriptor ∈ P → q.isVirtual = false →
        r.contains q.toDescriptor = true → t.contains q.toDescriptor = true →
          c.get q = r.get q) ∧
      ∀ d ∈ P, t.contains d = true → r.contains d = false → c.values.get? d = none
  | .error e => ∃ p v f, (p, v) ∈ r.shared t ∧ p.validate (some v) = .error f ∧ e = .validation f

def blank (r : Record U) (t : Schema U) (id : Ident) : Contents U :=
  { id, schema := t, invalidAllowed := r.invalidAllowed }

theorem duplicateInto_eq (r : Record U) (t : Schema U) (id : Ident) :
    r.duplicateInto t id =
      (RecordDraft.writeAll (r.blank t id) (RecordDraft.restore (r.shared t))).map
        fun c => { toContents := c } := by
  change (RecordDraft.writeAll (r.blank t id) (RecordDraft.restore (r.shared t)) >>= _) = _
  cases RecordDraft.writeAll (r.blank t id) (RecordDraft.restore (r.shared t)) <;> rfl

theorem copiesFaithfully_of_returns (hP : P.Lawful) (hs : P.Covers s) (ht : P.Covers t)
    {r : Record U} (hr : Contents.Over P s r.toContents)
    (hreturns : ∀ p v, (p, v) ∈ r.shared t → p.toDescriptor.Returns v) (id : Ident) :
    r.CopiesFaithfully P t id := by
  have hmembers : ∀ entry ∈ r.shared t, entry.1.toDescriptor ∈ P := by
    rintro ⟨p, v⟩ hentry
    have hp := (Contents.mem_shared.mp hentry).1
    rw [hr.schema_eq] at hp
    exact hs.members p hp
  rw [CopiesFaithfully, duplicateInto_eq]
  cases hwrites : RecordDraft.writeAll (r.blank t id) (RecordDraft.restore (r.shared t)) with
  | error e =>
      obtain ⟨⟨p, v⟩, hentry, f, hinvalid, he⟩ := RecordDraft.error_of_writeAll (t := t)
        (fun ⟨p, v⟩ hentry => ⟨(Contents.mem_shared.mp hentry).2.2, hreturns p v hentry⟩) rfl
        hwrites
      exact ⟨p, v, f, hentry, hinvalid, he⟩
  | ok c =>
      have hblank : Contents.Over P t (r.blank t id) := ⟨rfl, Table.keysIn_empty⟩
      have hcopied : ∀ q ∈ P, c.schema = t ∧ c.values.get? q =
          if (r.shared t).any (q == ·.1.toDescriptor) then r.values.get? q else none :=
        fun q hq => RecordDraft.get?_of_writeAll hP
          (fun a ha b hb hab => hr.get?_congr hP ha hb hab)
          (fun ⟨p, v⟩ hentry => ⟨hmembers _ hentry, hreturns p v hentry,
            (Contents.mem_shared.mp hentry).2.1⟩) hblank hwrites hq
      constructor
      · intro q hq hpath hcontains hmember
        obtain ⟨hschema, hget⟩ := hcopied q.toDescriptor hq
        have hmember' : c.contains q.toDescriptor = true := by
          rw [Contents.contains, hschema, hmember]
        refine Contents.get_congr hmember' hcontains hpath ?_
        rw [hget]
        split
        · rfl
        · rename_i hnot
          cases hv : r.values.get? q.toDescriptor with
          | none => rfl
          | some v =>
              refine absurd ((Contents.any_shared_iff hP hs ht hr hq).mpr ?_) hnot
              exact ⟨hcontains, hmember, by rw [hv]; rfl⟩
      · intro d hd hmember hcontains
        rw [(hcopied d hd).2, if_neg]
        intro hany
        have hr' := ((Contents.any_shared_iff hP hs ht hr hd).mp hany).1
        rw [hcontains] at hr'
        cases hr'

theorem returns_of_copiesFaithfully (hP : P.Lawful) (hs : P.Covers s) (hproper : s.Proper)
    {p : Property U} (hp : p ∈ s.members) (hmember : t.contains p.toDescriptor = true)
    {d : Descriptor U} (hd : d ∈ P) (hdp : (d == p.toDescriptor) = true) {x : Value U}
    {id id' : Ident}
    (h : CopiesFaithfully P { toContents := .holding s id d x } t id') :
    p.toDescriptor.Returns x := by
  let r : Record U := { toContents := .holding s id d x }
  have hpP := hs.members p hp
  have hcontains : r.contains p.toDescriptor = true := Schema.contains_of_mem hP hs hp
  have hvalue : r.values.get? p.toDescriptor = some x := by
    rw [Contents.get?_holding hP hd hpP, if_pos (hP.equivAmong.symm hd hpP hdp)]
  rw [CopiesFaithfully, duplicateInto_eq,
    Contents.shared_holding hP hs hproper id hd hp hdp hmember] at h
  cases hwrites : RecordDraft.writeAll (r.blank t id') (RecordDraft.restore [(p, x)]) with
  | error e =>
      rw [hwrites] at h
      obtain ⟨-, -, f, -, -, rfl⟩ := h
      exact absurd hwrites (RecordDraft.error_ne_validation rfl)
  | ok c =>
      rw [hwrites] at h
      obtain ⟨c₁, hwrite, hrest⟩ := RecordDraft.writeAll_cons_eq_ok_iff.mp hwrites
      cases hrest
      obtain ⟨hwritable, y, htakes, hadmits, rfl⟩ := Contents.write_eq_ok_iff.mp hwrite
      have hget := h.1 p hpP hwritable.path hcontains hmember
      have hblank : Contents.Over P t (r.blank t id') := ⟨rfl, Table.keysIn_empty⟩
      have hcopied : ((r.blank t id').put p.toDescriptor y).values.get? p.toDescriptor = y := by
        rw [hblank.get?_put hP hpP hpP, if_pos (hP.equivAmong.refl hpP)]
      have hread : ((r.blank t id').put p.toDescriptor y).get p = .ok y :=
        (Contents.get_eq_ok_iff hwritable.path).mpr ⟨hmember, hcopied, hadmits.kind⟩
      obtain ⟨-, hxy, hkind⟩ := (Contents.get_eq_ok_iff hwritable.path).mp (hget.symm.trans hread)
      rw [hvalue] at hxy
      subst hxy
      exact ⟨hwritable.path, hkind x rfl, htakes⟩

/-- All copies of the records of a schema into another are faithful if and only if every value that
can be stored under a shared member is written through it as it is. -/
theorem copiesFaithfully_iff_returns (hP : P.Lawful) (hs : P.Covers s) (ht : P.Covers t)
    (hproper : s.Proper) :
    (∀ r : Record U, r.toContents.Reachable P s → ∀ id, r.CopiesFaithfully P t id) ↔
      ∀ p ∈ s.members, t.contains p.toDescriptor = true →
        ∀ d ∈ P, (d == p.toDescriptor) = true → ∀ x, d.Stores x → p.toDescriptor.Returns x := by
  constructor
  · intro h p hp hmember d hd hdp x hx
    have hcontains : s.contains d = true := Schema.contains_iff.mpr
      ⟨p, hp, hP.equivAmong.symm hd (hs.members p hp) hdp⟩
    exact returns_of_copiesFaithfully hP hs hproper hp hmember hd hdp
      (h ⟨_, {}⟩ (Contents.reachable_holding ⟨0⟩ hd hcontains hx) ⟨1⟩)
  · intro h r hr id
    refine copiesFaithfully_of_returns hP hs ht hr.over ?_ id
    intro p v hentry
    obtain ⟨hp, hv, hmember⟩ := Contents.mem_shared.mp hentry
    rw [hr.over.schema_eq] at hp
    obtain ⟨d, hd, hdp, hx⟩ := hr.exists_stores hP (hs.members p hp) hv
    exact h p hp hmember d hd hdp v hx

open Sample in
theorem copiesFaithfully_count_tallied :
    (∀ r : Record kinds, r.toContents.Reachable population { members := [count, title] } →
        ∀ id, r.CopiesFaithfully population { members := [tallied] } id) ∧
      ¬∀ r : Record kinds, r.toContents.Reachable population { members := [label] } →
        ∀ id, r.CopiesFaithfully population { members := [label] } id := by
  have htallied : population.Covers { members := [tallied] } :=
    covers (by simp [properties]) (by simp)
  have hlabel : population.Covers { members := [label] } :=
    covers (by simp [properties]) (by simp)
  constructor
  · refine (copiesFaithfully_iff_returns Population.ofList_lawful
      (covers (by simp [properties]) (by simp)) htallied ⟨?_, .nil, by simp⟩).mpr ?_
    · refine .cons ?_ (.cons (by simp) .nil)
      intro q hq
      rw [List.mem_singleton.mp hq]
      rfl
    · intro p hp hmember d hd hdp x hx
      simp only [List.mem_cons, List.not_mem_nil, or_false] at hp
      rcases hp with rfl | rfl
      · refine ⟨rfl, ?_, .plain x ?_⟩
        · rw [hx.kind, Population.ofList_respectsKinds.kind_eq hd count_mem hdp]
        · intro c hc
          cases hc
      · cases hmember
  · intro h
    have hstores : label.toDescriptor.Stores (text "a") :=
      ⟨rfl, rfl, text "#a", .converted _ ⟨Kind.text, marked⟩ _ rfl rfl rfl⟩
    have hreturns := (copiesFaithfully_iff_returns Population.ofList_lawful hlabel hlabel
      ⟨by simp, .nil, by simp⟩).mp h label List.mem_cons_self rfl label.toDescriptor
      (hlabel.members label List.mem_cons_self) rfl (text "a") hstores
    have haccept := Contents.accept_eq_ok_iff.mpr hreturns.takes
    cases haccept

open Sample in
/-- A text that was stored as it is in a record is taken for a model by the copy of the record. -/
theorem not_copiesFaithfully_label :
    ¬∀ r : Record kinds, r.toContents.Reachable population { members := [label] } →
      ∀ id, r.CopiesFaithfully population { members := [label] } id := by
  intro h
  let r : Record kinds :=
    ⟨(Record.create { members := [label] } ⟨0⟩).run
      [.writeModel label.toDescriptor (some (text "#a"))], {}⟩
  have hwithin : ∀ e ∈ [Edit.writeModel label.toDescriptor (some (text "#a"))],
      e.Within population := by
    intro e he d hd
    rw [List.mem_singleton.mp he] at hd
    cases hd
    exact mem_population (by simp [properties])
  have hcopy : r.duplicateInto { members := [label] } ⟨1⟩ =
      .error (.conversion (.failed "no mark")) := rfl
  have hfaithful := h r ⟨⟨0⟩, _, hwithin, rfl⟩ ⟨1⟩
  rw [CopiesFaithfully, hcopy] at hfaithful
  obtain ⟨_, _, _, _, _, he⟩ := hfaithful
  cases he

end Record

end TypedRecords
