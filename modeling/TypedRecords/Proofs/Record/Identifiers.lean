import TypedRecords.Proofs.Record.Comparison
import TypedRecords.Proofs.Record.Validity

namespace TypedRecords

variable {U : Universe} {P : Population U} {s : Schema U}

namespace Schema

variable {ms is : List (Change U)}

theorem occurs_foldl_append_of_mem {ps qs : List (Property U)} {q : Property U} (hq : q ∈ qs) :
    occurs q.toDescriptor (qs.foldl append ps) = true := by
  have hself : (q.toDescriptor == q.toDescriptor) = true := if_pos rfl
  induction qs generalizing ps with
  | nil => cases hq
  | cons first qs ih =>
      rcases List.mem_cons.mp hq with rfl | hq
      · refine occurs_of_subset (subset_foldl_append (append ps q) qs) ?_
        rw [append]
        split
        · assumption
        · exact occurs_iff.mpr ⟨q, by simp, hself⟩
      · exact ih hq

theorem eq_of_occurs {p : Property U} (hreference : p.identity = none) {ps : List (Property U)}
    (hps : ∀ q ∈ ps, q.toDescriptor ∈ P) (hp : p.toDescriptor ∈ P)
    (h : occurs p.toDescriptor ps = true) : ∃ m ∈ ps, m.toDescriptor = p.toDescriptor := by
  obtain ⟨m, hm, hmp⟩ := occurs_iff.mp h
  rcases (Population.beq_iff (hps m hm) hp).mp hmp with heq | ⟨i, -, hi, -⟩
  · exact ⟨m, hm, heq⟩
  · exact nomatch hreference.symm.trans hi

theorem Built.exists_member_eq (h : Built (· ∈ P) ms is s) : ∀ p ∈ s.identifiers,
    p.identity = none → ∃ m ∈ s.members, m.toDescriptor = p.toDescriptor := by
  induction h with
  | empty => exact fun p hp => nomatch hp
  | add before hp ih =>
      intro p hp hreference
      obtain ⟨m, hm, heq⟩ := ih p hp hreference
      exact ⟨m, subset_append _ _ hm, heq⟩
  | addAll before hps ih =>
      intro p hp hreference
      rw [addAll_eq] at hp ⊢
      obtain ⟨m, hm, heq⟩ := ih p hp hreference
      exact ⟨m, subset_foldl_append _ _ hm, heq⟩
  | @addSchema ms is ms' is' s t before other ih ih' =>
      intro p hp hreference
      rcases mem_foldl_append hp with hp | hp
      · obtain ⟨m, hm, heq⟩ := ih p hp hreference
        exact ⟨m, subset_foldl_append _ _ hm, heq⟩
      · obtain ⟨m, hm, heq⟩ := ih' p hp hreference
        refine eq_of_occurs hreference (before.addSchema other).members_within
          (other.identifiers_within p hp) ?_
        exact heq ▸ occurs_foldl_append_of_mem hm
  | remove before hd ih =>
      intro p hp hreference
      obtain ⟨hp, hkept⟩ := List.mem_filter.mp hp
      obtain ⟨m, hm, heq⟩ := ih p hp hreference
      refine ⟨m, List.mem_filter.mpr ⟨hm, ?_⟩, heq⟩
      rw [heq]
      exact hkept
  | mark before hq marked ih =>
      intro p hp hreference
      obtain ⟨hmember, rfl⟩ := mark_eq_ok_iff.mp marked
      rcases mem_append hp with hp | rfl
      · exact ih p hp hreference
      · exact eq_of_occurs hreference before.members_within hq hmember
  | markAll before hqs marked ih =>
      intro p hp hreference
      obtain ⟨hmembers, rfl⟩ := markAll_eq_ok_iff.mp marked
      rcases mem_foldl_append hp with hp | hp
      · exact ih p hp hreference
      · exact eq_of_occurs hreference before.members_within (hqs p hp) (hmembers p hp)
  | withParameter before key v ih => exact ih
  | copy before ih =>
      intro p hp hreference
      rw [before.copy_identifiers] at hp
      rw [before.copy_members]
      exact ih p hp hreference

/-- A schema all properties of which are told apart by reference. -/
structure Referenced (P : Population U) (s : Schema U) : Prop extends s.ByReference P where
  identifiers : ∀ p ∈ s.identifiers, p.identity = none

namespace Referenced

theorem identifiers_within (hs : s.Referenced P) : ∀ p ∈ s.identifiers, p.toDescriptor ∈ P := by
  obtain ⟨ms, is, hbuilt⟩ := hs.built
  exact hbuilt.identifiers_within

theorem mem_named (hs : s.Referenced P) {p : Property U} (hp : p ∈ s.identifiers) :
    p.toDescriptor ∈ P.named :=
  ⟨hs.identifiers_within p hp, fun _ hi => nomatch (hs.identifiers p hp).symm.trans hi⟩

theorem exists_member_eq (hs : s.Referenced P) {p : Property U} (hp : p ∈ s.identifiers) :
    ∃ m ∈ s.members, m.toDescriptor = p.toDescriptor := by
  obtain ⟨ms, is, hbuilt⟩ := hs.built
  exact hbuilt.exists_member_eq p hp (hs.identifiers p hp)

theorem contains_identifier (hs : s.Referenced P) {p : Property U} (hp : p ∈ s.identifiers) :
    s.contains p.toDescriptor = true := by
  obtain ⟨m, hm, heq⟩ := hs.exists_member_eq hp
  exact contains_iff.mpr ⟨m, hm, heq ▸ if_pos rfl⟩

end Referenced

end Schema

/-- An edit that goes through no identifier of a schema. -/
def Edit.Spares (e : Edit U) (s : Schema U) : Prop :=
  ∀ d, e.property? = some d → s.isIdentifier d = false

namespace Record

def edited (r : Record U) (e : Edit U) : Record U :=
  r.withContents (r.after e)

/-- A record of a schema without rules of its own, however it was made and edited. -/
structure Ordinary (P : Population U) (s : Schema U) (r : Record U) : Prop where
  comparison : r.comparison = {}
  made : ∃ es, r.MadeBy P (· = s) es

namespace Ordinary

variable {a b r : Record U}

theorem schema_eq (hr : r.Ordinary P s) : r.schema = s := by
  obtain ⟨es, hmade⟩ := hr.made
  exact hmade.schema

theorem reachable (hr : r.Ordinary P s) : r.toContents.Reachable P s := by
  obtain ⟨es, hmade⟩ := hr.made
  exact hmade.schema ▸ hmade.reachable

theorem edit (hr : r.Ordinary P s) {e : Edit U} (he : e.Within P) :
    (r.edited e).Ordinary P s := by
  obtain ⟨es, hmade⟩ := hr.made
  exact ⟨hr.comparison, es ++ [e], hmade.edit he⟩

theorem duplicate (hr : r.Ordinary P s) (id : Ident) : (r.duplicate id).Ordinary P s := by
  obtain ⟨es, hmade⟩ := hr.made
  exact ⟨hr.comparison, es, hmade.duplicate id⟩

theorem get_identifier (hr : r.Ordinary P s) (hs : s.Referenced P) {p : Property U}
    (hp : p ∈ s.identifiers) (hpath : p.isVirtual = false) :
    r.get p = .ok (r.values.get? p.toDescriptor) := by
  have htyped := (hr.reachable.named hs.named).typed P.named_lawful P.named_respectsKinds
  refine Contents.get_of_path ?_ hpath (htyped _ (hs.mem_named hp))
  rw [Contents.contains, hr.schema_eq]
  exact hs.contains_identifier hp

theorem same_iff_of_id_ne (ha : a.Ordinary P s) (hb : b.Ordinary P s) (hs : s.Referenced P)
    (hne : s.identifiers ≠ []) (hpath : ∀ p ∈ s.identifiers, p.isVirtual = false)
    (hid : a.id ≠ b.id) : a.same b = true ↔ ∀ p ∈ s.identifiers,
      sameOption (a.values.get? p.toDescriptor) (b.values.get? p.toDescriptor) = true := by
  rw [same_iff ha.comparison, ha.schema_eq]
  constructor
  · rintro (h | ⟨-, hagree⟩) p hp
    · exact absurd h hid
    · obtain ⟨x, y, hx, hy, hxy⟩ := Contents.agree_iff.mp (hagree p hp)
      rw [ha.get_identifier hs hp (hpath p hp)] at hx
      rw [hb.get_identifier hs hp (hpath p hp)] at hy
      cases hx
      cases hy
      exact hxy
  · intro h
    exact Or.inr ⟨hne, fun p hp => Contents.agree_iff.mpr
      ⟨_, _, ha.get_identifier hs hp (hpath p hp), hb.get_identifier hs hp (hpath p hp), h p hp⟩⟩

theorem feed_eq (hr : r.Ordinary P s) (hs : s.Referenced P) (hne : s.identifiers ≠ [])
    (hpath : ∀ p ∈ s.identifiers, p.isVirtual = false) :
    r.feed =
      s.identifiers.flatMap fun p => Contents.feedOption (r.values.get? p.toDescriptor) := by
  have hschema := hr.schema_eq
  rw [feed_eq_flatMap hr.comparison (hschema ▸ hne), hschema]
  rw [hschema]
  exact fun p hp => Contents.feedIdentifier_of_get (hr.get_identifier hs hp (hpath p hp))

theorem get?_edit (hr : r.Ordinary P s) (hs : s.Referenced P) {e : Edit U} (he : e.Within P)
    (hspares : e.Spares s) {p : Property U} (hp : p ∈ s.identifiers) :
    (r.edited e).values.get? p.toDescriptor = r.values.get? p.toDescriptor := by
  have hover := (hr.reachable.named hs.named).over
  cases happly : r.apply e with
  | error err => rw [edited, withContents, Contents.after_of_error happly]
  | ok c =>
      have hstep := Contents.apply_eq_ok_iff.mp happly
      have hnamed := hstep.within_named hs.named hr.schema_eq he
      refine Contents.get?_after_of_idle hover P.named_lawful hnamed (hs.mem_named hp) (Or.inr ?_)
      rintro ⟨d, hd, hdp⟩
      have hpd : (p.toDescriptor == d) = true :=
        P.named_lawful.equivAmong.symm (hnamed d hd) (hs.mem_named hp) hdp
      exact Bool.eq_false_iff.mp (hspares d hd) (Schema.occurs_iff.mpr ⟨p, hp, hpd⟩)

theorem same_of_id_eq (a : Record U) {b : Record U} (hid : a.id = b.id) : a.same b = true :=
  if_pos hid

theorem same_eq_false_of_nil (ha : a.Ordinary P s) (hnil : s.identifiers = []) (hid : a.id ≠ b.id) :
    a.same b = false := by
  refine Bool.eq_false_iff.mpr fun h => ?_
  rcases (same_iff ha.comparison).mp h with h | ⟨hne, -⟩
  · exact hid h
  · rw [ha.schema_eq] at hne
    exact hne hnil

theorem id_edited (r : Record U) (e : Edit U) : (r.edited e).id = r.id :=
  (Contents.after_kept r.toContents e).1

theorem same_edited (ha : a.Ordinary P s) (hb : b.Ordinary P s) (hs : s.Referenced P)
    (hne : s.identifiers ≠ []) (hpath : ∀ p ∈ s.identifiers, p.isVirtual = false) {e : Edit U}
    (he : e.Within P) (hspares : e.Spares s) :
    (a.edited e).same b = a.same b ∧ b.same (a.edited e) = b.same a := by
  by_cases hid : a.id = b.id
  · have hid' : (a.edited e).id = b.id := (id_edited a e).trans hid
    rw [same_of_id_eq _ hid, same_of_id_eq _ hid', same_of_id_eq _ hid.symm,
      same_of_id_eq _ hid'.symm]
    exact ⟨rfl, rfl⟩
  · have hid' : (a.edited e).id ≠ b.id := id_edited a e ▸ hid
    have ha' := ha.edit he
    have hstored : ∀ p ∈ s.identifiers,
        (a.edited e).values.get? p.toDescriptor = a.values.get? p.toDescriptor := fun p hp =>
      ha.get?_edit hs he hspares hp
    constructor
    · rw [Bool.eq_iff_iff, ha'.same_iff_of_id_ne hb hs hne hpath hid',
        ha.same_iff_of_id_ne hb hs hne hpath hid]
      exact forall₂_congr fun p hp => by rw [hstored p hp]
    · rw [Bool.eq_iff_iff, hb.same_iff_of_id_ne ha' hs hne hpath hid'.symm,
        hb.same_iff_of_id_ne ha hs hne hpath (Ne.symm hid)]
      exact forall₂_congr fun p hp => by rw [hstored p hp]

theorem feed_edited (ha : a.Ordinary P s) (hs : s.Referenced P) (hne : s.identifiers ≠ [])
    (hpath : ∀ p ∈ s.identifiers, p.isVirtual = false) {e : Edit U} (he : e.Within P)
    (hspares : e.Spares s) : (a.edited e).feed = a.feed := by
  rw [(ha.edit he).feed_eq hs hne hpath, ha.feed_eq hs hne hpath]
  exact List.flatMap_congr fun p hp => by rw [ha.get?_edit hs he hspares hp]

theorem feed_eq_of_same (hU : U.Lawful) (ha : a.Ordinary P s) (hb : b.Ordinary P s)
    (hs : s.Referenced P) (hne : s.identifiers ≠ [])
    (hpath : ∀ p ∈ s.identifiers, p.isVirtual = false) (hid : a.id ≠ b.id)
    (h : a.same b = true) : a.feed = b.feed := by
  have hstored := (ha.same_iff_of_id_ne hb hs hne hpath hid).mp h
  rw [ha.feed_eq hs hne hpath, hb.feed_eq hs hne hpath]
  exact List.flatMap_congr fun p hp => Contents.feedOption_eq hU (hstored p hp)

end Ordinary

/-- Equality of two records looks at the values of their identifiers and at nothing else. -/
structure ComparesByIdentifiers (P : Population U) (s : Schema U) (a b : Record U) : Prop where
  read : ∀ p ∈ s.identifiers, a.get p = .ok (a.values.get? p.toDescriptor)
  same_iff : a.same b = true ↔ ∀ p ∈ s.identifiers,
    sameOption (a.values.get? p.toDescriptor) (b.values.get? p.toDescriptor) = true
  feed_eq : a.same b = true → a.feed = b.feed
  spared : ∀ e, e.Within P → e.Spares s → (a.edited e).same b = a.same b ∧
    b.same (a.edited e) = b.same a ∧ (a.edited e).feed = a.feed
  apart : ∀ e c, e.Within P → a.apply e = .ok c → a.id ≠ b.id →
    (∃ p ∈ s.identifiers,
      sameOption (c.values.get? p.toDescriptor) (b.values.get? p.toDescriptor) = false) →
    (a.withContents c).same b = false
  duplicate : ∀ id, a.same (a.duplicate id) = true ∧ (a.duplicate id).same a = true ∧
    (a.duplicate id).feed = a.feed

theorem Ordinary.same_duplicate (hU : U.Lawful) {a : Record U} (ha : a.Ordinary P s)
    (hs : s.Referenced P) (hne : s.identifiers ≠ [])
    (hpath : ∀ p ∈ s.identifiers, p.isVirtual = false) (id : Ident) :
    a.same (a.duplicate id) = true ∧ (a.duplicate id).same a = true ∧
      (a.duplicate id).feed = a.feed := by
  have ha' := ha.duplicate id
  refine ⟨?_, ?_, ?_⟩
  · by_cases hid : a.id = id
    · exact same_of_id_eq a hid
    · exact (ha.same_iff_of_id_ne ha' hs hne hpath hid).mpr fun p hp => sameOption_refl hU _
  · by_cases hid : id = a.id
    · exact same_of_id_eq _ hid
    · exact (ha'.same_iff_of_id_ne ha hs hne hpath hid).mpr fun p hp => sameOption_refl hU _
  · rw [ha'.feed_eq hs hne hpath, ha.feed_eq hs hne hpath]
    rfl

theorem Ordinary.comparesByIdentifiers (hU : U.Lawful) {a b : Record U} (ha : a.Ordinary P s)
    (hb : b.Ordinary P s) (hs : s.Referenced P) (hid : a.id = b.id → a = b)
    (hne : s.identifiers ≠ []) (hpath : ∀ p ∈ s.identifiers, p.isVirtual = false) :
    ComparesByIdentifiers P s a b where
  read p hp := ha.get_identifier hs hp (hpath p hp)
  same_iff := by
    by_cases h : a.id = b.id
    · cases hid h
      simp only [same_of_id_eq a rfl, sameOption_refl hU, implies_true]
    · exact ha.same_iff_of_id_ne hb hs hne hpath h
  feed_eq hab := by
    by_cases h : a.id = b.id
    · rw [hid h]
    · exact ha.feed_eq_of_same hU hb hs hne hpath h hab
  spared e he hspares := by
    obtain ⟨hleft, hright⟩ := ha.same_edited hb hs hne hpath he hspares
    exact ⟨hleft, hright, ha.feed_edited hs hne hpath he hspares⟩
  apart e c he happly h := by
    rintro ⟨p, hp, hdiffers⟩
    have hafter : a.withContents c = a.edited e := by
      rw [edited, Contents.after, happly]
    have h' : (a.edited e).id ≠ b.id := id_edited a e ▸ h
    rw [hafter, Bool.eq_false_iff]
    intro hsame
    have hstored := ((ha.edit he).same_iff_of_id_ne hb hs hne hpath h').mp hsame p hp
    rw [← hafter] at hstored
    exact Bool.false_ne_true (hdiffers.symm.trans hstored)
  duplicate := ha.same_duplicate hU hs hne hpath

/-- Two records of a schema are equal if and only if their identifiers are, which equal hashes go
with and edits through other properties do not touch. Without identifiers no two records are equal,
not even a record and its duplicate. -/
theorem Ordinary.equality_by_identifiers (hU : U.Lawful) (hs : s.Referenced P) {a b : Record U}
    (ha : a.Ordinary P s) (hb : b.Ordinary P s) (hid : a.id = b.id → a = b) :
    (s.identifiers ≠ [] → (∀ p ∈ s.identifiers, p.isVirtual = false) →
        ComparesByIdentifiers P s a b) ∧
      (s.identifiers = [] → (a.id ≠ b.id → a.same b = false) ∧
        ∀ id, id ≠ a.id → a.same (a.duplicate id) = false ∧ (a.duplicate id).same a = false) := by
  refine ⟨ha.comparesByIdentifiers hU hb hs hid, fun hnil => ⟨ha.same_eq_false_of_nil hnil, ?_⟩⟩
  intro id hne
  exact ⟨ha.same_eq_false_of_nil hnil (Ne.symm hne),
    (ha.duplicate id).same_eq_false_of_nil hnil hne⟩

open Sample in
theorem equality_by_identifiers_score_title :
    let marked : Schema kinds := { members := [score, title], identifiers := [title] }
    let entitled : Edit kinds := .set title.toDescriptor (some "first") false
    let a := (Record.create marked ⟨1⟩).edited entitled
    let b := ((Record.create marked ⟨2⟩).edited entitled).edited
      (.set score.toDescriptor (some (3 : Int)) false)
    let c := Record.create (.of [score, title]) ⟨3⟩
    (ComparesByIdentifiers scores marked a b ∧ a.same b = true ∧ a.get score = .ok none ∧
        b.get score = .ok (some (number 3))) ∧
      c.same (c.duplicate ⟨4⟩) = false := by
  intro marked entitled a b c
  have hscore : score.toDescriptor ∈ scores := List.mem_cons_self
  have htitle : title.toDescriptor ∈ scores := List.mem_cons_of_mem _ List.mem_cons_self
  have hpair : ∀ p ∈ [score, title], p.toDescriptor ∈ scores := by simp [hscore, htitle]
  have hreference : ∀ p ∈ [score, title], p.identity = none := by
    intro p hp
    rcases List.mem_pair.mp hp with rfl | rfl <;> rfl
  have hmarked : marked.Referenced scores :=
    ⟨⟨⟨_, _, .mark (.of hpair) htitle rfl⟩, hreference⟩,
      fun p hp => hreference p (List.mem_cons_of_mem _ hp)⟩
  have hplain : (Schema.of [score, title]).Referenced scores :=
    ⟨⟨⟨_, _, .of hpair⟩, hreference⟩, fun p hp => nomatch hp⟩
  have hentitled : entitled.Within scores := by
    rintro d ⟨⟩
    exact htitle
  have hscored : (Edit.set score.toDescriptor (some (3 : Int)) false).Within scores := by
    rintro d ⟨⟩
    exact hscore
  have hnew : ∀ (s : Schema kinds) (id : Ident), (Record.create s id).Ordinary scores s :=
    fun s id => ⟨rfl, [], .create (by rfl) id⟩
  have ha : a.Ordinary scores marked := (hnew marked ⟨1⟩).edit hentitled
  have hb : b.Ordinary scores marked := ((hnew marked ⟨2⟩).edit hentitled).edit hscored
  have hc : c.Ordinary scores (.of [score, title]) := hnew _ ⟨3⟩
  have hids : a.id = b.id → a = b := fun h => absurd h (by decide)
  have hpath : ∀ p ∈ marked.identifiers, p.isVirtual = false := by
    intro p hp
    rw [List.mem_singleton.mp hp]
    rfl
  constructor
  · exact ⟨(Ordinary.equality_by_identifiers kinds_lawful hmarked ha hb hids).1 (by simp [marked])
      hpath, rfl, rfl, rfl⟩
  · exact (((Ordinary.equality_by_identifiers kinds_lawful hplain hc hc fun _ => rfl).2 rfl).2 ⟨4⟩
      (by decide)).1

end Record

end TypedRecords
