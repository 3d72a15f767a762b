import Mathlib.Data.List.ReduceOption
import TypedRecords.Converter.Calendar
import TypedRecords.Converter.Collection
import TypedRecords.Proofs.Collection.Pairing
import TypedRecords.Proofs.Collection.Sorted

namespace TypedRecords

/-- The collection with the elements of a list added one after the other. -/
def Gathering.addAll {C E : Type} [Gathering C E] (c : C) (xs : List E) : C :=
  xs.foldl Gathering.add c

open Gathering (addAll)

theorem addAll_list {E : Type} (xs ys : List E) : addAll xs ys = xs ++ ys := by
  induction ys generalizing xs with
  | nil => exact (List.append_nil xs).symm
  | cons y ys ih =>
      change addAll (xs ++ [y]) ys = _
      rw [ih, List.append_assoc, List.singleton_append]

theorem mem_addAll_set {E : Type} [Ord E] [Std.TransOrd E] {s : SortedSet E} {xs : List E}
    {x : E} : x ∈ (addAll s xs).toList ↔ FirstOf Tied (s.toList ++ xs) x :=
  SortedSet.mem_insertAll

section Gather

variable {A B C : Type} [Gathering C B] {convert : A → Except ConversionError (Option B)}
  {c : C} {x : A} {xs : List A} {e : ConversionError}

theorem gather_cons_of_ok {y : Option B} (h : convert x = .ok y) :
    gather convert c (x :: xs) = gather convert (addAll c y.toList) xs := by
  rw [gather, h]
  cases y <;> rfl

theorem gather_of_forall₂ {ys : List (Option B)}
    (h : xs.Forall₂ (fun x y => convert x = .ok y) ys) :
    gather convert c xs = .ok (addAll c ys.reduceOption) := by
  induction h generalizing c with
  | nil => rfl
  | @cons x y xs ys hx _ ih =>
      rw [gather_cons_of_ok hx, ih]
      cases y <;> rfl

theorem gather_eq_ok_iff {r : C} : gather convert c xs = .ok r ↔
    ∃ ys, xs.Forall₂ (fun x y => convert x = .ok y) ys ∧ r = addAll c ys.reduceOption := by
  constructor
  · intro h
    induction xs generalizing c with
    | nil =>
        cases h
        exact ⟨[], .nil, rfl⟩
    | cons x xs ih =>
        cases hx : convert x with
        | error e =>
            rw [gather, hx] at h
            cases h
        | ok y =>
            rw [gather_cons_of_ok hx] at h
            obtain ⟨ys, hys, rfl⟩ := ih h
            refine ⟨y :: ys, .cons hx hys, ?_⟩
            cases y <;> rfl
  · rintro ⟨ys, hys, rfl⟩
    exact gather_of_forall₂ hys

theorem gather_eq_error_iff : gather convert c xs = .error e ↔
    ∃ before x after, xs = before ++ x :: after ∧ (∀ w ∈ before, ∃ y, convert w = .ok y) ∧
      convert x = .error e := by
  constructor
  · intro h
    induction xs generalizing c with
    | nil => cases h
    | cons x xs ih =>
        cases hx : convert x with
        | error e' =>
            rw [gather, hx] at h
            cases h
            exact ⟨[], x, xs, rfl, List.forall_mem_nil _, hx⟩
        | ok y =>
            rw [gather_cons_of_ok hx] at h
            obtain ⟨before, x', after, rfl, hbefore, hx'⟩ := ih h
            exact ⟨x :: before, x', after, rfl, List.forall_mem_cons.mpr ⟨⟨y, hx⟩, hbefore⟩, hx'⟩
  · rintro ⟨before, x, after, rfl, hbefore, hx⟩
    induction before generalizing c with
    | nil =>
        rw [List.nil_append, gather, hx]
        rfl
    | cons w before ih =>
        obtain ⟨⟨y, hw⟩, hothers⟩ := List.forall_mem_cons.mp hbefore
        rw [List.cons_append, gather_cons_of_ok hw, ih hothers]

theorem gather_of_present {ys : List B} (h : xs.Forall₂ (fun x y => convert x = .ok (some y)) ys) :
    gather convert c xs = .ok (addAll c ys) := by
  have hsome : xs.Forall₂ (fun x y => convert x = .ok y) (ys.map some) :=
    List.forall₂_map_right_iff.mpr h
  have hpresent : (ys.map some).reduceOption = ys := by
    rw [List.reduceOption, List.filterMap_map, Function.id_comp, List.filterMap_some]
  rw [gather_of_forall₂ hsome, hpresent]

end Gather

/-- A conversion of collections that converts their elements and adds what is present to the
collection it starts from. -/
structure Lifts {A B C D : Type} [Gathering C A] [Gathering D B]
    (convert : Option A → Except ConversionError (Option B)) (start : D)
    (lifted : Option C → Except ConversionError (Option D)) : Prop where
  succeeds_iff : ∀ c, (∃ r, lifted (some c) = .ok r) ↔
    ∀ x ∈ Gathering.toList c, ∃ y, convert (some x) = .ok y
  ok_iff : ∀ c r, lifted (some c) = .ok r ↔
    ∃ ys, (Gathering.toList c).Forall₂ (fun x y => convert (some x) = .ok y) ys ∧
      r = some (addAll start ys.reduceOption)
  error_iff : ∀ c e, lifted (some c) = .error e ↔
    ∃ before x after, Gathering.toList c = before ++ x :: after ∧
      (∀ w ∈ before, ∃ y, convert (some w) = .ok y) ∧ convert (some x) = .error e

theorem lifts_gather {A B C D : Type} [Gathering C A] [Gathering D B]
    {convert : Option A → Except ConversionError (Option B)} {start : D}
    {lifted : Option C → Except ConversionError (Option D)}
    (h : ∀ c, lifted (some c) =
      (gather (fun x => convert (some x)) start (Gathering.toList c)).map some) :
    Lifts convert start lifted := by
  have hok (c : C) (r : Option D) : lifted (some c) = .ok r ↔
      ∃ ys, (Gathering.toList c).Forall₂ (fun x y => convert (some x) = .ok y) ys ∧
        r = some (addAll start ys.reduceOption) := by
    rw [h]
    constructor
    · intro hr
      cases hgathered : gather (fun x => convert (some x)) start (Gathering.toList c) with
      | error e =>
          rw [hgathered] at hr
          cases hr
      | ok gathered =>
          rw [hgathered] at hr
          cases hr
          obtain ⟨ys, hys, rfl⟩ := gather_eq_ok_iff.mp hgathered
          exact ⟨ys, hys, rfl⟩
    · rintro ⟨ys, hys, rfl⟩
      rw [gather_of_forall₂ hys]
      rfl
  refine ⟨fun c => ⟨?_, fun hconverts => ?_⟩, hok, fun c e => ?_⟩
  · rintro ⟨r, hr⟩ x hx
    obtain ⟨ys, hys, -⟩ := (hok c r).mp hr
    obtain ⟨y, -, hy⟩ := exists_of_forall₂ hys hx
    exact ⟨y, hy⟩
  · obtain ⟨ys, hys⟩ := exists_forall₂ hconverts
    exact ⟨_, (hok c _).mpr ⟨ys, hys, rfl⟩⟩
  · rw [h, ← gather_eq_error_iff (c := start)]
    cases gather (fun x => convert (some x)) start (Gathering.toList c) <;> simp [Except.map]

namespace Conversion

variable {T M : Type} {element : Conversion T M}

/-- The model value of one value is there and is mapped to the other. -/
def LeadsBack (conversion : Conversion T M) (t t' : T) : Prop :=
  ∃ m, conversion.toModel (some t) = .ok (some m) ∧ conversion.fromModel (some m) = .ok (some t')

theorem LeadsBack.unique {conversion : Conversion T M} {t t' t'' : T}
    (h : conversion.LeadsBack t t') (h' : conversion.LeadsBack t t'') : t' = t'' := by
  obtain ⟨m, hm, hback⟩ := h
  obtain ⟨n, hn, hback'⟩ := h'
  rw [hm] at hn
  cases hn
  rw [hback] at hback'
  cases hback'
  rfl

/-- A value and a model value that are made of each other. -/
def Exchanges (element : Conversion T M) (t : T) (m : M) : Prop :=
  element.toModel (some t) = .ok (some m) ∧ element.fromModel (some m) = .ok (some t)

/-- Two values have model values that their order does not tell apart. -/
def TiedInModel [Ord M] (element : Conversion T M) (a b : T) : Prop :=
  ∃ m n, element.toModel (some a) = .ok (some m) ∧ element.toModel (some b) = .ok (some n) ∧
    Tied m n

/-- Different elements of a list have model values that their order tells apart. -/
def Separates [Ord M] (element : Conversion T M) (xs : List T) : Prop :=
  ∀ a ∈ xs, ∀ b ∈ xs, element.TiedInModel a b → a = b

/-- Of the elements of a list whose model values are tied the first, in the order of their model
values. -/
structure DistinctByModel [Ord M] (element : Conversion T M) (xs distinct : List T) : Prop where
  nodup : distinct.Nodup
  mem_iff : ∀ t, t ∈ distinct ↔ FirstOf element.TiedInModel xs t
  increasing : distinct.Pairwise fun a b => ∃ m n, element.toModel (some a) = .ok (some m) ∧
    element.toModel (some b) = .ok (some n) ∧ compare m n = .lt

/-- What comes back from the models of lists and sets, each made from nothing, if every element
comes back from its model. -/
structure GivesBackCollections (element : Conversion T M) : Prop where
  list_list : ∀ xs : List T, (∀ t ∈ xs, element.LeadsBack t t) →
    (element.each ([] : List T) ([] : List M)).LeadsBack xs xs
  set_list : ∀ [Ord T] [Std.TransOrd T] (s : SortedSet T),
    (∀ t ∈ s.toList, element.LeadsBack t t) →
      (element.each (.empty : SortedSet T) ([] : List M)).LeadsBack s s
  set_set : ∀ [Ord T] [Std.TransOrd T] [Ord M] [Std.TransOrd M] (s : SortedSet T),
    (∀ t ∈ s.toList, element.LeadsBack t t) →
      ∃ r, (element.each (.empty : SortedSet T) (.empty : SortedSet M)).LeadsBack s r ∧
        (∀ t, t ∈ r.toList ↔ FirstOf element.TiedInModel s.toList t) ∧
        (r = s ↔ element.Separates s.toList)
  list_set : ∀ [Ord M] [Std.TransOrd M] (xs : List T), (∀ t ∈ xs, element.LeadsBack t t) →
    ∃ r, (element.each ([] : List T) (.empty : SortedSet M)).LeadsBack xs r ∧
      element.DistinctByModel xs r ∧ ((∀ t, t ∈ r ↔ t ∈ xs) ↔ element.Separates xs)

section GivesBack

variable {xs ts : List T} {ms : List M} {a b : T} {m n : M}

theorem exchanges_biUnique (element : Conversion T M) : Relator.BiUnique element.Exchanges := by
  constructor
  · rintro a b m ⟨-, ha⟩ ⟨-, hb⟩
    rw [ha] at hb
    cases hb
    rfl
  · rintro t m n ⟨hm, -⟩ ⟨hn, -⟩
    rw [hm] at hn
    cases hn
    rfl

theorem each_leadsBack {C D : Type} [Gathering C T] [Gathering D M] {start : C} {startModel : D}
    {c : C} (hms : (Gathering.toList c).Forall₂ element.Exchanges ms)
    (hts : ts.Forall₂ element.Exchanges (Gathering.toList (addAll startModel ms))) :
    (element.each start startModel).LeadsBack c (addAll start ts) := by
  have hmodels : gather (fun t => element.toModel (some t)) startModel (Gathering.toList c) =
      .ok (addAll startModel ms) :=
    gather_of_present (hms.imp fun _ _ h => h.1)
  have hvalues : gather (fun m => element.fromModel (some m)) start
      (Gathering.toList (addAll startModel ms)) = .ok (addAll start ts) :=
    gather_of_present (hts.flip.imp fun _ _ h => h.2)
  exact ⟨addAll startModel ms, congrArg (Except.map some) hmodels,
    congrArg (Except.map some) hvalues⟩

variable [Ord M]

theorem tiedInModel_iff (ha : element.Exchanges a m) (hb : element.Exchanges b n) :
    element.TiedInModel a b ↔ Tied m n := by
  constructor
  · rintro ⟨m', n', hm, hn, htied⟩
    rw [ha.1] at hm
    rw [hb.1] at hn
    cases hm
    cases hn
    exact htied
  · intro htied
    exact ⟨m, n, ha.1, hb.1, htied⟩

variable [Std.TransOrd M]

theorem TiedInModel.symm (a b : T) : element.TiedInModel a b → element.TiedInModel b a := by
  rintro ⟨m, n, hm, hn, htied⟩
  exact ⟨n, m, hn, hm, Tied.symm m n htied⟩

theorem separates_iff (h : ∀ t, t ∈ ts ↔ FirstOf element.TiedInModel xs t) :
    (∀ t, t ∈ ts ↔ t ∈ xs) ↔ element.Separates xs := by
  simp only [h]
  exact forall_firstOf_iff_mem TiedInModel.symm

theorem distinctByModel_of_increasing (hts : ts.Forall₂ element.Exchanges ms)
    (hincreasing : Increasing (fun m : M => m) ms)
    (hmem : ∀ t, t ∈ ts ↔ FirstOf element.TiedInModel xs t) : element.DistinctByModel xs ts := by
  have hpairs := pairwise_of_forall₂ hts hincreasing
  refine ⟨hpairs.imp ?_, hmem, hpairs.imp ?_⟩
  · rintro a b ⟨m, n, hm, hn, hlt⟩ rfl
    rw [(exchanges_biUnique element).2 hm hn] at hlt
    simp at hlt
  · rintro a b ⟨m, n, hm, hn, hlt⟩
    exact ⟨m, n, hm.1, hn.1, hlt⟩

theorem exists_distinctByModel (h : xs.Forall₂ element.Exchanges ms) :
    ∃ ts : List T, ts.Forall₂ element.Exchanges (addAll (.empty : SortedSet M) ms).toList ∧
      element.DistinctByModel xs ts := by
  have hunique := exchanges_biUnique element
  have hmem (m : M) : m ∈ (addAll (.empty : SortedSet M) ms).toList ↔ FirstOf Tied ms m :=
    mem_addAll_set
  have hfirst {t : T} {m : M} (htm : element.Exchanges t m) :
      FirstOf element.TiedInModel xs t ↔ FirstOf Tied ms m :=
    firstOf_iff_of_forall₂ hunique (fun _ _ _ _ => tiedInModel_iff) h htm
  have hvalue : ∀ m ∈ (addAll (.empty : SortedSet M) ms).toList, ∃ t, element.Exchanges t m := by
    intro m hm
    obtain ⟨t, -, ht⟩ := exists_of_forall₂ h.flip ((hmem m).mp hm).mem
    exact ⟨t, ht⟩
  obtain ⟨ts, hflip⟩ := exists_forall₂ hvalue
  have hts : ts.Forall₂ element.Exchanges (addAll (.empty : SortedSet M) ms).toList := hflip.flip
  refine ⟨ts, hts, distinctByModel_of_increasing hts (SortedBy.increasing _) fun t => ?_⟩
  constructor
  · intro ht
    obtain ⟨m, hm, htm⟩ := exists_of_forall₂ hts ht
    exact (hfirst htm).mpr ((hmem m).mp hm)
  · intro ht
    obtain ⟨m, -, htm⟩ := exists_of_forall₂ h ht.mem
    obtain ⟨t', ht', htm'⟩ := exists_of_forall₂ hflip ((hmem m).mpr ((hfirst htm).mp ht))
    rwa [hunique.1 htm htm']

end GivesBack

section Start

variable {C : Type} [Gathering C T] {c : C}

theorem each_leadsBack_list (start : C) (h : ∀ t ∈ Gathering.toList c, element.LeadsBack t t) :
    (element.each start ([] : List M)).LeadsBack c (addAll start (Gathering.toList c)) := by
  obtain ⟨ms, hms⟩ := exists_forall₂ h
  have hlist : (Gathering.toList c).Forall₂ element.Exchanges (addAll [] ms) := by
    rw [addAll_list]
    exact hms
  exact each_leadsBack hms hlist

theorem each_leadsBack_set [Ord M] [Std.TransOrd M] (start : C)
    (h : ∀ t ∈ Gathering.toList c, element.LeadsBack t t) :
    ∃ ts, (element.each start (.empty : SortedSet M)).LeadsBack c (addAll start ts) ∧
      element.DistinctByModel (Gathering.toList c) ts := by
  obtain ⟨ms, hms⟩ := exists_forall₂ h
  obtain ⟨ts, hts, hdistinct⟩ := exists_distinctByModel hms
  exact ⟨ts, each_leadsBack hms hts, hdistinct⟩

end Start

theorem givesBackCollections (element : Conversion T M) : element.GivesBackCollections where
  list_list xs h := by
    have hback := each_leadsBack_list ([] : List T) h
    rwa [addAll_list] at hback
  set_list s h := by
    have hback := each_leadsBack_list (.empty : SortedSet T) h
    have hsame : addAll .empty (Gathering.toList s) = s := SortedBy.ofList_toList s
    rwa [hsame] at hback
  set_set s h := by
    obtain ⟨ts, hback, hdistinct⟩ := each_leadsBack_set (.empty : SortedSet T) h
    have happart : ∀ a ∈ ts, ∀ b ∈ ts, Tied a b → a = b := fun a ha b hb =>
      s.increasing.eq_of_tied ((hdistinct.mem_iff a).mp ha).mem ((hdistinct.mem_iff b).mp hb).mem
    have hmem (t : T) :
        t ∈ (addAll (.empty : SortedSet T) ts).toList ↔ FirstOf element.TiedInModel s.toList t := by
      rw [mem_addAll_set]
      exact ((forall_firstOf_iff_mem Tied.symm).mpr happart t).trans (hdistinct.mem_iff t)
    refine ⟨addAll .empty ts, hback, hmem, ?_⟩
    rw [← separates_iff hmem]
    exact ⟨fun heq t => by rw [heq], SortedBy.ext_mem⟩
  list_set xs h := by
    obtain ⟨ts, hback, hdistinct⟩ := each_leadsBack_set ([] : List T) h
    rw [addAll_list] at hback
    exact ⟨ts, hback, hdistinct, separates_iff hdistinct.mem_iff⟩

/-- How collections grow: a list keeps all elements in order, a set merges equal ones. -/
structure Grows (E : Type) : Prop where
  list : ∀ xs ys : List E, addAll xs ys = xs ++ ys
  set : ∀ [Ord E] [Std.TransOrd E] (s : SortedSet E) (xs : List E) (x : E),
    x ∈ (addAll s xs).toList ↔ FirstOf Tied (s.toList ++ xs) x

theorem grows (E : Type) : Grows E where
  list := addAll_list
  set _ _ _ := mem_addAll_set

structure ConvertsCollections (element : Conversion T M) : Prop where
  fromModel : ∀ {C D : Type} [Gathering C T] [Gathering D M] (start : C) (startModel : D),
    Lifts element.fromModel start (element.each start startModel).fromModel
  toModel : ∀ {C D : Type} [Gathering C T] [Gathering D M] (start : C) (startModel : D),
    Lifts element.toModel startModel (element.each start startModel).toModel
  values : Grows T
  models : Grows M
  givesBack : element.GivesBackCollections

theorem convertsCollections (element : Conversion T M) : element.ConvertsCollections where
  fromModel _ _ := lifts_gather fun _ => rfl
  toModel _ _ := lifts_gather fun _ => rfl
  values := grows T
  models := grows M
  givesBack := givesBackCollections element

end Conversion

def Sample.opposite : Conversion Int Int :=
  .ofFunctions (fun m => .ok (-m)) (fun n => .ok (-n))

open Sample in
theorem Conversion.convertsCollections_opposite : (∀ n, opposite.LeadsBack n n) ∧
    (opposite.each ([] : List Int) (.empty : SortedSet Int)).LeadsBack [2, 1, 2, 3] [3, 2, 1] ∧
    ∃ r, (opposite.each ([] : List Int) (.empty : SortedSet Int)).LeadsBack [2, 1, 2, 3] r ∧
      opposite.DistinctByModel [2, 1, 2, 3] r := by
  have hback (n : Int) : opposite.LeadsBack n n :=
    ⟨-n, rfl, congrArg (fun m => Except.ok (some m)) (Int.neg_neg n)⟩
  obtain ⟨r, hr, hdistinct, -⟩ :=
    (convertsCollections opposite).givesBack.list_set [2, 1, 2, 3] fun n _ => hback n
  exact ⟨hback, ⟨.ofList [-3, -2, -1], rfl, rfl⟩, r, hr, hdistinct⟩

namespace Sample

def twoOClock : DateTime :=
  ⟨1615687200, 0, Nat.zero_lt_succ _⟩

/-- The hours between which the clock of Eastern North America was put forward in March 2021. -/
def clockChange : SortedSet DateTime :=
  .ofList [twoOClock, twoOClock.addSeconds 3600]

/-- Whether the clock has been put forward, told by one of the two hours. -/
def putForward : Conversion Bool Timestamp :=
  .ofFunctions (fun t => .ok (t.localTime != twoOClock)) fun b =>
    timestampOf .easternAmerica (if b then twoOClock.addSeconds 3600 else twoOClock)

end Sample

open Sample in
/-- Both hours are shown at one instant, so a set of timestamps keeps only the first. -/
theorem Conversion.not_leadsBack_clockChange :
    (∀ t ∈ clockChange.toList, (DateTime.conversion .easternAmerica).LeadsBack t t) ∧
    ¬((DateTime.conversion .easternAmerica).each (.empty : SortedSet DateTime)
      (.empty : SortedSet Timestamp)).LeadsBack clockChange clockChange ∧
    (∀ b, putForward.LeadsBack b b) ∧
    ¬(putForward.each (.empty : SortedSet Bool) (.empty : SortedSet Timestamp)).LeadsBack
      (.ofList [false, true]) (.ofList [false, true]) := by
  have hhours : ((DateTime.conversion .easternAmerica).each (.empty : SortedSet DateTime)
      (.empty : SortedSet Timestamp)).LeadsBack clockChange (.ofList [twoOClock]) :=
    ⟨_, rfl, rfl⟩
  have hvalues : (putForward.each (.empty : SortedSet Bool)
      (.empty : SortedSet Timestamp)).LeadsBack (.ofList [false, true]) (.ofList [false]) :=
    ⟨_, rfl, rfl⟩
  refine ⟨?_, fun hall => ?_, ?_, fun hall => ?_⟩
  · intro t ht
    have hmem : t ∈ [twoOClock, twoOClock.addSeconds 3600] := ht
    simp only [List.mem_cons, List.not_mem_nil, or_false] at hmem
    rcases hmem with rfl | rfl
    · exact ⟨_, rfl, rfl⟩
    · exact ⟨_, rfl, rfl⟩
  · exact absurd (congrArg SortedBy.toList (hhours.unique hall)) (by decide)
  · intro b
    cases b
    · exact ⟨_, rfl, rfl⟩
    · exact ⟨_, rfl, rfl⟩
  · exact absurd (congrArg SortedBy.toList (hvalues.unique hall)) (by decide)

end TypedRecords
