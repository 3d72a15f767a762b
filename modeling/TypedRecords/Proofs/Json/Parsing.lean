import TypedRecords.Json.Basic
import TypedRecords.Proofs.Json.Lexing

namespace TypedRecords.Json

@[elab_as_elim]
theorem induction {motive : Json → Prop} (null : motive .null) (bool : ∀ b, motive (.bool b))
    (number : ∀ n, motive (.number n)) (string : ∀ s, motive (.string s))
    (array : ∀ items, (∀ v ∈ items, motive v) → motive (.array items))
    (object : ∀ members, (∀ m ∈ members, motive m.2) → motive (.object members)) :
    ∀ v, motive v
  | .null => null
  | .bool b => bool b
  | .number n => number n
  | .string s => string s
  | .array items =>
    array items fun v _ => induction null bool number string array object v
  | .object members =>
    object members fun m _ => induction null bool number string array object m.2
termination_by v => sizeOf v
decreasing_by
  · simp_wf
    have := List.sizeOf_lt_of_mem ‹_ ∈ items›
    omega
  · simp_wf
    have := List.sizeOf_lt_of_mem ‹_ ∈ members›
    cases m
    simp_all
    omega

theorem itemTokens_eq_map (items : List Json) : itemTokens items = items.map tokens := by
  induction items with
  | nil => rfl
  | cons v items ih => rw [itemTokens, ih, List.map_cons]

def memberRow (m : Text × Json) : List Token :=
  .string m.1 :: .colon :: tokens m.2

theorem memberTokens_eq_map (members : List (Text × Json)) :
    memberTokens members = members.map memberRow := by
  induction members with
  | nil => rfl
  | cons m members ih => rw [memberTokens, ih, List.map_cons, memberRow]

theorem separated_cons_cons (row row' : List Token) (rows : List (List Token)) (ts : List Token) :
    separated (row :: row' :: rows) ++ ts =
      row ++ .comma :: (separated (row' :: rows) ++ ts) := by
  simp [separated]

theorem separated_cons (row : List Token) (rows : List (List Token)) :
    ∃ rest, separated (row :: rows) = row ++ rest := by
  cases rows with
  | nil => exact ⟨[], (List.append_nil row).symm⟩
  | cons row' rows =>
      refine ⟨.comma :: separated (row' :: rows), ?_⟩
      simpa using separated_cons_cons row row' rows []

theorem isChain_cons_word {t : Token} {ts : List Token} (ht : ¬t.IsNumber)
    (hts : ts.IsChain Token.Apart) : (t :: ts).IsChain Token.Apart :=
  List.isChain_cons.mpr ⟨fun _ _ hnumber => absurd hnumber ht, hts⟩

theorem isChain_append_word {ts us : List Token} {t : Token} (ht : ¬t.IsNumber)
    (hts : ts.IsChain Token.Apart) (hus : us.IsChain Token.Apart) :
    (ts ++ t :: us).IsChain Token.Apart := by
  refine hts.append (isChain_cons_word ht hus) ?_
  rintro u _ _ ⟨⟩ _
  exact ht

theorem isChain_separated {rows : List (List Token)}
    (h : ∀ row ∈ rows, row.IsChain Token.Apart) : (separated rows).IsChain Token.Apart := by
  fun_induction separated rows with
  | case1 => exact .nil
  | case2 row => exact h row List.mem_cons_self
  | case3 row rows _ ih =>
      have hcomma : ¬Token.comma.IsNumber := by rintro ⟨_, ⟨⟩⟩
      exact isChain_append_word hcomma (h row List.mem_cons_self)
        (ih fun row' hrow => h row' (List.mem_cons_of_mem _ hrow))

theorem isChain_enclosed {first last : Token} {rows : List (List Token)} (hfirst : ¬first.IsNumber)
    (hlast : ¬last.IsNumber) (h : ∀ row ∈ rows, row.IsChain Token.Apart) :
    (first :: separated rows ++ [last]).IsChain Token.Apart :=
  isChain_cons_word hfirst (isChain_append_word hlast (isChain_separated h) .nil)

theorem isChain_tokens (v : Json) : v.tokens.IsChain Token.Apart := by
  induction v using induction with
  | array items ih =>
      rw [tokens, itemTokens_eq_map]
      refine isChain_enclosed (by rintro ⟨_, ⟨⟩⟩) (by rintro ⟨_, ⟨⟩⟩) ?_
      exact List.forall_mem_map.mpr ih
  | object members ih =>
      rw [tokens, memberTokens_eq_map]
      refine isChain_enclosed (by rintro ⟨_, ⟨⟩⟩) (by rintro ⟨_, ⟨⟩⟩) ?_
      refine List.forall_mem_map.mpr fun m hm => ?_
      exact isChain_cons_word (by rintro ⟨_, ⟨⟩⟩) (isChain_cons_word (by rintro ⟨_, ⟨⟩⟩) (ih m hm))
  | _ => exact .singleton _

def Reading.pushAll (r : Reading) (ts : List Token) : Option Reading :=
  ts.foldlM Reading.push r

theorem Reading.pushAll_cons {r r' : Reading} {t : Token} (h : r.push t = some r')
    (ts : List Token) : r.pushAll (t :: ts) = r'.pushAll ts := by
  rw [pushAll, List.foldlM_cons, h]
  rfl

/-- Wherever a value is expected, the tokens of `v` are read as it. -/
def IsRead (v : Json) : Prop :=
  ∀ stack ts, (Reading.value stack).pushAll (v.tokens ++ ts) = (Reading.finished v stack).pushAll ts

theorem pushAll_firstItem (v : Json) (stack : List Frame) (ts : List Token) :
    (Reading.firstItem stack).pushAll (v.tokens ++ ts) =
      (Reading.value (.items [] :: stack)).pushAll (v.tokens ++ ts) := by
  cases v <;> rfl

theorem pushAll_firstKey (m : Text × Json) (stack : List Frame) (ts : List Token) :
    (Reading.firstKey stack).pushAll (memberRow m ++ ts) =
      (Reading.key [] stack).pushAll (memberRow m ++ ts) :=
  rfl

theorem pushAll_items {v : Json} {items : List Json} (h : ∀ w ∈ v :: items, w.IsRead)
    (done : List Json) (stack : List Frame) (ts : List Token) :
    (Reading.value (.items done :: stack)).pushAll
        (separated ((v :: items).map tokens) ++ .closeBracket :: ts) =
      (Reading.finished (.array (done.reverse ++ v :: items)) stack).pushAll ts := by
  induction items generalizing v done with
  | nil =>
      rw [List.map_singleton, separated, h v List.mem_cons_self, Reading.pushAll_cons rfl,
        List.reverse_cons]
  | cons w items ih =>
      have hothers : ∀ x ∈ w :: items, x.IsRead := fun x hx => h x (List.mem_cons_of_mem v hx)
      calc
        _ = (Reading.value (.items done :: stack)).pushAll (v.tokens ++
              .comma :: (separated ((w :: items).map tokens) ++ .closeBracket :: ts)) := by
          rw [List.map_cons, List.map_cons, separated_cons_cons]
        _ = (Reading.value (.items (v :: done) :: stack)).pushAll
              (separated ((w :: items).map tokens) ++ .closeBracket :: ts) := by
          rw [h v List.mem_cons_self, Reading.pushAll_cons rfl]
        _ = _ := by
          rw [ih hothers, List.reverse_cons, List.append_assoc, List.singleton_append]

theorem pushAll_memberRow {m : Text × Json} (h : m.2.IsRead) (done : List (Text × Json))
    (stack : List Frame) (ts : List Token) :
    (Reading.key done stack).pushAll (memberRow m ++ ts) =
      (Reading.finished m.2 (.members done m.1 :: stack)).pushAll ts := by
  rw [memberRow, List.cons_append, List.cons_append, Reading.pushAll_cons rfl,
    Reading.pushAll_cons rfl, h]

theorem pushAll_members {m : Text × Json} {members : List (Text × Json)}
    (h : ∀ m' ∈ m :: members, m'.2.IsRead) (done : List (Text × Json)) (stack : List Frame)
    (ts : List Token) :
    (Reading.key done stack).pushAll
        (separated ((m :: members).map memberRow) ++ .closeBrace :: ts) =
      (Reading.finished (.object (done.reverse ++ m :: members)) stack).pushAll ts := by
  induction members generalizing m done with
  | nil =>
      rw [List.map_singleton, separated, pushAll_memberRow (h m List.mem_cons_self),
        Reading.pushAll_cons rfl, List.reverse_cons]
  | cons m' members ih =>
      have hothers : ∀ x ∈ m' :: members, x.2.IsRead := fun x hx =>
        h x (List.mem_cons_of_mem m hx)
      calc
        _ = (Reading.key done stack).pushAll (memberRow m ++
              .comma :: (separated ((m' :: members).map memberRow) ++ .closeBrace :: ts)) := by
          rw [List.map_cons, List.map_cons, separated_cons_cons]
        _ = (Reading.key (m :: done) stack).pushAll
              (separated ((m' :: members).map memberRow) ++ .closeBrace :: ts) := by
          rw [pushAll_memberRow (h m List.mem_cons_self), Reading.pushAll_cons rfl]
        _ = _ := by
          rw [ih hothers, List.reverse_cons, List.append_assoc, List.singleton_append]

theorem isRead (v : Json) : v.IsRead := by
  induction v using induction with
  | array items ih =>
      intro stack ts
      rw [tokens, itemTokens_eq_map, List.cons_append, List.cons_append, List.append_assoc,
        Reading.pushAll_cons rfl]
      cases items with
      | nil => exact Reading.pushAll_cons rfl ts
      | cons v items =>
          obtain ⟨rest, hrest⟩ := separated_cons v.tokens (items.map tokens)
          rw [List.map_cons, hrest, List.append_assoc, pushAll_firstItem, ← List.append_assoc,
            ← hrest, ← List.map_cons]
          exact pushAll_items ih [] stack ts
  | object members ih =>
      intro stack ts
      rw [tokens, memberTokens_eq_map, List.cons_append, List.cons_append, List.append_assoc,
        Reading.pushAll_cons rfl]
      cases members with
      | nil => exact Reading.pushAll_cons rfl ts
      | cons m members =>
          obtain ⟨rest, hrest⟩ := separated_cons (memberRow m) (members.map memberRow)
          rw [List.map_cons, hrest, List.append_assoc, pushAll_firstKey, ← List.append_assoc,
            ← hrest, ← List.map_cons]
          exact pushAll_members ih [] stack ts
  | _ => exact fun stack ts => Reading.pushAll_cons rfl ts

theorem ofTokens_tokens (v : Json) : ofTokens v.tokens = some v := by
  have hread := v.isRead [] []
  rw [List.append_nil] at hread
  rw [ofTokens, ← Reading.pushAll, hread]
  rfl

/-- A text that writes `v`, with insignificant white space anywhere around its tokens. -/
def Written (v : Json) (s : String) : Prop :=
  Spaced v.tokens s.toList

theorem Written.parse_eq {v : Json} {s : String} (h : v.Written s) : parse s = some v := by
  rw [parse, h.lex_eq v.isChain_tokens]
  exact v.ofTokens_tokens

theorem Written.between {v : Json} {before s after : String} (h : v.Written s)
    (hbefore : Blank before.toList) (hafter : Blank after.toList) :
    v.Written (before ++ s ++ after) := by
  rw [Written, String.toList_append, String.toList_append]
  exact (h.blank_append hbefore).append_blank hafter

theorem written_render (v : Json) : v.Written v.render := by
  rw [Written, render, String.toList_ofList]
  exact spaced_flatMap_text v.tokens

theorem parse_render (v : Json) : parse v.render = some v :=
  v.written_render.parse_eq

end TypedRecords.Json
