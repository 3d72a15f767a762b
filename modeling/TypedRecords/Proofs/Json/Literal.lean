import TypedRecords.Json.Token
import TypedRecords.Proofs.Text.Digits

namespace TypedRecords.Json

inductive Piece.Spelling : Piece → List Char → Prop
  | plain {c : Char} (hprintable : ¬c.toNat < 0x20) (hquote : c ≠ '"') (hslash : c ≠ '\\') :
      Spelling (.char c) [c]
  | escaped {e c : Char} (h : unescape e = some c) : Spelling (.char c) ['\\', e]
  | unit {a b c d : Char} {n : Nat} (h : hexUnit a b c d = some n) :
      Spelling (.unit n) ['\\', 'u', a, b, c, d]

/-- The inside of a literal that consists of the given pieces. -/
inductive Inside : List Piece → List Char → Prop
  | nil : Inside [] []
  | cons {piece : Piece} {pieces : List Piece} {cs inside : List Char}
      (first : piece.Spelling cs) (others : Inside pieces inside) :
      Inside (piece :: pieces) (cs ++ inside)

theorem literal_of_inside {pieces : List Piece} {inside : List Char} (h : Inside pieces inside)
    (rest : List Char) : literal (inside ++ '"' :: rest) = some (pieces, rest) := by
  induction h with
  | nil => rw [List.nil_append, literal]
  | cons first others ih =>
      cases first with
      | plain hprintable hquote hslash =>
          rename_i c
          rw [List.singleton_append, List.cons_append, literal, if_neg hprintable, ih]
          · rfl
          · exact hquote
          all_goals simp [hslash]
      | escaped hescape =>
          rename_i e c
          have hunit : e ≠ 'u' := by
            rintro rfl
            have hnone : unescape 'u' = none := by decide
            simp [hnone] at hescape
          simp only [List.cons_append, List.nil_append]
          rw [literal, hescape]
          · simp only [ih, Option.bind_eq_bind, Option.bind_some, Option.pure_def]
          · simp [hunit]
      | unit hunit =>
          simp only [List.cons_append, List.nil_append]
          rw [literal, hunit]
          simp only [ih, Option.bind_eq_bind, Option.bind_some, Option.pure_def]

theorem characters_unit {n : Nat} (h : isSurrogate n = false) (pieces : List Piece) :
    characters (.unit n :: pieces) = (characters pieces).map (Char.ofNat n :: ·) := by
  rw [characters.eq_def]
  simp only [h, Bool.false_eq_true, if_false]

theorem escape_cases (c : Char) : (∃ e, unescape e = some c ∧ escape c = ['\\', e]) ∨
    (c.toNat < 0x20 ∧ escape c = ['\\', 'u'] ++ Text.hexDigits 4 c.toNat) ∨
      (¬c.toNat < 0x20 ∧ c ≠ '"' ∧ c ≠ '\\' ∧ escape c = [c]) := by
  fun_cases escape c with
  | case1 h => exact .inl ⟨'"', by rw [h]; rfl, rfl⟩
  | case2 _ h => exact .inl ⟨'\\', by rw [h]; rfl, rfl⟩
  | case3 _ _ h => exact .inl ⟨'b', by rw [h]; rfl, rfl⟩
  | case4 _ _ _ h => exact .inl ⟨'f', by rw [h]; rfl, rfl⟩
  | case5 _ _ _ _ h => exact .inl ⟨'n', by rw [h]; rfl, rfl⟩
  | case6 _ _ _ _ _ h => exact .inl ⟨'r', by rw [h]; rfl, rfl⟩
  | case7 _ _ _ _ _ _ h => exact .inl ⟨'t', by rw [h]; rfl, rfl⟩
  | case8 _ _ _ _ _ _ _ hcontrol => exact .inr (.inl ⟨hcontrol, rfl⟩)
  | case9 hquote hslash _ _ _ _ _ hprintable =>
      exact .inr (.inr ⟨hprintable, hquote, hslash, rfl⟩)

theorem exists_spelling_escape (c : Char) : ∃ piece : Piece, piece.Spelling (escape c) ∧
    ∀ pieces, characters (piece :: pieces) = (characters pieces).map (c :: ·) := by
  rcases escape_cases c with ⟨e, hunescape, hescape⟩ | ⟨hcontrol, hescape⟩ |
    ⟨hprintable, hquote, hslash, hescape⟩
  · exact ⟨.char c, hescape ▸ .escaped hunescape, fun _ => rfl⟩
  · have hunit : Text.hexNumber? (Text.hexDigits 4 c.toNat) = some c.toNat :=
      Text.hexNumber?_hexDigits (by decide) (by omega)
    have hordinary : isSurrogate c.toNat = false := by
      simp only [isSurrogate, Bool.and_eq_false_iff, decide_eq_false_iff_not]
      omega
    refine ⟨.unit c.toNat, hescape ▸ .unit hunit, fun pieces => ?_⟩
    rw [characters_unit hordinary, Char.ofNat_toNat]
  · exact ⟨.char c, hescape ▸ .plain hprintable hquote hslash, fun _ => rfl⟩

theorem exists_inside_flatMap_escape (cs : List Char) :
    ∃ pieces, Inside pieces (cs.flatMap escape) ∧ characters pieces = some cs := by
  induction cs with
  | nil => exact ⟨[], .nil, rfl⟩
  | cons c cs ih =>
      obtain ⟨pieces, hinside, hcharacters⟩ := ih
      obtain ⟨piece, hpiece, hadds⟩ := exists_spelling_escape c
      refine ⟨piece :: pieces, .cons hpiece hinside, ?_⟩
      rw [hadds, hcharacters, Option.map_some]

def IsDigits (cs : List Char) : Prop :=
  cs ≠ [] ∧ ∀ c ∈ cs, c.isDigit = true

/-- Nothing in front would be read as more digits. -/
def EndsDigits (rest : List Char) : Prop :=
  ∀ c ∈ rest.head?, c.isDigit = false

/-- Nothing in front would be read as a part of a number. -/
def EndsNumber (rest : List Char) : Prop :=
  ∀ c ∈ rest.head?, c.isDigit = false ∧ c ≠ '.' ∧ c ≠ 'e' ∧ c ≠ 'E'

theorem takeWhile_isDigit_append {digits rest : List Char} (h : ∀ c ∈ digits, c.isDigit = true)
    (hrest : EndsDigits rest) : (digits ++ rest).takeWhile Char.isDigit = digits := by
  rw [List.takeWhile_append_of_pos h]
  cases rest with
  | nil => simp
  | cons c rest => simp [hrest c rfl]

theorem dropWhile_isDigit_append {digits rest : List Char} (h : ∀ c ∈ digits, c.isDigit = true)
    (hrest : EndsDigits rest) : (digits ++ rest).dropWhile Char.isDigit = rest := by
  rw [List.dropWhile_append_of_pos h]
  cases rest with
  | nil => rfl
  | cons c rest => simp [hrest c rfl]

theorem dropDigits_append {digits rest : List Char} (h : IsDigits digits)
    (hrest : EndsDigits rest) : dropDigits (digits ++ rest) = some rest := by
  rw [dropDigits, takeWhile_isDigit_append h.2 hrest, dropWhile_isDigit_append h.2 hrest, if_neg]
  simp [h.1]

inductive Exponent : (isReal : Bool) → List Char → Prop
  | absent : Exponent false []
  | present {e : Char} {sign digits : List Char} (he : e = 'e' ∨ e = 'E')
      (hsign : sign = [] ∨ sign = ['+'] ∨ sign = ['-']) (hdigits : IsDigits digits) :
      Exponent true (e :: (sign ++ digits))

/-- What can follow the whole part of a number: a fraction and an exponent, if there are. -/
inductive RealPart : (isReal : Bool) → List Char → Prop
  | whole {isReal : Bool} {cs : List Char} (h : Exponent isReal cs) : RealPart isReal cs
  | fraction {isReal : Bool} {digits cs : List Char} (hdigits : IsDigits digits)
      (h : Exponent isReal cs) : RealPart true ('.' :: (digits ++ cs))

variable {isReal : Bool} {cs rest : List Char}

theorem Exponent.head_append (h : Exponent isReal cs) (hrest : EndsNumber rest) :
    ∀ c ∈ (cs ++ rest).head?, c.isDigit = false ∧ c ≠ '.' := by
  intro c hc
  cases h with
  | absent => exact ⟨(hrest c hc).1, (hrest c hc).2.1⟩
  | present he =>
      cases hc
      rcases he with rfl | rfl <;> decide

theorem Exponent.dropExponent_append (h : Exponent isReal cs) (hrest : EndsNumber rest) :
    dropExponent (cs ++ rest) = some (isReal, rest) := by
  have hends : EndsDigits rest := fun c hc => (hrest c hc).1
  cases h with
  | absent =>
      cases rest with
      | nil => rfl
      | cons c rest =>
          have hc := hrest c rfl
          simp [dropExponent, hc]
  | present he hsign hdigits =>
      have hdrop := dropDigits_append hdigits hends
      obtain ⟨hne, hall⟩ := hdigits
      simp only [List.cons_append, List.append_assoc, dropExponent, if_pos he]
      rcases hsign with rfl | rfl | rfl
      · rename_i e digits
        cases digits with
        | nil => exact absurd rfl hne
        | cons d digits =>
            have hd : d.isDigit = true := hall d List.mem_cons_self
            have hplus : d ≠ '+' := by
              rintro rfl
              exact absurd hd (by decide)
            have hminus : d ≠ '-' := by
              rintro rfl
              exact absurd hd (by decide)
            rw [List.cons_append] at hdrop
            simp [hplus, hminus, hdrop]
      · simp [hdrop]
      · simp [hdrop]

theorem RealPart.head_append (h : RealPart isReal cs) (hrest : EndsNumber rest) :
    EndsDigits (cs ++ rest) := by
  cases h with
  | whole h => exact fun c hc => (h.head_append hrest c hc).1
  | fraction => rintro c ⟨⟩; rfl

theorem RealPart.dropReal_append (h : RealPart isReal cs) (hrest : EndsNumber rest) :
    dropReal (cs ++ rest) = some (isReal, rest) := by
  cases h with
  | whole h =>
      have hpoint := h.head_append hrest
      have hdrop := h.dropExponent_append hrest
      cases hcs : cs ++ rest with
      | nil => rwa [hcs] at hdrop
      | cons c tail =>
          rw [hcs] at hpoint hdrop
          rw [dropReal, hdrop]
          rintro _ ⟨⟩
          exact (hpoint _ rfl).2 rfl
  | fraction hdigits h =>
      have hends : EndsDigits (_ ++ rest) := fun c hc => (h.head_append hrest c hc).1
      rw [List.cons_append, List.append_assoc, dropReal, dropDigits_append hdigits hends]
      simp only [h.dropExponent_append hrest, Option.bind_eq_bind, Option.bind_some,
        Option.pure_def]

theorem unsigned_append (h : RealPart isReal cs) (hrest : EndsNumber rest) (negative : Bool)
    (n : Nat) : unsigned negative (Text.decimalDigits n ++ (cs ++ rest)) =
      some (if isReal then .real else .integer negative n, rest) := by
  have hall : ∀ d ∈ Text.decimalDigits n, d.isDigit = true := fun _ =>
    Text.isDigit_of_mem_decimalDigits
  have hends := h.head_append hrest
  have hstart : ((Text.decimalDigits n).isEmpty ||
      ((Text.decimalDigits n).head? == some '0' && 1 < (Text.decimalDigits n).length)) = false := by
    rw [Bool.or_eq_false_iff, List.isEmpty_eq_false_iff]
    refine ⟨Text.decimalDigits_ne_nil n, ?_⟩
    rw [Bool.and_eq_false_iff, beq_eq_false_iff_ne]
    by_cases hzero : (Text.decimalDigits n).head? = some '0'
    · rw [Text.eq_zero_of_head?_decimalDigits hzero]
      exact .inr (by decide)
    · exact .inl hzero
  simp only [unsigned, takeWhile_isDigit_append hall hends, dropWhile_isDigit_append hall hends,
    hstart, h.dropReal_append hrest, Text.decimalValue_decimalDigits]
  rfl

def sign (negative : Bool) : List Char :=
  if negative then ['-'] else []

inductive Numeral.Spelling : Numeral → List Char → Prop
  | integer (negative : Bool) (n : Nat) :
      Spelling (.integer negative n) (sign negative ++ Text.decimalDigits n)
  | real (negative : Bool) (n : Nat) {cs : List Char} (h : RealPart true cs) :
      Spelling .real (sign negative ++ (Text.decimalDigits n ++ cs))

end TypedRecords.Json
