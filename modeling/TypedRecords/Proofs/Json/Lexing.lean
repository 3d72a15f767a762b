import Mathlib.Data.List.Chain
import TypedRecords.Proofs.Json.Literal

namespace TypedRecords.Json

def Token.IsNumber (t : Token) : Prop :=
  ∃ n, t = .number n

inductive Token.Spelling : Token → List Char → Prop
  | word {t : Token} (hnumber : ¬t.IsNumber) (hstring : ∀ s, t ≠ .string s) : Spelling t t.text
  | number {n : Numeral} {cs : List Char} (h : n.Spelling cs) : Spelling (.number n) cs
  | string {pieces : List Piece} {inside : List Char} (h : Inside pieces inside) :
      Spelling (.string ((characters pieces).map String.ofList)) ('"' :: (inside ++ ['"']))

/-- A text that spells the tokens, with white space anywhere around them. -/
inductive Spaced : List Token → List Char → Prop
  | nil : Spaced [] []
  | space {ts : List Token} {c : Char} {cs : List Char} (h : isSpace c = true)
      (others : Spaced ts cs) : Spaced ts (c :: cs)
  | token {t : Token} {ts : List Token} {cs rest : List Char} (h : t.Spelling cs)
      (others : Spaced ts rest) : Spaced (t :: ts) (cs ++ rest)

def Blank (cs : List Char) : Prop :=
  ∀ c ∈ cs, isSpace c = true

theorem Spaced.blank_append {ts : List Token} {before cs : List Char} (hbefore : Blank before)
    (h : Spaced ts cs) : Spaced ts (before ++ cs) := by
  induction before with
  | nil => exact h
  | cons c before ih =>
      obtain ⟨hc, hothers⟩ := List.forall_mem_cons.mp hbefore
      exact .space hc (ih hothers)

theorem Spaced.append_blank {ts : List Token} {cs after : List Char} (h : Spaced ts cs)
    (hafter : Blank after) : Spaced ts (cs ++ after) := by
  induction h with
  | nil =>
      have hblank := Spaced.nil.blank_append hafter
      rwa [List.append_nil] at hblank
  | space hc _ ih => exact .space hc ih
  | token ht _ ih =>
      rw [List.append_assoc]
      exact .token ht ih

theorem endsNumber_of_isSpace {c : Char} (h : isSpace c = true) (rest : List Char) :
    EndsNumber (c :: rest) := by
  simp only [isSpace, Bool.or_eq_true, beq_iff_eq] at h
  rintro _ ⟨⟩
  rcases h with ((rfl | rfl) | rfl) | rfl <;> decide

theorem isSpace_of_isDigit {c : Char} (h : c.isDigit = true) : isSpace c = false := by
  cases hspace : isSpace c with
  | false => rfl
  | true =>
      have hdigit := (endsNumber_of_isSpace hspace [] c rfl).1
      rw [h] at hdigit
      cases hdigit

theorem Token.next_minus (rest : List Char) :
    Token.next '-' rest = (unsigned true rest).map fun r => (.number r.1, r.2) := by
  rw [Token.next]
  cases unsigned true rest <;> rfl

theorem Token.next_digit {c : Char} (h : c.isDigit = true) (rest : List Char) :
    Token.next c rest = (unsigned false (c :: rest)).map fun r => (.number r.1, r.2) := by
  unfold Token.next
  split
  case h_12 => cases unsigned false _ <;> rfl
  all_goals exact absurd h (by decide)

theorem Token.lex_space {c : Char} (h : isSpace c = true) (rest : List Char) :
    Token.lex (c :: rest) = Token.lex rest := by
  rw [Token.lex, if_pos h]

theorem Token.lex_next {c : Char} {rest rest' : List Char} {t : Token} (hc : isSpace c = false)
    (h : Token.next c rest = some (t, rest')) :
    Token.lex (c :: rest) = (Token.lex rest').map (t :: ·) := by
  rw [Token.lex, if_neg (by simp [hc])]
  split <;> simp_all

theorem Token.lex_digits {isReal : Bool} {tail rest : List Char} (h : RealPart isReal tail)
    (hrest : EndsNumber rest) (negative : Bool) (n : Nat) :
    Token.lex (sign negative ++ (Text.decimalDigits n ++ (tail ++ rest))) =
      (Token.lex rest).map (.number (if isReal then .real else .integer negative n) :: ·) := by
  have hunsigned := unsigned_append h hrest negative n
  cases negative with
  | true =>
      refine Token.lex_next (by decide) ?_
      exact (Token.next_minus _).trans (congrArg _ hunsigned)
  | false =>
      cases hdigits : Text.decimalDigits n with
      | nil => exact absurd hdigits (Text.decimalDigits_ne_nil n)
      | cons d digits =>
          have hd : d.isDigit = true :=
            Text.isDigit_of_mem_decimalDigits (hdigits ▸ List.mem_cons_self)
          rw [hdigits] at hunsigned
          refine Token.lex_next (isSpace_of_isDigit hd) ?_
          exact (Token.next_digit hd _).trans (congrArg _ hunsigned)

theorem Token.lex_number {n : Numeral} {cs rest : List Char} (h : n.Spelling cs)
    (hrest : EndsNumber rest) :
    Token.lex (cs ++ rest) = (Token.lex rest).map (.number n :: ·) := by
  cases h with
  | integer negative n =>
      rw [List.append_assoc]
      exact Token.lex_digits (.whole .absent) hrest negative n
  | real negative n h =>
      rw [List.append_assoc, List.append_assoc]
      exact Token.lex_digits h hrest negative n

theorem Token.lex_string {pieces : List Piece} {inside : List Char} (h : Inside pieces inside)
    (rest : List Char) : Token.lex ('"' :: (inside ++ '"' :: rest)) =
      (Token.lex rest).map (.string ((characters pieces).map String.ofList) :: ·) := by
  refine Token.lex_next (by decide) ?_
  rw [Token.next, literal_of_inside h]
  rfl

theorem Token.lex_word {t : Token} (hnumber : ¬t.IsNumber) (hstring : ∀ s, t ≠ .string s)
    (rest : List Char) : Token.lex (t.text ++ rest) = (Token.lex rest).map (t :: ·) := by
  cases t with
  | number n => exact absurd ⟨n, rfl⟩ hnumber
  | string s => exact absurd rfl (hstring s)
  | bool b => cases b <;> exact Token.lex_next (by decide) rfl
  | _ => exact Token.lex_next (by decide) rfl

/-- Two tokens that are not both numbers. -/
def Token.Apart (t t' : Token) : Prop :=
  t.IsNumber → ¬t'.IsNumber

theorem Token.Spelling.endsNumber {t : Token} {cs : List Char} (h : t.Spelling cs)
    (hnumber : ¬t.IsNumber) (rest : List Char) : EndsNumber (cs ++ rest) := by
  cases h with
  | word _ hstring =>
      cases t with
      | number n => exact absurd ⟨n, rfl⟩ hnumber
      | string s => exact absurd rfl (hstring s)
      | bool b => cases b <;> (rintro _ ⟨⟩; decide)
      | _ => rintro _ ⟨⟩; decide
  | number => exact absurd ⟨_, rfl⟩ hnumber
  | string => rintro _ ⟨⟩; decide

theorem Spaced.endsNumber {ts : List Token} {cs : List Char} (h : Spaced ts cs)
    (hfirst : ∀ t ∈ ts.head?, ¬t.IsNumber) : EndsNumber cs := by
  cases h with
  | nil => rintro _ ⟨⟩
  | space h => exact endsNumber_of_isSpace h _
  | token h => exact h.endsNumber (hfirst _ rfl) _

theorem Spaced.lex_eq {ts : List Token} {cs : List Char} (h : Spaced ts cs)
    (hapart : ts.IsChain Token.Apart) : Token.lex cs = some ts := by
  induction h with
  | nil => rw [Token.lex]
  | space h others ih => rw [Token.lex_space h, ih hapart]
  | token h others ih =>
      obtain ⟨hnext, hothers⟩ := List.isChain_cons.mp hapart
      cases h with
      | word hnumber hstring => rw [Token.lex_word hnumber hstring, ih hothers, Option.map_some]
      | number h =>
          have hrest := others.endsNumber fun t ht => hnext t ht ⟨_, rfl⟩
          rw [Token.lex_number h hrest, ih hothers, Option.map_some]
      | string h =>
          rw [List.cons_append, List.append_assoc, List.singleton_append, Token.lex_string h,
            ih hothers, Option.map_some]

theorem Token.spelling_text (t : Token) : t.Spelling t.text := by
  cases t with
  | number n =>
      cases n with
      | integer negative n => cases negative <;> exact .number (.integer _ n)
      | real =>
          have hdigits : IsDigits ['0'] := ⟨by simp, by simp⟩
          exact .number (.real false 0 (.fraction hdigits .absent))
  | string s =>
      cases s with
      | none => exact .string (.cons (.unit (n := 0xd800) (by decide)) .nil)
      | some s =>
          obtain ⟨pieces, hinside, hcharacters⟩ := exists_inside_flatMap_escape s.toList
          have hspelling := Spelling.string hinside
          rw [hcharacters, Option.map_some, String.ofList_toList] at hspelling
          exact hspelling
  | _ => exact .word (by rintro ⟨_, ⟨⟩⟩) (by simp)

theorem spaced_flatMap_text (ts : List Token) : Spaced ts (ts.flatMap Token.text) := by
  induction ts with
  | nil => exact .nil
  | cons t ts ih => exact .token t.spelling_text ih

end TypedRecords.Json
