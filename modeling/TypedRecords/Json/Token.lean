import TypedRecords.Text.Digits

namespace TypedRecords.Json

/--
The text a string literal stands for. An escaped surrogate without its partner stands for no
character, so a literal that holds one has no text.
-/
abbrev Text : Type := Option String

/--
A number literal. A fraction or an exponent makes a literal real, also where its value is whole;
nothing here reads real numbers, so their value is not kept.
-/
inductive Numeral where
  | integer (negative : Bool) (magnitude : Nat)
  | real
  deriving DecidableEq

inductive Token where
  | openBrace
  | closeBrace
  | openBracket
  | closeBracket
  | colon
  | comma
  | null
  | bool (b : Bool)
  | number (n : Numeral)
  | string (s : Text)
  deriving DecidableEq

/-- Insignificant white space: space, tab, line feed and carriage return. -/
def isSpace (c : Char) : Bool :=
  c == ' ' || c == '\t' || c == '\n' || c == '\r'

def hexUnit (a b c d : Char) : Option Nat :=
  Text.hexNumber? [a, b, c, d]

def escape (c : Char) : List Char :=
  if c = '"' then ['\\', '"']
  else if c = '\\' then ['\\', '\\']
  else if c = '\x08' then ['\\', 'b']
  else if c = '\x0c' then ['\\', 'f']
  else if c = '\n' then ['\\', 'n']
  else if c = '\r' then ['\\', 'r']
  else if c = '\t' then ['\\', 't']
  else if c.toNat < 0x20 then ['\\', 'u'] ++ Text.hexDigits 4 c.toNat
  else [c]

def unescape (c : Char) : Option Char :=
  if c = '"' ∨ c = '\\' ∨ c = '/' then some c
  else if c = 'b' then some '\x08'
  else if c = 'f' then some '\x0c'
  else if c = 'n' then some '\n'
  else if c = 'r' then some '\r'
  else if c = 't' then some '\t'
  else none

/-- What stands between the quotes of a literal: characters and escaped code units. -/
inductive Piece where
  | char (c : Char)
  | unit (n : Nat)
  deriving DecidableEq

/-- Reads the inside of a literal up to its closing quote, and returns what follows the quote. -/
def literal : List Char → Option (List Piece × List Char)
  | [] => none
  | '"' :: rest => some ([], rest)
  | '\\' :: 'u' :: a :: b :: c :: d :: rest => do
    let n ← hexUnit a b c d
    let (pieces, rest) ← literal rest
    return (.unit n :: pieces, rest)
  | '\\' :: e :: rest => do
    let c ← unescape e
    let (pieces, rest) ← literal rest
    return (.char c :: pieces, rest)
  | c :: rest =>
    if c.toNat < 0x20 then none
    else do
      let (pieces, rest) ← literal rest
      return (.char c :: pieces, rest)

def isSurrogate (n : Nat) : Bool :=
  0xd800 ≤ n && n ≤ 0xdfff

def joinSurrogates (high low : Nat) : Char :=
  Char.ofNat (0x10000 + (high - 0xd800) * 0x400 + (low - 0xdc00))

/-- The characters that the inside of a literal stands for, unless a surrogate has no partner. -/
def characters : List Piece → Option (List Char)
  | [] => some []
  | .char c :: rest => (characters rest).map (c :: ·)
  | .unit n :: rest =>
    if isSurrogate n then
      match rest with
      | .unit low :: rest =>
        if n < 0xdc00 ∧ isSurrogate low ∧ 0xdc00 ≤ low then
          (characters rest).map (joinSurrogates n low :: ·)
        else none
      | _ => none
    else (characters rest).map (Char.ofNat n :: ·)

def dropDigits (cs : List Char) : Option (List Char) :=
  if (cs.takeWhile Char.isDigit).isEmpty then none else some (cs.dropWhile Char.isDigit)

def dropExponent : List Char → Option (Bool × List Char)
  | [] => some (false, [])
  | c :: rest =>
    if c = 'e' ∨ c = 'E' then
      match rest with
      | '+' :: rest => (dropDigits rest).map (true, ·)
      | '-' :: rest => (dropDigits rest).map (true, ·)
      | rest => (dropDigits rest).map (true, ·)
    else some (false, c :: rest)

/-- Drops the fraction and the exponent of a number, and says whether there was either. -/
def dropReal : List Char → Option (Bool × List Char)
  | '.' :: rest => do
    let rest ← dropDigits rest
    let (_, rest) ← dropExponent rest
    return (true, rest)
  | rest => dropExponent rest

/-- Reads a number without its sign. A row of digits starts with zero only if it is just zero. -/
def unsigned (negative : Bool) (cs : List Char) : Option (Numeral × List Char) := do
  let digits := cs.takeWhile Char.isDigit
  if digits.isEmpty || (digits.head? == some '0' && 1 < digits.length) then none
  else
    let (isReal, rest) ← dropReal (cs.dropWhile Char.isDigit)
    return (if isReal then .real else .integer negative (Text.decimalValue digits), rest)

def Token.next (c : Char) (rest : List Char) : Option (Token × List Char) :=
  match c, rest with
  | '{', rest => some (.openBrace, rest)
  | '}', rest => some (.closeBrace, rest)
  | '[', rest => some (.openBracket, rest)
  | ']', rest => some (.closeBracket, rest)
  | ':', rest => some (.colon, rest)
  | ',', rest => some (.comma, rest)
  | 'n', 'u' :: 'l' :: 'l' :: rest => some (.null, rest)
  | 't', 'r' :: 'u' :: 'e' :: rest => some (.bool true, rest)
  | 'f', 'a' :: 'l' :: 's' :: 'e' :: rest => some (.bool false, rest)
  | '"', rest => do
    let (pieces, rest) ← literal rest
    return (.string ((characters pieces).map String.ofList), rest)
  | '-', rest => do
    let (n, rest) ← unsigned true rest
    return (.number n, rest)
  | c, rest => do
    let (n, rest) ← unsigned false (c :: rest)
    return (.number n, rest)

theorem length_literal {cs rest : List Char} {pieces : List Piece}
    (h : literal cs = some (pieces, rest)) : rest.length < cs.length := by
  fun_induction literal cs generalizing pieces rest with
  | case1 => simp at h
  | case2 => simp_all
  | case3 a b c d tail ih =>
    simp only [bind, Option.bind_eq_some_iff, Option.pure_def, Option.some.injEq,
      Prod.mk.injEq] at h
    obtain ⟨_, _, ⟨_, tail'⟩, h', _, rfl⟩ := h
    have := ih h'
    simp only [List.length_cons]
    omega
  | case4 e tail _ ih =>
    simp only [bind, Option.bind_eq_some_iff, Option.pure_def, Option.some.injEq,
      Prod.mk.injEq] at h
    obtain ⟨_, _, ⟨_, tail'⟩, h', _, rfl⟩ := h
    have := ih h'
    simp only [List.length_cons]
    omega
  | case5 => simp at h
  | case6 c tail _ _ _ _ ih =>
    simp only [bind, Option.bind_eq_some_iff, Option.pure_def, Option.some.injEq,
      Prod.mk.injEq] at h
    obtain ⟨⟨_, tail'⟩, h', _, rfl⟩ := h
    have := ih h'
    simp only [List.length_cons]
    omega

theorem length_dropWhile_le (p : Char → Bool) (cs : List Char) :
    (cs.dropWhile p).length ≤ cs.length := by
  have := congrArg List.length (List.takeWhile_append_dropWhile (p := p) (l := cs))
  simp only [List.length_append] at this
  omega

theorem length_dropDigits {cs rest : List Char} (h : dropDigits cs = some rest) :
    rest.length ≤ cs.length := by
  unfold dropDigits at h
  split at h
  · simp at h
  · cases h
    exact length_dropWhile_le _ _

theorem length_dropExponent {cs rest : List Char} {isReal : Bool}
    (h : dropExponent cs = some (isReal, rest)) : rest.length ≤ cs.length := by
  unfold dropExponent at h
  split at h
  · simp_all
  · split at h
    · split at h <;>
        (simp only [Option.map_eq_some_iff, Prod.mk.injEq] at h
         obtain ⟨tail, h', _, rfl⟩ := h
         have := length_dropDigits h'
         simp only [List.length_cons] at *
         omega)
    · simp only [Option.some.injEq, Prod.mk.injEq] at h
      simp [← h.2]

theorem length_dropReal {cs rest : List Char} {isReal : Bool}
    (h : dropReal cs = some (isReal, rest)) : rest.length ≤ cs.length := by
  unfold dropReal at h
  split at h
  · simp only [bind, Option.bind_eq_some_iff, Option.pure_def, Option.some.injEq,
      Prod.mk.injEq] at h
    obtain ⟨tail, h₁, ⟨_, _⟩, h₂, _, rfl⟩ := h
    have := length_dropDigits h₁
    have := length_dropExponent h₂
    simp only [List.length_cons]
    omega
  · exact length_dropExponent h

theorem length_unsigned {negative : Bool} {cs rest : List Char} {n : Numeral}
    (h : unsigned negative cs = some (n, rest)) : rest.length < cs.length := by
  simp only [unsigned] at h
  split at h
  · simp at h
  · rename_i hdigits
    simp only [bind, Option.bind_eq_some_iff, Option.pure_def, Option.some.injEq,
      Prod.mk.injEq] at h
    obtain ⟨⟨_, tail⟩, h', _, rfl⟩ := h
    have hle := length_dropReal h'
    dsimp only
    have hlen := congrArg List.length
      (List.takeWhile_append_dropWhile (p := Char.isDigit) (l := cs))
    have hpos : 0 < (cs.takeWhile Char.isDigit).length := by
      cases hc : cs.takeWhile Char.isDigit with
      | nil => simp [hc] at hdigits
      | cons => simp
    simp only [List.length_append] at hlen
    omega

theorem Token.length_next {c : Char} {rest rest' : List Char} {t : Token}
    (h : Token.next c rest = some (t, rest')) : rest'.length ≤ rest.length := by
  unfold Token.next at h
  split at h
  case h_10 =>
    simp only [bind, Option.bind_eq_some_iff, Option.pure_def, Option.some.injEq,
      Prod.mk.injEq] at h
    obtain ⟨⟨_, _⟩, h', _, rfl⟩ := h
    exact Nat.le_of_lt (length_literal h')
  case h_11 =>
    simp only [bind, Option.bind_eq_some_iff, Option.pure_def, Option.some.injEq,
      Prod.mk.injEq] at h
    obtain ⟨⟨_, _⟩, h', _, rfl⟩ := h
    exact Nat.le_of_lt (length_unsigned h')
  case h_12 =>
    simp only [bind, Option.bind_eq_some_iff, Option.pure_def, Option.some.injEq,
      Prod.mk.injEq] at h
    obtain ⟨⟨_, _⟩, h', _, rfl⟩ := h
    exact Nat.lt_succ_iff.1 (length_unsigned h')
  all_goals
    simp only [Option.some.injEq, Prod.mk.injEq] at h
    obtain ⟨_, rfl⟩ := h
    grind

def Token.lex (cs : List Char) : Option (List Token) :=
  match cs with
  | [] => some []
  | c :: rest =>
    if isSpace c then Token.lex rest
    else
      match h : Token.next c rest with
      | none => none
      | some (t, rest') =>
        have : rest'.length ≤ rest.length := Token.length_next h
        (Token.lex rest').map (t :: ·)
termination_by cs.length

def Token.text : Token → List Char
  | .openBrace => ['{']
  | .closeBrace => ['}']
  | .openBracket => ['[']
  | .closeBracket => [']']
  | .colon => [':']
  | .comma => [',']
  | .null => ['n', 'u', 'l', 'l']
  | .bool true => ['t', 'r', 'u', 'e']
  | .bool false => ['f', 'a', 'l', 's', 'e']
  | .number (.integer true n) => '-' :: Text.decimalDigits n
  | .number (.integer false n) => Text.decimalDigits n
  | .number .real => ['0', '.', '0']
  | .string (some s) => '"' :: s.toList.flatMap escape ++ ['"']
  | .string none => ['"', '\\', 'u', 'd', '8', '0', '0', '"']

end TypedRecords.Json
