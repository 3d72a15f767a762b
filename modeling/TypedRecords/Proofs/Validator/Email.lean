import Mathlib.Data.List.Basic
import TypedRecords.Pattern.Reader
import TypedRecords.Proofs.Pattern.Language
import TypedRecords.Validator.Standard

namespace TypedRecords

namespace Email

open Pattern

/-- ASCII letters, digits and some punctuation. -/
structure IsLocalPart (cs : List Char) : Prop where
  ne_nil : cs ≠ []
  chars : ∀ c ∈ cs, c.isAlphanum = true ∨ c ∈ ['.', '_', '%', '+', '-']

/-- ASCII letters, digits and hyphens, with no hyphen at either end. -/
structure IsLabel (cs : List Char) : Prop where
  ne_nil : cs ≠ []
  chars : ∀ c ∈ cs, c.isAlphanum = true ∨ c = '-'
  head : cs.head? ≠ some '-'
  last : cs.getLast? ≠ some '-'

/-- At least two labels with a dot between each two. -/
structure IsDomain (cs : List Char) : Prop where
  two_le_length : 2 ≤ (cs.splitOn '.').length
  labels : ∀ label ∈ cs.splitOn '.', IsLabel label

/-- A local part and a domain around the only `@`. -/
def IsAddress (s : String) : Prop :=
  s.toList.count '@' = 1 ∧
    ∃ localPart domain, s.toList = localPart ++ '@' :: domain ∧ IsLocalPart localPart ∧
      IsDomain domain

theorem isAlphanum_iff {c : Char} : c.isAlphanum = true ↔
    (65 ≤ c.toNat ∧ c.toNat ≤ 90) ∨ (97 ≤ c.toNat ∧ c.toNat ≤ 122) ∨
      (48 ≤ c.toNat ∧ c.toNat ≤ 57) := by
  delta Char.isAlphanum Char.isAlpha Char.isUpper Char.isLower Char.isDigit
  simp only [Bool.or_eq_true, Bool.and_eq_true, decide_eq_true_eq, UInt32.le_iff_toNat_le,
    ge_iff_le, or_assoc]
  rfl

theorem holds_alphanumeric (c : Char) : alphanumeric.holds c = c.isAlphanum := by
  rw [Bool.eq_iff_iff, isAlphanum_iff]
  simp only [alphanumeric, CharSet.ofRanges, CharSet.holds, List.foldr_cons, List.foldr_nil,
    Bool.or_false, Bool.or_eq_true, Bool.and_eq_true, decide_eq_true_eq, Char.le_def,
    UInt32.le_iff_toNat_le]
  rfl

theorem holds_localChar_iff {c : Char} :
    localChar.holds c = true ↔ c.isAlphanum = true ∨ c ∈ ['.', '_', '%', '+', '-'] := by
  simp [localChar, CharSet.holds, CharSet.ofChars, holds_alphanumeric]

theorem holds_labelChar_iff {c : Char} :
    labelChar.holds c = true ↔ c.isAlphanum = true ∨ c = '-' := by
  simp [labelChar, CharSet.holds, holds_alphanumeric]

theorem ne_hyphen_of_isAlphanum {c : Char} (h : c.isAlphanum = true) : c ≠ '-' := by
  rintro rfl
  cases h

theorem describes_label : label.Describes IsLabel := by
  refine ((describes_oneOf alphanumeric).seq
    ((describes_many_oneOf labelChar).seq (describes_oneOf alphanumeric)).optional).congr
      fun cs => ?_
  simp only [holds_alphanumeric, holds_labelChar_iff]
  constructor
  · rintro ⟨_, _, rfl, ⟨c, rfl, hc⟩, ⟨middle, _, rfl, hmiddle, d, rfl, hd⟩ | rfl⟩
    · refine ⟨by simp, ?_, ?_, ?_⟩
      · simp only [List.forall_mem_append, List.forall_mem_singleton]
        exact ⟨Or.inl hc, hmiddle, Or.inl hd⟩
      · simpa using ne_hyphen_of_isAlphanum hc
      · rw [← List.append_assoc, List.getLast?_concat]
        simpa using ne_hyphen_of_isAlphanum hd
    · have hne := ne_hyphen_of_isAlphanum hc
      exact ⟨by simp, by simpa using Or.inl hc, by simpa using hne, by simpa using hne⟩
  · rintro ⟨hne, hchars, hhead, hlast⟩
    obtain ⟨c, rest, rfl⟩ := List.exists_cons_of_ne_nil hne
    obtain ⟨hc, hrest⟩ := List.forall_mem_cons.mp hchars
    have hc' : c.isAlphanum = true := hc.resolve_right (by simpa using hhead)
    refine ⟨[c], rest, rfl, ⟨c, rfl, hc'⟩, ?_⟩
    rcases List.eq_nil_or_concat rest with rfl | ⟨middle, d, rfl⟩
    · exact Or.inr rfl
    · rw [List.concat_eq_append] at hlast hrest ⊢
      obtain ⟨hmiddle, hd⟩ := List.forall_mem_append.mp hrest
      rw [← List.cons_append, List.getLast?_concat] at hlast
      have hd' : d.isAlphanum = true :=
        (List.forall_mem_singleton.mp hd).resolve_right (by simpa using hlast)
      exact Or.inl ⟨middle, [d], rfl, hmiddle, d, rfl, hd'⟩

def dotted (labels : List (List Char)) : List Char :=
  (labels.map ('.' :: ·)).flatten

theorem intercalate_cons (first : List Char) (labels : List (List Char)) :
    ['.'].intercalate (first :: labels) = first ++ dotted labels := by
  induction labels generalizing first with
  | nil => simp [dotted]
  | cons second labels ih =>
      rw [List.intercalate_cons_cons, ih]
      simp [dotted]

theorem describes_dotted :
    (oneOrMore (.seq (.oneOf (.char '.')) label)).Describes fun cs =>
      ∃ labels, labels ≠ [] ∧ cs = dotted labels ∧ ∀ label ∈ labels, IsLabel label := by
  have hpiece : (seq (.oneOf (.char '.')) label).Describes fun cs =>
      ∃ label, cs = '.' :: label ∧ IsLabel label := by
    refine ((describes_oneOf _).seq describes_label).congr fun cs => ?_
    simp [CharSet.holds]
  refine hpiece.oneOrMore.congr fun cs => ?_
  constructor
  · rintro ⟨pieces, hne, rfl, hpieces⟩
    have htails : (pieces.map List.tail).map ('.' :: ·) = pieces := by
      rw [List.map_map]
      refine (List.map_congr_left fun piece hmem => ?_).trans (List.map_id pieces)
      obtain ⟨label, rfl, -⟩ := hpieces piece hmem
      rfl
    refine ⟨pieces.map List.tail, by simpa using hne, by rw [dotted, htails], ?_⟩
    refine List.forall_mem_map.mpr fun piece hmem => ?_
    obtain ⟨label, rfl, hlabel⟩ := hpieces piece hmem
    exact hlabel
  · rintro ⟨labels, hne, rfl, hlabels⟩
    refine ⟨labels.map ('.' :: ·), by simpa using hne, rfl, ?_⟩
    exact List.forall_mem_map.mpr fun label hmem => ⟨label, rfl, hlabels label hmem⟩

theorem isDomain_iff {cs : List Char} :
    IsDomain cs ↔ ∃ first labels, cs = first ++ dotted labels ∧ labels ≠ [] ∧
      IsLabel first ∧ ∀ label ∈ labels, IsLabel label := by
  constructor
  · rintro ⟨hlength, hlabels⟩
    have hcs : ['.'].intercalate (cs.splitOn '.') = cs := List.intercalate_splitOn '.'
    match hsplit : cs.splitOn '.', hlength with
    | first :: second :: labels, _ =>
      rw [hsplit] at hcs hlabels
      rw [intercalate_cons] at hcs
      exact ⟨first, second :: labels, hcs.symm, by simp, List.forall_mem_cons.mp hlabels⟩
  · rintro ⟨first, labels, rfl, hne, hfirst, hlabels⟩
    have hall := List.forall_mem_cons.mpr ⟨hfirst, hlabels⟩
    have hnodot : ∀ label ∈ first :: labels, '.' ∉ label := by
      intro label hmem hdot
      rcases (hall label hmem).chars '.' hdot with h | h <;> cases h
    have hsplit := List.splitOn_intercalate '.' hnodot (by simp)
    rw [intercalate_cons] at hsplit
    refine ⟨?_, hsplit ▸ hall⟩
    have hpos := List.length_pos_iff.mpr hne
    rw [hsplit, List.length_cons]
    omega

theorem describes_localPart : (oneOrMore (.oneOf localChar)).Describes IsLocalPart := by
  refine (describes_oneOrMore_oneOf localChar).congr fun cs => ?_
  simp only [holds_localChar_iff]
  exact ⟨fun h => ⟨h.1, h.2⟩, fun h => ⟨h.ne_nil, h.chars⟩⟩

theorem address_matches_iff {before piece after : List Char} :
    address.Matches before piece after ↔
      before = [] ∧ after = [] ∧ ∃ localPart domain, piece = localPart ++ '@' :: domain ∧
        IsLocalPart localPart ∧ IsDomain domain := by
  simp only [address, matches_seq_iff, matches_edge_iff, matches_oneOf_iff, Edge.holds,
    describes_localPart _ _ _, describes_label _ _ _, describes_dotted _ _ _, CharSet.holds,
    beq_iff_eq, Option.isNone_iff_eq_none, List.getLast?_eq_none_iff, List.head?_eq_none_iff]
  constructor
  · rintro ⟨_, _, rfl, ⟨rfl, rfl⟩, localPart, _, rfl, hlocal, _, _, rfl, ⟨_, rfl, rfl⟩, first, _,
      rfl, hfirst, _, _, rfl, ⟨labels, hne, rfl, hlabels⟩, rfl, rfl⟩
    refine ⟨rfl, rfl, localPart, first ++ dotted labels, by simp, hlocal, ?_⟩
    exact isDomain_iff.mpr ⟨first, labels, rfl, hne, hfirst, hlabels⟩
  · rintro ⟨rfl, rfl, localPart, domain, rfl, hlocal, hdomain⟩
    obtain ⟨first, labels, rfl, hne, hfirst, hlabels⟩ := isDomain_iff.mp hdomain
    exact ⟨[], _, rfl, ⟨rfl, rfl⟩, localPart, _, rfl, hlocal, ['@'], _, rfl, ⟨'@', rfl, rfl⟩, first,
      _, rfl, hfirst, dotted labels, [], (List.append_nil _).symm, ⟨labels, hne, rfl, hlabels⟩, rfl,
      rfl⟩

theorem IsDomain.chars {cs : List Char} (h : IsDomain cs) :
    ∀ c ∈ cs, c.isAlphanum = true ∨ c = '-' ∨ c = '.' := by
  obtain ⟨first, labels, rfl, -, hfirst, hlabels⟩ := isDomain_iff.mp h
  have hlabel : ∀ {label}, IsLabel label → ∀ c ∈ label,
      c.isAlphanum = true ∨ c = '-' ∨ c = '.' := fun h c hc =>
    (h.chars c hc).imp_right Or.inl
  intro c hc
  rcases List.mem_append.mp hc with hc | hc
  · exact hlabel hfirst c hc
  · obtain ⟨piece, hpiece, hc⟩ := List.mem_flatten.mp hc
    obtain ⟨label, hmem, rfl⟩ := List.mem_map.mp hpiece
    rcases List.mem_cons.mp hc with rfl | hc
    · exact Or.inr (Or.inr rfl)
    · exact hlabel (hlabels label hmem) c hc

theorem occursIn_address_iff {s : String} : address.occursIn s = true ↔ IsAddress s := by
  rw [occursIn_iff, IsAddress]
  simp only [address_matches_iff]
  constructor
  · rintro ⟨before, piece, after, hs, rfl, rfl, localPart, domain, rfl, hlocal, hdomain⟩
    rw [List.append_nil, List.nil_append] at hs
    refine ⟨?_, localPart, domain, hs, hlocal, hdomain⟩
    have hnot : '@' ∉ localPart := fun h => by
      rcases hlocal.chars '@' h with h | h
      · cases h
      · revert h
        decide
    have hnot' : '@' ∉ domain := fun h => by
      rcases hdomain.chars '@' h with h | h | h <;> cases h
    rw [hs, List.count_append, List.count_cons_self, List.count_eq_zero.mpr hnot,
      List.count_eq_zero.mpr hnot']
  · rintro ⟨-, localPart, domain, hs, hlocal, hdomain⟩
    exact ⟨[], _, [], by simpa using hs, rfl, rfl, localPart, domain, rfl, hlocal, hdomain⟩

/-- The pattern of addresses as it is written. -/
def text : String :=
  "^[A-Za-z0-9._%+\\-]+@[A-Za-z0-9](?:[A-Za-z0-9\\-]*[A-Za-z0-9])?" ++
    "(?:\\.[A-Za-z0-9](?:[A-Za-z0-9\\-]*[A-Za-z0-9])?)+$"

/-- A class as it is read: its items are joined to the empty set one after the other. -/
def readClass (extra : List Char) : CharSet :=
  extra.foldl (fun s c => .union s (.char c))
    (.union (.union (.union .empty (.range 'A' 'Z')) (.range 'a' 'z')) (.range '0' '9'))

theorem holds_readClass_iff {extra : List Char} {c : Char} :
    (readClass extra).holds c = true ↔ c.isAlphanum = true ∨ c ∈ extra := by
  have hfold : ∀ (extra : List Char) (s : CharSet),
      (extra.foldl (fun s c => CharSet.union s (.char c)) s).holds c = true ↔
        s.holds c = true ∨ c ∈ extra := by
    intro extra
    induction extra with
    | nil => simp
    | cons d extra ih =>
        intro s
        rw [List.foldl_cons, ih]
        simp [CharSet.holds, or_assoc]
  rw [readClass, hfold, ← holds_alphanumeric]
  simp [alphanumeric, CharSet.ofRanges, CharSet.holds, or_assoc]

theorem ofText_text : ∃ p, Pattern.ofText? text = some p ∧ p.Equivalent address := by
  have halphanumeric : Equivalent (.oneOf (readClass [])) (.oneOf alphanumeric) :=
    equivalent_oneOf fun c => by simp [holds_readClass_iff, holds_alphanumeric]
  have hlabelChar : Equivalent (.oneOf (readClass ['-'])) (.oneOf labelChar) :=
    equivalent_oneOf fun c => by simp [holds_readClass_iff, holds_labelChar_iff]
  have hlocalChar : Equivalent (.oneOf (readClass ['.', '_', '%', '+', '-'])) (.oneOf localChar) :=
    equivalent_oneOf fun c => holds_readClass_iff.trans holds_localChar_iff.symm
  have hinner := ((hlabelChar.oneOrMore.either (.refl .empty)).seq halphanumeric).either
    (.refl .empty)
  have hlabels := ((Equivalent.refl (.oneOf (.char '.'))).seq (halphanumeric.seq hinner)).oneOrMore
  have hdomain := (halphanumeric.seq (hinner.seq (hlabels.seq (.refl (.edge .textEnd))))).trans
    (equivalent_seq_assoc _ _ _)
  exact ⟨_, rfl, (Equivalent.refl (.edge .textStart)).seq (hlocalChar.oneOrMore.seq
    ((Equivalent.refl (.oneOf (.char '@'))).seq hdomain))⟩

theorem bounds_of_isBlank {c : Char} (h : Text.isBlank c = true) :
    0x7a < c.toNat ∨ c.toNat < 0x30 := by
  obtain ⟨⟨first, last⟩, hmem, hin⟩ := List.any_eq_true.mp h
  simp only [Text.blankRanges, List.mem_cons, Prod.mk.injEq, List.not_mem_nil, or_false] at hmem
  simp only [Bool.and_eq_true, decide_eq_true_eq] at hin
  omega

theorem ascii_of_isAlphanum {c : Char} (h : c.isAlphanum = true) :
    c.toNat < 0x80 ∧ Text.isBlank c = false := by
  have hbounds := isAlphanum_iff.mp h
  refine ⟨by omega, Bool.eq_false_iff.mpr fun hblank => ?_⟩
  have houtside := bounds_of_isBlank hblank
  omega

theorem IsAddress.ascii {s : String} (h : IsAddress s) :
    ∀ c ∈ s.toList, c.toNat < 0x80 ∧ Text.isBlank c = false := by
  obtain ⟨-, localPart, domain, hs, hlocal, hdomain⟩ := h
  have hpunctuation : ∀ c ∈ ['.', '_', '%', '+', '-'],
      c.toNat < 0x80 ∧ Text.isBlank c = false := by
    simp only [List.mem_cons, List.not_mem_nil, or_false]
    rintro c (rfl | rfl | rfl | rfl | rfl) <;> decide
  intro c hc
  rw [hs] at hc
  rcases List.mem_append.mp hc with hc | hc
  · rcases hlocal.chars c hc with h | h
    · exact ascii_of_isAlphanum h
    · exact hpunctuation c h
  · rcases List.mem_cons.mp hc with rfl | hc
    · decide
    · rcases hdomain.chars c hc with h | rfl | rfl
      · exact ascii_of_isAlphanum h
      · decide
      · decide

/-- The validator accepts the absent value and the texts that are e-mail addresses. -/
structure AcceptsAddresses (v : Validator String) : Prop where
  accepts_iff : ∀ s, v (some s) = .ok () ↔ IsAddress s
  refuses : ∀ s, ¬IsAddress s → v (some s) =
    .error (.invalid "Value must be a valid e-mail address" (some "validation.email") [])
  /-- These are the texts in which the pattern occurs as it is written. -/
  accepts_iff_occursIn : ∃ p, Pattern.ofText? text = some p ∧
    ∀ s, v (some s) = .ok () ↔ p.occursIn s = true
  /-- No white space is accepted, line feeds at the end included, and no character beyond ASCII. -/
  ascii : ∀ s, v (some s) = .ok () → ∀ c ∈ s.toList, c.toNat < 0x80 ∧ Text.isBlank c = false
  absent : v none = .ok ()

theorem email_eq_ok_iff {s : String} :
    Validator.email (some s) = .ok () ↔ address.occursIn s = true := by
  change (if address.occursIn s then _ else _) = _ ↔ _
  cases address.occursIn s <;> simp

theorem acceptsAddresses : AcceptsAddresses Validator.email := by
  have haccepts : ∀ s, Validator.email (some s) = .ok () ↔ IsAddress s := fun s =>
    email_eq_ok_iff.trans occursIn_address_iff
  refine ⟨haccepts, ?_, ?_, fun s h => ((haccepts s).mp h).ascii, rfl⟩
  · intro s hs
    rw [← occursIn_address_iff] at hs
    change (if address.occursIn s then _ else _) = _
    rw [if_neg hs]
    rfl
  · obtain ⟨p, hp, hequivalent⟩ := ofText_text
    refine ⟨p, hp, fun s => ?_⟩
    rw [email_eq_ok_iff, hequivalent.occursIn_eq]

end Email

end TypedRecords
