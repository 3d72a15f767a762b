import TypedRecords.Text.Lowercase

namespace TypedRecords.Text

def IsAscii (s : String) : Prop :=
  ∀ c ∈ s.toList, c.toNat < 0x80

/-- The texts differ at most in the case of ASCII letters. -/
def SameUpToCase (s t : String) : Prop :=
  s.toList.map Char.toLower = t.toList.map Char.toLower

theorem toLower_lt_iff {c : Char} : c.toLower.toNat < 0x80 ↔ c.toNat < 0x80 := by
  delta Char.toLower
  split
  next hupper =>
    have hupper : 65 ≤ c.toNat ∧ c.toNat ≤ 90 := hupper
    have hlower : (c.val + ('a'.val - 'A'.val)).toNat = c.toNat + 32 := by
      have hval : c.val.toNat = c.toNat := rfl
      rw [UInt32.toNat_add, hval]
      change (c.toNat + 32) % 2 ^ 32 = c.toNat + 32
      omega
    change (c.val + ('a'.val - 'A'.val)).toNat < 0x80 ↔ _
    omega
  next => rfl

theorem SameUpToCase.isAscii {s t : String} (h : SameUpToCase s t) (hs : IsAscii s) :
    IsAscii t := by
  intro d hd
  have hmem := List.mem_map_of_mem (f := Char.toLower) hd
  rw [← h] at hmem
  obtain ⟨c, hc, hcd⟩ := List.mem_map.mp hmem
  rw [← toLower_lt_iff, ← hcd, toLower_lt_iff]
  exact hs c hc

theorem lowerFrom_of_ascii {cs : List Char} (h : ∀ c ∈ cs, c.toNat < 0x80) (before : List Char) :
    lowerFrom before cs = cs.map Char.toLower := by
  induction cs generalizing before with
  | nil => rfl
  | cons c cs ih =>
      obtain ⟨hc, hcs⟩ := List.forall_mem_cons.mp h
      have hsigma : c ≠ '\u03a3' := by
        rintro rfl
        exact absurd hc (by decide)
      rw [lowerFrom, if_neg hsigma, lowerChar, if_pos hc, ih hcs]
      rfl

theorem lowercase_of_ascii {s : String} (h : IsAscii s) :
    lowercase s = String.ofList (s.toList.map Char.toLower) := by
  rw [lowercase, lowerFrom_of_ascii h]

theorem SameUpToCase.lowercase_eq {s t : String} (h : SameUpToCase s t) (hs : IsAscii s) :
    lowercase t = lowercase s := by
  rw [lowercase_of_ascii hs, lowercase_of_ascii (h.isAscii hs), h]

end TypedRecords.Text
