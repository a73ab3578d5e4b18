import MessageSelector.Text.Case

/-! Texts that differ in nothing but the case of the letters A to Z. -/

namespace MessageSelector

/-- The code of a character in upper case, which is another one for the letters a to z alone. -/
theorem toNat_toUpper (c : Char) :
    c.toUpper.toNat = if 0x61 ≤ c.toNat ∧ c.toNat ≤ 0x7A then c.toNat - 0x20 else c.toNat := by
  unfold Char.toUpper
  split
  · rename_i lower
    have bounds : 0x61 ≤ c.toNat ∧ c.toNat ≤ 0x7A :=
      ⟨UInt32.le_iff_toNat_le.1 lower.1, UInt32.le_iff_toNat_le.1 lower.2⟩
    rw [if_pos bounds]
    -- The distance of the two cases is added in 32 bits, as the complement of what is taken away.
    show (c.val + ('A'.val - 'a'.val)).toNat = c.toNat - 0x20
    rw [UInt32.toNat_add]
    show (c.toNat + 0xFFFFFFE0) % 0x100000000 = c.toNat - 0x20
    omega
  · rename_i other
    rw [if_neg]
    intro bounds
    exact other ⟨UInt32.le_iff_toNat_le.2 bounds.1, UInt32.le_iff_toNat_le.2 bounds.2⟩

/-- The code of a character in lower case, which is another one for the letters A to Z alone. -/
theorem toNat_toLower (c : Char) :
    c.toLower.toNat = if 0x41 ≤ c.toNat ∧ c.toNat ≤ 0x5A then c.toNat + 0x20 else c.toNat := by
  unfold Char.toLower
  split
  · rename_i upper
    have bounds : 0x41 ≤ c.toNat ∧ c.toNat ≤ 0x5A :=
      ⟨UInt32.le_iff_toNat_le.1 upper.1, UInt32.le_iff_toNat_le.1 upper.2⟩
    rw [if_pos bounds]
    show (c.val + ('a'.val - 'A'.val)).toNat = c.toNat + 0x20
    -- The sum stays far below the width, so no wrapping takes place.
    rw [UInt32.toNat_add]
    show (c.toNat + 0x20) % 0x100000000 = c.toNat + 0x20
    omega
  -- Outside of the capital letters the character is kept.
  · rename_i other
    rw [if_neg]
    intro bounds
    exact other ⟨UInt32.le_iff_toNat_le.2 bounds.1, UInt32.le_iff_toNat_le.2 bounds.2⟩

/-- Two characters agree in upper case where they agree in lower case. -/
theorem toUpper_eq_toUpper_iff {c d : Char} : c.toUpper = d.toUpper ↔ c.toLower = d.toLower := by
  rw [← Char.toNat_inj, ← Char.toNat_inj, toNat_toUpper, toNat_toUpper, toNat_toLower,
    toNat_toLower]
  -- Each of them may be a letter of the one case, of the other, or none.
  split <;> split <;> split <;> split <;> omega

/-- Two texts agree without regard to case where they are the same in upper case as well. -/
theorem agreeIgnoringCase_iff {left right : String} :
    agreeIgnoringCase left right = true ↔ upperCase left = upperCase right := by
  -- The characters at each place agree in the one case where they agree in the other.
  have same (first second : List Char) :
      first.map Char.toLower = second.map Char.toLower ↔
        first.map Char.toUpper = second.map Char.toUpper := by
    induction first generalizing second with
    | nil => simp
    | cons c rest ih =>
      cases second with
      | nil => simp
      | cons d more =>
        rw [List.map_cons, List.map_cons, List.map_cons, List.map_cons, List.cons.injEq,
          List.cons.injEq, toUpper_eq_toUpper_iff, ih]
  rw [agreeIgnoringCase, beq_iff_eq, lowerCase, lowerCase, upperCase, upperCase,
    String.ofList_inj, String.ofList_inj, same]

end MessageSelector
