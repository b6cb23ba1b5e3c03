import Vitae.Text.Blank
import Vitae.Text.Percent

/-!
# The characters of a link target

A link target is made of the characters that it keeps: the bytes of all others are
written with a percent sign and hexadecimal digits, which are kept themselves. None of
these characters is blank.
-/

namespace Vitae.Text

theorem isTargetChar_hexDigitUpper {n : Nat} (h : n < 16) : isTargetChar (hexDigitUpper n) := by
  have key : ∀ n < 16, isTargetChar (hexDigitUpper n) := by decide
  exact key n h

theorem isTargetChar_of_mem_percentByte {b : UInt8} {c : Char} (h : c ∈ percentByte b) :
    isTargetChar c := by
  have hb : b.toNat < 256 := b.toNat_lt
  simp only [percentByte, List.mem_cons, List.not_mem_nil, or_false] at h
  rcases h with rfl | rfl | rfl
  · decide
  · exact isTargetChar_hexDigitUpper (by omega)
  · exact isTargetChar_hexDigitUpper (by omega)

/-- A link target is made of the characters that it keeps. -/
theorem isTargetChar_of_mem_linkTarget {s : String} {c : Char} (h : c ∈ (linkTarget s).toList) :
    isTargetChar c := by
  rw [linkTarget, String.toList_ofList, targetChars, List.mem_flatMap] at h
  obtain ⟨d, -, hc⟩ := h
  rw [targetChar] at hc
  split at hc
  · rename_i hd
    rwa [List.mem_singleton.mp hc]
  · obtain ⟨b, -, hb⟩ := List.mem_flatMap.mp hc
    exact isTargetChar_of_mem_percentByte hb

/-- Printed ASCII characters are not blank. -/
theorem isBlank_eq_false_of_printed {c : Char} (h : 32 < c.toNat) (h' : c.toNat < 127) :
    isBlank c = false := by
  simp only [isBlank, Bool.or_eq_false_iff, Bool.and_eq_false_iff, beq_eq_false_iff_ne,
    decide_eq_false_iff_not]
  omega

theorem printed_of_isAlphanum {c : Char} (h : c.isAlphanum) : 32 < c.toNat ∧ c.toNat < 127 := by
  have key : ∀ l u : Char, 32 < l.toNat → u.toNat < 127 → l.val ≤ c.val → c.val ≤ u.val →
      32 < c.toNat ∧ c.toNat < 127 := by
    intro l u hl hu hlc hcu
    have hlc : l.toNat ≤ c.toNat := UInt32.le_iff_toNat_le.mp hlc
    have hcu : c.toNat ≤ u.toNat := UInt32.le_iff_toNat_le.mp hcu
    omega
  obtain halpha | hdigit := (Bool.or_eq_true _ _).mp h
  · obtain hupper | hlower := (Bool.or_eq_true _ _).mp halpha
    · obtain ⟨hA, hZ⟩ := of_decide_eq_true hupper
      exact key 'A' 'Z' (by decide) (by decide) hA hZ
    · obtain ⟨ha, hz⟩ := (Bool.and_eq_true _ _).mp hlower
      exact key 'a' 'z' (by decide) (by decide) (of_decide_eq_true ha) (of_decide_eq_true hz)
  · obtain ⟨h0, h9⟩ := (Bool.and_eq_true _ _).mp hdigit
    exact key '0' '9' (by decide) (by decide) (of_decide_eq_true h0) (of_decide_eq_true h9)

/-- The characters of a link target are printed ones of ASCII. -/
theorem printed_of_isTargetChar {c : Char} (h : isTargetChar c) : 32 < c.toNat ∧ c.toNat < 127 := by
  have hmarks : (targetMarks.all fun c => 32 < c.toNat ∧ c.toNat < 127) = true := by decide
  rw [isTargetChar, Bool.or_eq_true] at h
  rcases h with h | h
  · exact printed_of_isAlphanum h
  · exact of_decide_eq_true (List.all_eq_true.mp hmarks c (List.contains_iff_mem.mp h))

theorem isBlank_eq_false_of_isTargetChar {c : Char} (h : isTargetChar c) : isBlank c = false :=
  isBlank_eq_false_of_printed (printed_of_isTargetChar h).1 (printed_of_isTargetChar h).2

end Vitae.Text
