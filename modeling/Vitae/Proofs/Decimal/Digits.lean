import Mathlib.Data.List.Basic
import Vitae.Decimal.Integer
import Vitae.Proofs.Except
import Vitae.Proofs.Text.Lines

/-!
# Decimal digits read back

A text of digits alone spells a number when each of them is a decimal one and they are not too many
(`integer?_of_digits`). A text of digits of ASCII is read as the number that it spells, whatever stands in
front of the first digit that counts (`integer?_of_isDigit`).
-/

namespace Vitae.Decimal

open Text

/-! ### Digits of any kind -/

/-- The code points of the blanks. -/
def blankCodes : List Nat :=
  [9, 10, 11, 12, 13, 28, 29, 30, 31, 32, 0x85, 0xa0, 0x1680, 0x2000, 0x2001, 0x2002, 0x2003, 0x2004, 0x2005,
    0x2006, 0x2007, 0x2008, 0x2009, 0x200a, 0x2028, 0x2029, 0x202f, 0x205f, 0x3000]

theorem mem_blankCodes {c : Char} (h : isBlank c) : c.toNat ∈ blankCodes := by
  simp only [isBlank, Bool.or_eq_true, Bool.and_eq_true, decide_eq_true_eq, beq_iff_eq] at h
  simp only [blankCodes, List.mem_cons, List.not_mem_nil, or_false]
  omega

/-- A digit of any kind is no blank. -/
theorem not_isBlank_of_digit {c : Char} (h : isDigit c) : isBlank c = false := by
  cases hblank : isBlank c with
  | false => rfl
  | true =>
    have hcodes : (blankCodes.all fun n => !isDigit (Char.ofNat n)) = true := by decide
    have hnot := List.all_eq_true.mp hcodes _ (mem_blankCodes hblank)
    rw [Char.ofNat_toNat, h] at hnot
    cases hnot

section digits

variable {cs : List Char} (h : ∀ c ∈ cs, isDigit c)
include h

theorem dropMargins_of_digits : dropMargins cs = cs := by
  have hmargin : ∀ ds : List Char, (∀ c ∈ ds, isDigit c) → ds.dropWhile isMargin = ds := by
    intro ds hds
    cases ds with
    | nil => rfl
    | cons d ds =>
      have hd := not_isBlank_of_digit (hds d List.mem_cons_self)
      rw [List.dropWhile_cons_of_neg]
      simp [isMargin, hd]
  rw [dropMargins, hmargin cs h, hmargin cs.reverse fun c hc => h c (List.mem_reverse.mp hc), List.reverse_reverse]

theorem natural?_of_digits (hne : cs ≠ []) : natural? cs =
    (cs.mapM decimalValue?).bind fun ds => if ds.length ≤ digitLimit then some (ofDigits ds) else none := by
  have hmark : '_' ∉ cs := fun hmem => absurd (h '_' hmem) (by decide)
  have hgroup : groupDigits? cs = cs.mapM decimalValue? := by
    obtain ⟨c, cs', rfl⟩ := List.exists_cons_of_ne_nil hne
    rfl
  have hdigits : digits? cs = cs.mapM decimalValue? := by
    rw [digits?, splitChars_of_not_mem hmark, List.mapM_cons, hgroup]
    cases cs.mapM decimalValue? <;> simp
  rw [natural?, hdigits]

/-- Digits alone are read without a sign. -/
theorem integer?_of_digits (hne : cs ≠ []) : integer? cs = (natural? cs).map fun n => (n : Int) := by
  obtain ⟨c, rest, rfl⟩ := List.exists_cons_of_ne_nil hne
  have hc := h c List.mem_cons_self
  rw [integer?, dropMargins_of_digits h]
  split
  · rename_i heq
    obtain rfl : c = '-' := (List.cons.inj heq).1
    exact absurd hc (by decide)
  · rename_i heq
    obtain rfl : c = '+' := (List.cons.inj heq).1
    exact absurd hc (by decide)
  · rfl

end digits

/-! ### Digits of ASCII -/

/-- A digit of ASCII is neither a blank nor one of the marks of numbers and dates. -/
theorem not_isBlank_of_isDigit {c : Char} (h : c.isDigit) : isBlank c = false :=
  not_isBlank_of_digit (isDigit_of_isDigit h)

theorem decimalValue?_of_isDigit {c : Char} (h : c.isDigit) : decimalValue? c = some (c.toNat - 48) := by
  have hrange := toNat_of_isDigit h
  have hfirst : (decide (0x30 ≤ c.toNat) && decide (c.toNat < 0x30 + 10)) = true := by
    simp only [Bool.and_eq_true, decide_eq_true_eq]
    omega
  have hfound : (decimalZeros.find? fun z => z ≤ c.toNat && c.toNat < z + 10) = some 0x30 := by
    unfold decimalZeros
    exact List.find?_cons_of_pos hfirst
  rw [decimalValue?, hfound]
  rfl

variable {cs : List Char}

/-- A text of digits of ASCII is the number that it spells, if it is not too long. -/
theorem integer?_of_isDigit (hne : cs ≠ []) (h : ∀ c ∈ cs, c.isDigit) (hlength : cs.length ≤ digitLimit) :
    integer? cs = some ((Nat.ofDigitChars 10 cs 0 : Nat) : Int) := by
  have hdigits : ∀ c ∈ cs, isDigit c := fun c hc => isDigit_of_isDigit (h c hc)
  have hvalues : cs.mapM decimalValue? = some (cs.map (·.toNat - 48)) :=
    mapM_eq_some fun c hc => decimalValue?_of_isDigit (h c hc)
  have hnumber : ofDigits (cs.map (·.toNat - 48)) = Nat.ofDigitChars 10 cs 0 := by
    rw [ofDigits, List.foldl_map, Nat.ofDigitChars_eq_foldl]
    rfl
  rw [integer?_of_digits hdigits hne, natural?_of_digits hdigits hne, hvalues, Option.bind_some, List.length_map,
    if_pos hlength, hnumber]
  rfl

end Vitae.Decimal
