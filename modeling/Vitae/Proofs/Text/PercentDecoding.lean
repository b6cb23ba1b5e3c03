import Vitae.Proofs.Text.Percent
import Vitae.Yaml.Scalar

/-!
# Percent decoding

The bytes that a text names are read from the front: a percent sign with two hexadecimal digits behind it is
one byte, and any other character is the bytes of its UTF-8 form. A link target names the same bytes as the
text that it was made from (`percentDecodeFrom_targetChars`). The percent signs of the text stay, and so do the
hexadecimal digits. What is quoted begins with a percent sign itself, which is no hexadecimal digit, so no `%XX`
of the text is taken apart and none comes about at a seam (`hexByte?_targetChars`).
-/

namespace Vitae.Text

open Yaml (hexValue?)

/-! ### The reader -/

/-- The byte that the first two characters of a text spell as hexadecimal digits. -/
def hexByte? (cs : List Char) : Option UInt8 :=
  (cs.head?.bind hexValue?).bind fun high =>
    (cs.tail.head?.bind hexValue?).map fun low => UInt8.ofNat (16 * high + low)

/-- Reads the bytes that a text names. `skip` is the number of characters to be passed over, the digits of a byte
that has been read. -/
def percentDecodeFrom : Nat → List Char → List UInt8
  | _, [] => []
  | skip + 1, _ :: cs => percentDecodeFrom skip cs
  | 0, c :: cs =>
    match if c = '%' then hexByte? cs else none with
    | some b => b :: percentDecodeFrom 2 cs
    | none => String.utf8EncodeChar c ++ percentDecodeFrom 0 cs

/-- The bytes that a text names. -/
def percentDecode (s : String) : List UInt8 := percentDecodeFrom 0 s.toList

/-- A character other than the percent sign names the bytes of its UTF-8 form. -/
theorem percentDecodeFrom_cons {c : Char} (hc : c ≠ '%') (cs : List Char) :
    percentDecodeFrom 0 (c :: cs) = String.utf8EncodeChar c ++ percentDecodeFrom 0 cs := by
  rw [percentDecodeFrom, if_neg hc]

/-! ### Hexadecimal digits -/

theorem hexValue?_hexDigitUpper {n : Nat} (h : n < 16) : hexValue? (hexDigitUpper n) = some n := by
  have key : ∀ n < 16, hexValue? (hexDigitUpper n) = some n := by decide
  exact key n h

/-- A link target keeps hexadecimal digits. -/
theorem isTargetChar_of_hexValue? {c : Char} {n : Nat} (h : hexValue? c = some n) : isTargetChar c := by
  have hkinds : c.isAlphanum = (c.isUpper || c.isLower || c.isDigit) := rfl
  have halphanum : c.isAlphanum := by
    rw [hexValue?] at h
    rw [hkinds, Bool.or_eq_true, Bool.or_eq_true]
    split at h
    · rename_i hdigit
      exact .inr hdigit
    · split at h
      · rename_i hlower
        refine .inl (.inr ((Bool.and_eq_true _ _).mpr ⟨?_, ?_⟩))
        · exact decide_eq_true hlower.1
        · exact decide_eq_true (Char.le_trans hlower.2 (by decide : 'f' ≤ 'z'))
      · split at h
        · rename_i hupper
          refine .inl (.inl (decide_eq_true ⟨?_, ?_⟩))
          · exact hupper.1
          · exact Char.le_trans hupper.2 (by decide : 'F' ≤ 'Z')
        · cases h
  rw [isTargetChar, halphanum, Bool.true_or]

/-- The digits of a byte spell it. -/
theorem percentDecodeFrom_percentByte (b : UInt8) (cs : List Char) :
    percentDecodeFrom 0 (percentByte b ++ cs) = b :: percentDecodeFrom 0 cs := by
  have hb : b.toNat < 256 := b.toNat_lt
  have hbyte : hexByte? (hexDigitUpper (b.toNat / 16) :: hexDigitUpper (b.toNat % 16) :: cs) = some b := by
    have hhigh := hexValue?_hexDigitUpper (show b.toNat / 16 < 16 by omega)
    have hlow := hexValue?_hexDigitUpper (show b.toNat % 16 < 16 by omega)
    simp only [hexByte?, List.head?_cons, List.tail_cons, Option.bind_some, Option.map_some, hhigh, hlow,
      Nat.div_add_mod, UInt8.ofNat_toNat]
  simp only [percentByte, List.cons_append, List.nil_append, percentDecodeFrom, if_pos, hbyte]

theorem percentDecodeFrom_percentBytes (bs : List UInt8) (cs : List Char) :
    percentDecodeFrom 0 (bs.flatMap percentByte ++ cs) = bs ++ percentDecodeFrom 0 cs := by
  induction bs with
  | nil => rfl
  | cons b bs ih =>
    rw [List.flatMap_cons, List.append_assoc, percentDecodeFrom_percentByte, ih, List.cons_append]

/-! ### Link targets -/

/-- Characters that a link target keeps. -/
theorem targetChars_cons {c : Char} (hc : isTargetChar c) (cs : List Char) :
    targetChars (c :: cs) = c :: targetChars cs := by
  rw [targetChars, List.flatMap_cons, targetChar, if_pos hc, targetChars, List.singleton_append]

/-- Characters that it quotes. -/
theorem targetChars_cons_of_not {c : Char} (hc : ¬ isTargetChar c) (cs : List Char) :
    targetChars (c :: cs) = (String.utf8EncodeChar c).flatMap percentByte ++ targetChars cs := by
  rw [targetChars, List.flatMap_cons, targetChar, if_neg hc, targetChars]

/-- A text of characters that are kept is its own target. -/
theorem targetChars_of_forall {cs : List Char} (h : ∀ c ∈ cs, isTargetChar c) : targetChars cs = cs := by
  induction cs with
  | nil => rfl
  | cons c cs ih =>
    obtain ⟨hc, hcs⟩ := List.forall_mem_cons.mp h
    rw [targetChars_cons hc, ih hcs]

theorem linkTarget_eq_self_iff {s : String} : linkTarget s = s ↔ ∀ c ∈ s.toList, isTargetChar c := by
  constructor
  · intro h c hc
    rw [← h] at hc
    exact isTargetChar_of_mem_linkTarget hc
  · intro h
    rw [linkTarget, targetChars_of_forall h, String.ofList_toList]

/-- What is quoted begins with a percent sign. -/
theorem exists_quoted (c : Char) : ∃ cs, (String.utf8EncodeChar c).flatMap percentByte = '%' :: cs := by
  have hne : String.utf8EncodeChar c ≠ [] := by
    intro hnil
    have hlength := String.length_utf8EncodeChar c
    rw [hnil, List.length_nil] at hlength
    exact absurd hlength.symm (Nat.ne_of_gt c.utf8Size_pos)
  obtain ⟨b, bs, hbs⟩ := List.exists_cons_of_ne_nil hne
  exact ⟨_, by rw [hbs, List.flatMap_cons, percentByte, List.cons_append]⟩

/-- A target begins with the same hexadecimal digit as the text, or with none. -/
theorem hexValue?_head?_targetChars (cs : List Char) :
    (targetChars cs).head?.bind hexValue? = cs.head?.bind hexValue? := by
  cases cs with
  | nil => rfl
  | cons c cs =>
    by_cases hc : isTargetChar c
    · rw [targetChars_cons hc, List.head?_cons, List.head?_cons]
    · obtain ⟨quoted, hquoted⟩ := exists_quoted c
      have hnone : hexValue? c = none :=
        Option.eq_none_iff_forall_ne_some.mpr fun n hn => hc (isTargetChar_of_hexValue? hn)
      rw [targetChars_cons_of_not hc, hquoted, List.cons_append, List.head?_cons, List.head?_cons, Option.bind_some,
        Option.bind_some, hnone]
      rfl

/-- A target begins with the same byte in hexadecimal digits as the text, or with none. -/
theorem hexByte?_targetChars (cs : List Char) : hexByte? (targetChars cs) = hexByte? cs := by
  rw [hexByte?, hexByte?, hexValue?_head?_targetChars]
  cases hhigh : cs.head?.bind hexValue? with
  | none => rfl
  | some high =>
    obtain ⟨c, hc, hvalue⟩ := Option.bind_eq_some_iff.mp hhigh
    obtain ⟨rest, rfl⟩ := List.head?_eq_some_iff.mp hc
    rw [targetChars_cons (isTargetChar_of_hexValue? hvalue), List.tail_cons, List.tail_cons,
      hexValue?_head?_targetChars]

/-- The byte that stands at the front, by its digits. -/
theorem exists_of_hexByte? {cs : List Char} {b : UInt8} (h : hexByte? cs = some b) :
    ∃ c d rest, cs = c :: d :: rest ∧ isTargetChar c ∧ isTargetChar d := by
  obtain ⟨high, hhigh, h⟩ := Option.bind_eq_some_iff.mp h
  obtain ⟨low, hlow, -⟩ := Option.map_eq_some_iff.mp h
  obtain ⟨c, hc, hcvalue⟩ := Option.bind_eq_some_iff.mp hhigh
  obtain ⟨d, hd, hdvalue⟩ := Option.bind_eq_some_iff.mp hlow
  obtain ⟨tail, rfl⟩ := List.head?_eq_some_iff.mp hc
  obtain ⟨rest, rfl⟩ := List.head?_eq_some_iff.mp hd
  exact ⟨c, d, rest, rfl, isTargetChar_of_hexValue? hcvalue, isTargetChar_of_hexValue? hdvalue⟩

/-- **A link target names the bytes of its text.** Two characters are passed over behind a percent sign,
so the induction is on the length. -/
theorem percentDecodeFrom_targetChars (cs : List Char) :
    percentDecodeFrom 0 (targetChars cs) = percentDecodeFrom 0 cs := by
  induction hn : cs.length using Nat.strongRecOn generalizing cs with
  | ind n ih =>
    cases cs with
    | nil => rfl
    | cons c cs =>
      subst hn
      by_cases hc : isTargetChar c
      · rw [targetChars_cons hc, percentDecodeFrom, percentDecodeFrom, hexByte?_targetChars]
        split
        · rename_i b hb
          have hbyte : hexByte? cs = some b := by
            split at hb
            · exact hb
            · cases hb
          obtain ⟨x, y, rest, rfl, hx, hy⟩ := exists_of_hexByte? hbyte
          have hrest := ih rest.length (by simp only [List.length_cons]; omega) rest rfl
          rw [targetChars_cons hx, targetChars_cons hy]
          exact congrArg (b :: ·) hrest
        · rw [ih cs.length (Nat.lt_succ_self _) cs rfl]
      · have hpercent : c ≠ '%' := by
          rintro rfl
          exact hc (by decide)
        rw [targetChars_cons_of_not hc, percentDecodeFrom_percentBytes, percentDecodeFrom_cons hpercent,
          ih cs.length (Nat.lt_succ_self _) cs rfl]

theorem percentDecode_linkTarget (s : String) : percentDecode (linkTarget s) = percentDecode s := by
  rw [percentDecode, linkTarget, String.toList_ofList, percentDecodeFrom_targetChars, percentDecode]

end Vitae.Text
