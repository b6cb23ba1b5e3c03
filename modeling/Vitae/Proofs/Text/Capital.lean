import Vitae.Proofs.Text.Shown
import Vitae.Text.Case

/-!
# Capitals show what small letters show

The upper case of a character that is not blank is not all blank: the blank characters lie
apart from the code points that capitals move to (`printedSpans`, `isPrinted_upperRuns`). So a
text that shows something does so with its first character in upper case (`shown_capitalize`).
-/

namespace Vitae.Text

/-- The spans of code points between the blank characters, each with its ends; the last one stands for
all code points behind the last blank. -/
def printedSpans : List (Nat × Nat) :=
  [(0xa1, 0x167f), (0x1681, 0x1fff), (0x3001, 0x10ffff), (0x2060, 0x2fff), (0x21, 0x84)]

theorem isBlank_eq_false_of_span {s : Nat × Nat} (hs : s ∈ printedSpans) {c : Char} (hlow : s.1 ≤ c.toNat)
    (hhigh : c.toNat ≤ s.2) : isBlank c = false := by
  simp only [isBlank, Bool.or_eq_false_iff, Bool.and_eq_false_iff, beq_eq_false_iff_ne, decide_eq_false_iff_not]
  simp only [printedSpans, List.mem_cons, List.not_mem_nil, or_false] at hs
  rcases hs with rfl | rfl | rfl | rfl | rfl <;> omega

/-- A code point that is none of a character becomes the null character, which is not blank either. -/
theorem isBlank_ofNat_of_span {s : Nat × Nat} (hs : s ∈ printedSpans) {n : Nat} (hlow : s.1 ≤ n) (hhigh : n ≤ s.2) :
    isBlank (Char.ofNat n) = false := by
  by_cases hn : n.isValidChar
  · have htoNat : (Char.ofNat n).toNat = n := by
      rw [Char.ofNat, dif_pos hn]
      rfl
    exact isBlank_eq_false_of_span hs (by rw [htoNat]; exact hlow) (by rw [htoNat]; exact hhigh)
  · rw [Char.ofNat, dif_neg hn]
    decide

/-- Whether all code points of a run move to printed ones. -/
def CaseRun.isPrinted (r : CaseRun) : Bool :=
  printedSpans.any fun s => decide ((s.1 : Int) ≤ r.first + r.shift) && decide (r.last + r.shift ≤ s.2)

theorem CaseRun.isBlank_image? {r : CaseRun} (h : r.isPrinted = true) {n m : Nat} (hm : r.image? n = some m) :
    isBlank (Char.ofNat m) = false := by
  obtain ⟨s, hs, hspan⟩ := List.any_eq_true.mp h
  obtain ⟨hlow, hhigh⟩ : (s.1 : Int) ≤ r.first + r.shift ∧ r.last + r.shift ≤ s.2 := by simpa using hspan
  rw [image?] at hm
  split at hm
  · rename_i hin
    obtain ⟨⟨hfirst, hlast⟩, -⟩ : (r.first ≤ n ∧ n ≤ r.last) ∧ (n - r.first) % r.step = 0 := by simpa using hin
    obtain rfl := Option.some.inj hm
    exact isBlank_ofNat_of_span hs (by omega) (by omega)
  · cases hm

set_option maxRecDepth 4000 in
theorem isPrinted_upperRuns : upperRuns.all CaseRun.isPrinted = true := by decide

set_option maxRecDepth 4000 in
/-- Of a character that becomes several the first one is printed. -/
theorem isPrinted_upperExpansions :
    (upperExpansions.all fun e => (e.2.head?.map Char.ofNat).any fun d => !isBlank d) = true := by decide

/-- On ASCII the upper case brings no blank in. -/
theorem isBlank_toUpper {c : Char} (hascii : c.toNat < 0x80) (h : isBlank c = false) : isBlank c.toUpper = false :=
  of_ascii (P := fun c => isBlank c = false → isBlank c.toUpper = false) (by decide) hascii h

/-- The upper case of a character shows something if the character does. -/
theorem exists_mem_upperChar {c : Char} (h : isBlank c = false) : ∃ d ∈ upperChar c, isBlank d = false := by
  unfold upperChar
  split
  · rename_i hascii
    exact ⟨_, List.mem_singleton_self _, isBlank_toUpper hascii h⟩
  · split
    · rename_i codes hcodes
      obtain ⟨before, after, htable, -⟩ := List.lookup_eq_some_iff.mp hcodes
      have hentry : (c.toNat, codes) ∈ upperExpansions := by simp [htable]
      have hfirst := List.all_eq_true.mp isPrinted_upperExpansions _ hentry
      cases codes with
      | nil => cases hfirst
      | cons code codes => exact ⟨Char.ofNat code, List.mem_cons_self, by simpa using hfirst⟩
    · refine ⟨_, List.mem_singleton_self _, ?_⟩
      cases himage : upperRuns.findSome? (·.image? c.toNat) with
      | none => exact h
      | some m =>
        obtain ⟨r, hr, hm⟩ := List.exists_of_findSome?_eq_some himage
        exact CaseRun.isBlank_image? (List.all_eq_true.mp isPrinted_upperRuns r hr) hm

/-- A text shows something with its first character in upper case if it does so as it is. -/
theorem shown_capitalize {s : String} (h : Shown s) : Shown (capitalize s) := by
  obtain ⟨d, hd, hblank⟩ := h
  rw [Shown, capitalize, String.toList_ofList]
  cases hs : s.toList with
  | nil =>
    rw [hs] at hd
    cases hd
  | cons c rest =>
    rw [hs] at hd
    rcases List.mem_cons.mp hd with rfl | hrest
    · obtain ⟨e, he, hprinted⟩ := exists_mem_upperChar hblank
      exact ⟨e, List.mem_append_left rest he, hprinted⟩
    · exact ⟨d, List.mem_append_right _ hrest, hblank⟩

end Vitae.Text
