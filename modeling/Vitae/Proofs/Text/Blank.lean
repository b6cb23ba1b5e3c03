import Vitae.Text.Blank
import Vitae.Text.Lines

/-!
# The blanks of a single line

Trimming drops characters and adds none, and the single-line form of a text has no blank
but the space (`eq_space_of_mem_singleLineChars`). Every character that ends a line is
blank, so a single line is one line.
-/

namespace Vitae.Text

theorem mem_of_mem_dropBlanks {c : Char} {cs : List Char} (h : c ∈ dropBlanks cs) : c ∈ cs := by
  induction cs with
  | nil => simp [dropBlanks] at h
  | cons d cs ih =>
    rw [dropBlanks] at h
    split at h
    · exact List.mem_cons_of_mem _ (ih h)
    · exact h

theorem mem_of_mem_trimChars {c : Char} {cs : List Char} (h : c ∈ trimChars cs) : c ∈ cs := by
  rw [trimChars, List.mem_reverse] at h
  exact mem_of_mem_dropBlanks (List.mem_reverse.mp (mem_of_mem_dropBlanks h))

theorem dropBlanks_of_no_blank {cs : List Char} (h : ∀ c ∈ cs, isBlank c = false) : dropBlanks cs = cs := by
  cases cs with
  | nil => rfl
  | cons c cs =>
    have hc := h c List.mem_cons_self
    simp [dropBlanks, hc]

/-- A text without blanks is trimmed. -/
theorem trimChars_of_no_blank {cs : List Char} (h : ∀ c ∈ cs, isBlank c = false) : trimChars cs = cs := by
  rw [trimChars, dropBlanks_of_no_blank h,
    dropBlanks_of_no_blank fun c hc => h c (List.mem_reverse.mp hc), List.reverse_reverse]

theorem eq_space_of_mem_collapseFrom {c : Char} (hc : isBlank c) {inRun : Bool} {cs : List Char}
    (h : c ∈ collapseFrom inRun cs) : c = ' ' := by
  induction cs generalizing inRun with
  | nil => simp [collapseFrom] at h
  | cons d cs ih =>
    rw [collapseFrom] at h
    split at h
    · split at h
      · exact ih h
      · rcases List.mem_cons.mp h with h | h
        · exact h
        · exact ih h
    · rename_i hd
      rcases List.mem_cons.mp h with rfl | h
      · exact absurd hc hd
      · exact ih h

/-- The only blank of a single line is the space. -/
theorem eq_space_of_mem_singleLineChars {c : Char} (hc : isBlank c) {cs : List Char}
    (h : c ∈ singleLineChars cs) : c = ' ' :=
  eq_space_of_mem_collapseFrom hc (mem_of_mem_trimChars h)

theorem isBlank_of_isLineBreak {c : Char} (h : isLineBreak c) : isBlank c := by
  simp only [isLineBreak, Bool.or_eq_true, Bool.and_eq_true, decide_eq_true_eq, beq_iff_eq] at h
  simp only [isBlank, Bool.or_eq_true, Bool.and_eq_true, decide_eq_true_eq, beq_iff_eq]
  omega

end Vitae.Text
