import Mathlib.Data.List.TakeWhile
import Vitae.Proofs.Text.BlankLines

/-!
# The line through a place

A place of a text lies between what stands before it and what stands behind it. The line
through it goes from the last line feed before it to the next one behind it, and is a line
of the text (`lineAt_mem_splitChars`).
-/

namespace Vitae.Text

/-- The line through a place, given what stands before and behind the place. -/
def lineAt (x y : List Char) : List Char := afterLastFeed x ++ y.takeWhile (· ≠ '\n')

theorem afterLastFeed_of_not_mem {x : List Char} (h : '\n' ∉ x) : afterLastFeed x = x := by
  cases x with
  | nil => rfl
  | cons c x =>
    rw [List.mem_cons, not_or] at h
    have hx : ¬ x.contains '\n' = true := by simpa using h.2
    rw [afterLastFeed, if_neg hx, if_neg (Ne.symm h.1)]

/-- Text without line feeds goes to the end of the line. -/
theorem afterLastFeed_append (x : List Char) {w : List Char} (hw : '\n' ∉ w) :
    afterLastFeed (x ++ w) = afterLastFeed x ++ w := by
  induction x with
  | nil => exact afterLastFeed_of_not_mem hw
  | cons c x ih =>
    rw [List.cons_append, afterLastFeed, afterLastFeed]
    by_cases hx : '\n' ∈ x
    · rw [if_pos (by simp [hx]), if_pos (by simpa using hx), ih]
    · have hx' : ¬ x.contains '\n' = true := by simpa using hx
      have hxw : ¬ (x ++ w).contains '\n' = true := by simp [hx, hw]
      rw [if_neg hx', if_neg hxw]
      split <;> rfl

/-- Before a place stand the lines before it, and the line up to it. -/
theorem afterLastFeed_cases (x : List Char) :
    afterLastFeed x = x ∨ ∃ lines, x = lines ++ '\n' :: afterLastFeed x := by
  by_cases h : '\n' ∈ x
  · obtain ⟨lines, hlines, -⟩ := exists_eq_append_afterLastFeed h
    exact .inr ⟨lines, hlines⟩
  · exact .inl (afterLastFeed_of_not_mem h)

theorem feed_not_mem_afterLastFeed (x : List Char) : '\n' ∉ afterLastFeed x := by
  by_cases h : '\n' ∈ x
  · obtain ⟨-, -, hno⟩ := exists_eq_append_afterLastFeed h
    exact hno
  · rwa [afterLastFeed_of_not_mem h]

/-- Behind a place stand the rest of its line, and the lines behind that. -/
theorem takeWhile_feed_cases (y : List Char) :
    y.takeWhile (· ≠ '\n') = y ∨ ∃ lines, y = y.takeWhile (· ≠ '\n') ++ '\n' :: lines := by
  induction y with
  | nil => exact .inl rfl
  | cons c y ih =>
    by_cases hc : c = '\n'
    · subst hc
      exact .inr ⟨y, by simp⟩
    · have htake : (c :: y).takeWhile (· ≠ '\n') = c :: y.takeWhile (· ≠ '\n') :=
        List.takeWhile_cons_of_pos (by simpa using hc)
      rw [htake]
      rcases ih with ih | ⟨lines, hlines⟩
      · exact .inl (by rw [ih])
      · exact .inr ⟨lines, by rw [List.cons_append, ← hlines]⟩

theorem feed_not_mem_lineAt (x y : List Char) : '\n' ∉ lineAt x y := by
  have hrest : '\n' ∉ y.takeWhile (· ≠ '\n') := by
    intro h
    simpa using List.mem_takeWhile_imp h
  rw [lineAt, List.mem_append, not_or]
  exact ⟨feed_not_mem_afterLastFeed x, hrest⟩

/-- The line through a place is a line of the text. -/
theorem lineAt_mem_splitChars (x y : List Char) : lineAt x y ∈ splitChars '\n' (x ++ y) := by
  have hline := splitChars_of_not_mem (feed_not_mem_lineAt x y)
  have hrest : lineAt x y ∈ splitChars '\n' (afterLastFeed x ++ y) := by
    rcases takeWhile_feed_cases y with hy | ⟨lines, hlines⟩
    · have hsplit : afterLastFeed x ++ y = lineAt x y := by rw [lineAt, hy]
      rw [hsplit, hline]
      exact List.mem_cons_self
    · have hsplit : afterLastFeed x ++ y = lineAt x y ++ '\n' :: lines := by
        rw [lineAt, List.append_assoc, ← hlines]
      rw [hsplit, splitChars_append_cons, hline]
      exact List.mem_append_left _ List.mem_cons_self
  rcases afterLastFeed_cases x with hx | ⟨lines, hlines⟩
  · rwa [hx] at hrest
  · have hsplit : x ++ y = lines ++ '\n' :: (afterLastFeed x ++ y) := by
      rw [← List.cons_append, ← List.append_assoc, ← hlines]
    rw [hsplit, splitChars_append_cons]
    exact List.mem_append_right _ hrest

end Vitae.Text
