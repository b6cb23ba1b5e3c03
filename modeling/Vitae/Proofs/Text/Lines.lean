import Mathlib.Data.List.Basic
import Vitae.Text.Lines

/-!
# Cutting a text at a character

`splitChars sep` cuts a text at every `sep`. Joining the pieces gives the text back
(`intercalate_splitChars`), and pieces that hold no `sep` are found again in their
joined text (`splitChars_intercalate`). No piece holds a `sep`
(`not_mem_of_mem_splitChars`). What occurs in a text without a `sep` in it
occurs in one of the pieces, and what follows it in the text begins with what follows
it in the piece (`exists_piece_of_eq_append`).
-/

namespace Vitae.Text

variable {sep : Char}

theorem splitChars_cons_self (cs : List Char) : splitChars sep (sep :: cs) = [] :: splitChars sep cs := by
  simp [splitChars]

/-- A character that is no separator goes to the front of the first piece. -/
theorem exists_splitChars_cons {c : Char} (h : c ≠ sep) (cs : List Char) :
    ∃ p ps, splitChars sep cs = p :: ps ∧ splitChars sep (c :: cs) = (c :: p) :: ps := by
  obtain ⟨p, ps, hp⟩ := List.exists_cons_of_ne_nil (splitChars_ne_nil sep cs)
  exact ⟨p, ps, hp, by rw [splitChars, if_neg h, hp, extendFirst]⟩

/-- A text without the separator goes to the front of the first piece. -/
theorem exists_splitChars_append {u : List Char} (h : sep ∉ u) (cs : List Char) :
    ∃ p ps, splitChars sep cs = p :: ps ∧ splitChars sep (u ++ cs) = (u ++ p) :: ps := by
  induction u with
  | nil =>
    obtain ⟨p, ps, hp⟩ := List.exists_cons_of_ne_nil (splitChars_ne_nil sep cs)
    exact ⟨p, ps, hp, hp⟩
  | cons c u ih =>
    rw [List.mem_cons, not_or] at h
    obtain ⟨p, ps, hp, hup⟩ := ih h.2
    exact ⟨p, ps, hp, by rw [List.cons_append, splitChars, if_neg (Ne.symm h.1), hup]; rfl⟩

theorem splitChars_append_cons (u v : List Char) :
    splitChars sep (u ++ sep :: v) = splitChars sep u ++ splitChars sep v := by
  induction u with
  | nil => rw [List.nil_append, splitChars_cons_self]; rfl
  | cons c u ih =>
    by_cases h : c = sep
    · subst h
      rw [List.cons_append, splitChars_cons_self, ih, splitChars_cons_self]; rfl
    · obtain ⟨p, ps, hp, hcp⟩ := exists_splitChars_cons h u
      rw [List.cons_append, splitChars, if_neg h, ih, hcp, hp]; rfl

theorem splitChars_of_not_mem {cs : List Char} (h : sep ∉ cs) : splitChars sep cs = [cs] := by
  induction cs with
  | nil => rfl
  | cons c cs ih =>
    rw [List.mem_cons, not_or] at h
    rw [splitChars, if_neg (Ne.symm h.1), ih h.2, extendFirst]

/-- The pieces with the separator between them are the text. -/
theorem intercalate_splitChars (sep : Char) (cs : List Char) :
    [sep].intercalate (splitChars sep cs) = cs := by
  induction cs with
  | nil => rfl
  | cons c cs ih =>
    by_cases h : c = sep
    · subst h
      obtain ⟨p, ps, hp⟩ := List.exists_cons_of_ne_nil (splitChars_ne_nil c cs)
      rw [splitChars_cons_self, hp, List.intercalate_cons_cons, ← hp, ih]; rfl
    · obtain ⟨p, ps, hp, hcp⟩ := exists_splitChars_cons h cs
      rw [hcp]
      rw [hp] at ih
      cases ps with
      | nil => rw [List.intercalate_singleton] at ih ⊢; rw [ih]
      | cons q ps =>
        rw [List.intercalate_cons_cons, List.append_assoc] at ih ⊢
        rw [List.cons_append, ih]

theorem mem_intercalate_of_mem {ps : List (List Char)} {p : List Char} (hp : p ∈ ps) {c : Char}
    (hc : c ∈ p) : c ∈ [sep].intercalate ps := by
  induction ps with
  | nil => simp at hp
  | cons q ps ih =>
    cases ps with
    | nil =>
      obtain rfl : p = q := by simpa using hp
      simpa using hc
    | cons r ps =>
      rw [List.intercalate_cons_cons, List.mem_append, List.mem_append]
      rcases List.mem_cons.mp hp with rfl | hp
      · exact .inl (.inl hc)
      · exact .inr (ih hp)

theorem eq_or_exists_of_mem_intercalate {ps : List (List Char)} {c : Char}
    (h : c ∈ [sep].intercalate ps) : c = sep ∨ ∃ p ∈ ps, c ∈ p := by
  induction ps with
  | nil => exact absurd h (by simp)
  | cons p ps ih =>
    cases ps with
    | nil =>
      rw [List.intercalate_singleton] at h
      exact .inr ⟨p, List.mem_cons_self, h⟩
    | cons q ps =>
      rw [List.intercalate_cons_cons, List.append_assoc, List.mem_append, List.singleton_append,
        List.mem_cons] at h
      rcases h with h | h | h
      · exact .inr ⟨p, List.mem_cons_self, h⟩
      · exact .inl h
      · rcases ih h with hsep | ⟨r, hr, hc⟩
        · exact .inl hsep
        · exact .inr ⟨r, List.mem_cons_of_mem _ hr, hc⟩

/-- Behind other pieces the last one follows a separator. -/
theorem exists_intercalate_concat (p : List Char) {ps : List (List Char)} (hne : ps ≠ []) :
    ∃ w, [sep].intercalate (ps ++ [p]) = w ++ sep :: p := by
  induction ps with
  | nil => exact absurd rfl hne
  | cons q ps ih =>
    cases ps with
    | nil => exact ⟨q, by simp⟩
    | cons r ps =>
      obtain ⟨w, hw⟩ := ih (by simp)
      refine ⟨q ++ [sep] ++ w, ?_⟩
      rw [List.cons_append, List.cons_append, List.intercalate_cons_cons, ← List.cons_append, hw]
      exact (List.append_assoc _ _ _).symm

/-- Pieces without the separator are found again in their joined text. -/
theorem splitChars_intercalate {ps : List (List Char)} (hne : ps ≠ []) (h : ∀ p ∈ ps, sep ∉ p) :
    splitChars sep ([sep].intercalate ps) = ps := by
  induction ps with
  | nil => exact absurd rfl hne
  | cons p ps ih =>
    have hp := splitChars_of_not_mem (h p List.mem_cons_self)
    cases ps with
    | nil => rw [List.intercalate_singleton, hp]
    | cons q ps =>
      rw [List.intercalate_cons_cons, List.append_assoc, List.singleton_append,
        splitChars_append_cons, hp, ih (by simp) fun r hr => h r (List.mem_cons_of_mem _ hr)]
      rfl

theorem not_mem_of_mem_splitChars {cs p : List Char} (hp : p ∈ splitChars sep cs) : sep ∉ p := by
  induction cs generalizing p with
  | nil =>
    rw [splitChars, List.mem_singleton] at hp
    rw [hp]
    exact List.not_mem_nil
  | cons c cs ih =>
    by_cases h : c = sep
    · subst h
      rw [splitChars_cons_self, List.mem_cons] at hp
      rcases hp with rfl | hp
      · exact List.not_mem_nil
      · exact ih hp
    · obtain ⟨q, qs, hq, hcq⟩ := exists_splitChars_cons h cs
      rw [hcq, List.mem_cons] at hp
      rcases hp with rfl | hp
      · rw [List.mem_cons, not_or]
        exact ⟨Ne.symm h, ih (by rw [hq]; exact List.mem_cons_self)⟩
      · exact ih (by rw [hq]; exact List.mem_cons_of_mem _ hp)

/-- A text is one piece when there is no separator in it. -/
theorem splitChars_eq_singleton_iff {cs p : List Char} : splitChars sep cs = [p] ↔ cs = p ∧ sep ∉ cs := by
  constructor
  · intro h
    have hp : sep ∉ p := not_mem_of_mem_splitChars (by rw [h]; exact List.mem_singleton_self p)
    have hcs := intercalate_splitChars sep cs
    rw [h, List.intercalate_singleton] at hcs
    exact ⟨hcs.symm, hcs ▸ hp⟩
  · rintro ⟨rfl, h⟩
    exact splitChars_of_not_mem h

/-- A text is two pieces when there is one separator in it. -/
theorem splitChars_eq_pair_iff {cs p q : List Char} :
    splitChars sep cs = [p, q] ↔ cs = p ++ sep :: q ∧ sep ∉ p ∧ sep ∉ q := by
  constructor
  · intro h
    have hpieces : ∀ r ∈ [p, q], sep ∉ r := fun r hr => not_mem_of_mem_splitChars (h ▸ hr)
    have hcs := intercalate_splitChars sep cs
    rw [h, List.intercalate_cons_cons, List.intercalate_singleton, List.append_assoc,
      List.singleton_append] at hcs
    exact ⟨hcs.symm, hpieces p List.mem_cons_self, hpieces q (List.mem_cons_of_mem _ List.mem_cons_self)⟩
  · rintro ⟨rfl, hp, hq⟩
    rw [splitChars_append_cons, splitChars_of_not_mem hp, splitChars_of_not_mem hq]
    rfl

/-- A text without the separator that occurs in a text occurs in one of its pieces, and
what follows it there begins what follows it in the text. -/
theorem exists_piece_of_eq_append {x : List Char} (hx : sep ∉ x) {cs before after : List Char}
    (h : cs = before ++ x ++ after) :
    ∃ p ∈ splitChars sep cs, ∃ b a r, p = b ++ x ++ a ∧ after = a ++ r := by
  induction before generalizing cs with
  | nil =>
    subst h
    by_cases ha : sep ∈ after
    · obtain ⟨a, r, rfl, hn⟩ := List.eq_append_cons_of_mem ha
      refine ⟨x ++ a, ?_, [], a, sep :: r, rfl, rfl⟩
      rw [List.nil_append, ← List.append_assoc, splitChars_append_cons,
        splitChars_of_not_mem (by simp [hx, hn])]
      exact List.mem_append_left _ List.mem_cons_self
    · refine ⟨x ++ after, ?_, [], after, [], rfl, (List.append_nil _).symm⟩
      rw [List.nil_append, splitChars_of_not_mem (by simp [hx, ha])]
      exact List.mem_cons_self
  | cons c before ih =>
    subst h
    obtain ⟨p, hp, b, a, r, hb, ha⟩ := ih rfl
    rw [List.cons_append, List.cons_append]
    by_cases hc : c = sep
    · subst hc
      exact ⟨p, by rw [splitChars_cons_self]; exact List.mem_cons_of_mem _ hp, b, a, r, hb, ha⟩
    · obtain ⟨q, qs, hq, hcq⟩ := exists_splitChars_cons hc (before ++ x ++ after)
      rw [hcq]
      rw [hq] at hp
      rcases List.mem_cons.mp hp with rfl | hp
      · exact ⟨c :: p, List.mem_cons_self, c :: b, a, r, by rw [hb]; rfl, ha⟩
      · exact ⟨p, List.mem_cons_of_mem _ hp, b, a, r, hb, ha⟩

end Vitae.Text
