import Vitae.Latex.Keyed

/-!
# Empty arguments

The keyed commands fail on an argument `={}`. Whether one comes up is read by a machine
that only knows how much of it stands directly in front (`Progress`), so it can be
followed through texts that are put together: escaped text never opens one, and closes
one only if it is empty (`filled_escapeChars`).
-/

namespace Vitae.Latex

/-- How much of an empty argument `={}` stands directly in front. -/
inductive Progress where
  /-- Nothing of it. -/
  | nothing
  /-- The equals sign. -/
  | equals
  /-- The equals sign and the brace that opens. -/
  | brace
  /-- An empty argument has been found. -/
  | found
  deriving DecidableEq

namespace Progress

/-- What stands in front after one more character. -/
def next (s : Progress) (c : Char) : Progress :=
  if s = .found ∨ s = .brace ∧ c = '\x7d' then .found
  else if s = .equals ∧ c = '\x7b' then .brace
  else if c = '=' then .equals else .nothing

/-- What stands in front after a text. -/
def after (s : Progress) (cs : List Char) : Progress := cs.foldl next s

/-- Where no argument is open. -/
def outer : List Progress := [.nothing, .equals]

theorem after_append (s : Progress) (a b : List Char) : s.after (a ++ b) = (s.after a).after b :=
  List.foldl_append ..

theorem after_cons (s : Progress) (c : Char) (cs : List Char) : s.after (c :: cs) = (s.next c).after cs :=
  rfl

theorem after_found (cs : List Char) : found.after cs = found := by
  induction cs with
  | nil => rfl
  | cons c cs ih => exact ih

/-- The machine finds every empty argument. -/
theorem after_eq_found {cs : List Char} (h : "=\x7b\x7d".toList <:+: cs) (s : Progress) :
    s.after cs = found := by
  obtain ⟨a, b, rfl⟩ := h
  have key : ∀ s : Progress, s.after "=\x7b\x7d".toList = found := by
    intro s; cases s <;> decide
  rw [after_append, after_append, key, after_found]

end Progress

open Progress

/-- A text that leads from outside of arguments to outside of arguments. -/
def Calm (cs : List Char) : Prop := ∀ s ∈ outer, s.after cs ∈ outer

/-- A calm text that does not end in an equals sign. -/
def Settled (cs : List Char) : Prop := ∀ s ∈ outer, s.after cs = .nothing

/-- A calm text with which an argument is not empty. -/
def Filled (cs : List Char) : Prop := ∀ s ∈ brace :: outer, s.after cs ∈ outer

instance (cs : List Char) : Decidable (Calm cs) := inferInstanceAs (Decidable (∀ _ ∈ _, _))
instance (cs : List Char) : Decidable (Settled cs) := inferInstanceAs (Decidable (∀ _ ∈ _, _))
instance (cs : List Char) : Decidable (Filled cs) := inferInstanceAs (Decidable (∀ _ ∈ _, _))

variable {a b cs : List Char}

theorem calm_nil : Calm [] := fun _ hs => hs

theorem Calm.append (ha : Calm a) (hb : Calm b) : Calm (a ++ b) := by
  intro s hs
  rw [after_append]
  exact hb _ (ha s hs)

theorem Settled.calm (h : Settled cs) : Calm cs := by
  intro s hs
  rw [h s hs]; decide

theorem Filled.calm (h : Filled cs) : Calm cs := fun s hs => h s (List.mem_cons_of_mem _ hs)

theorem Filled.append (ha : Filled a) (hb : Calm b) : Filled (a ++ b) := by
  intro s hs
  rw [after_append]
  exact hb _ (ha s hs)

theorem Calm.no_empty_argument (h : Calm cs) : ¬ "=\x7b\x7d".toList <:+: cs := by
  intro hcs
  have := h .nothing (by decide)
  rw [after_eq_found hcs] at this
  exact absurd this (by decide)

/-- A group behind a settled text. -/
theorem Settled.braced (ha : Settled a) (hb : Calm b) : Settled (a ++ '\x7b' :: (b ++ ['\x7d'])) := by
  intro s hs
  have hclose : ∀ s ∈ outer, s.after ['\x7d'] = .nothing := by decide
  rw [after_append, ha s hs, after_cons, after_append]
  exact hclose _ (hb _ (by decide))

/-- A group that is not empty, anywhere. -/
theorem Filled.braced (h : Filled cs) : Settled ('\x7b' :: (cs ++ ['\x7d'])) := by
  intro s hs
  have hopen : ∀ s ∈ outer, s.next '\x7b' ∈ brace :: outer := by decide
  have hclose : ∀ s ∈ outer, s.after ['\x7d'] = .nothing := by decide
  rw [after_cons, after_append]
  exact hclose _ (h _ (hopen s hs))

/-! ### The escaper -/

/-- The characters that are written as escape sequences. -/
def specials : List Char := "…\\\x7b\x7d$&%#_^~".toList

/-- The escape sequences. -/
def escapeSequences : List (List Char) := specials.map escapeChar

/-- A character is written as an escape sequence, as two hyphens, or as itself. -/
theorem escapeChar_cases (c : Char) :
    escapeChar c ∈ escapeSequences ∨ escapeChar c = ['-', '-'] ∨ c ∉ specials ∧ escapeChar c = [c] := by
  by_cases hs : c ∈ specials
  · exact .inl (List.mem_map_of_mem hs)
  · refine .inr ?_
    unfold escapeChar
    split <;> first
      | exact .inl rfl
      | exact absurd (by decide) hs
      | exact .inr ⟨hs, rfl⟩

/-- The written form of a character makes an argument more than empty. -/
theorem filled_escapeChar (c : Char) : Filled (escapeChar c) := by
  rcases escapeChar_cases c with hc | hc | ⟨hs, hc⟩
  · have key : ∀ e ∈ escapeSequences, Filled e := by decide
    exact key _ hc
  · rw [hc]; decide
  · have h1 : c ≠ '\x7d' := by rintro rfl; exact hs (by decide)
    have h2 : c ≠ '\x7b' := by rintro rfl; exact hs (by decide)
    intro s hfound
    have hf : s ≠ .found := by rintro rfl; exact absurd hfound (by decide)
    rw [hc, after_cons]
    by_cases he : c = '='
    · simp [next, after, hf, he, outer]
    · simp [next, after, hf, h1, h2, he, outer]

theorem calm_escapeChars (cs : List Char) : Calm (escapeChars cs) := by
  induction cs with
  | nil => exact calm_nil
  | cons c cs ih => exact (filled_escapeChar c).calm.append ih

theorem filled_escapeChars (hcs : cs ≠ []) : Filled (escapeChars cs) := by
  obtain ⟨c, cs, rfl⟩ := List.exists_cons_of_ne_nil hcs
  exact (filled_escapeChar c).append (calm_escapeChars cs)

end Vitae.Latex
