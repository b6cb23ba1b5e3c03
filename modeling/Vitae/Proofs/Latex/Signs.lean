import Vitae.Proofs.Latex.Decoding
import Vitae.Proofs.Latex.Reading

/-!
# Signs

LaTeX takes a text apart into signs: single characters, and backslashes with the character
behind them, so that a brace, a bracket or an ampersand behind a backslash counts for
nothing, and two backslashes are the command that ends a row. A text whose backslashes at
the end are even in number is taken apart alone (`signs_append`).

What LaTeX looks for in a list of signs are marks outside of groups. It cuts a text at all
of them (`cutOutside`), or breaks it at the first one (`breakOutside?`). Escaped text holds
neither the end of a row nor a separator of columns (`not_mem_signs_escape`).
-/

namespace Vitae.Latex

open Text

/-- A character, or a backslash with the character behind it. -/
abbrev Sign := List Char

/-- The signs of a text. -/
def signs : List Char → List Sign
  | [] => []
  | [c] => [[c]]
  | c :: d :: cs => if c = '\\' then [c, d] :: signs cs else [c] :: signs (d :: cs)

/-- What a sign adds to the number of open groups. -/
def gain (s : Sign) : ℤ := if s = ['\x7b'] then 1 else if s = ['\x7d'] then -1 else 0

/-- The number of groups that signs open, less the number that they close. -/
def nesting : List Sign → ℤ
  | [] => 0
  | s :: ss => gain s + nesting ss

variable {a b cs : List Char} {mark : Sign} {d : ℤ} {u v : List Sign}

theorem flatten_signs (cs : List Char) : (signs cs).flatten = cs := by
  induction cs using signs.induct with
  | case1 => rfl
  | case2 c => rfl
  | case3 d cs ih => simp [signs, ih]
  | case4 c d cs hc ih => simp [signs, hc, ih]

theorem signs_cons {c : Char} (hc : c ≠ '\\') (cs : List Char) : signs (c :: cs) = [c] :: signs cs := by
  cases cs with
  | nil => rfl
  | cons d cs => rw [signs, if_neg hc]

theorem signs_append (ha : endsOdd false a = false) (b : List Char) : signs (a ++ b) = signs a ++ signs b := by
  induction a using signs.induct with
  | case1 => rfl
  | case2 c =>
    have hc : c ≠ '\\' := by simpa [endsOdd] using ha
    exact signs_cons hc b
  | case3 d cs ih =>
    have hcs : endsOdd false cs = false := by simpa [endsOdd] using ha
    simp [signs, ih hcs]
  | case4 c d cs hc ih =>
    have hcs : endsOdd false (d :: cs) = false := by simpa [endsOdd, hc] using ha
    rw [List.cons_append, signs_cons hc, ih hcs, signs_cons hc]
    rfl

theorem gain_singleton (c : Char) : gain [c] = weight false c := by simp [gain, weight]

theorem gain_pair (c d : Char) : gain [c, d] = 0 := by simp [gain]

/-- What stands in front of a place between signs opens the groups that the signs in front of it open. -/
theorem nesting_of_signs_eq_append (h : signs cs = u ++ v) : nesting u = depth false u.flatten := by
  have hweight : ∀ c, weight true c = 0 := fun c => rfl
  induction cs using signs.induct generalizing u with
  | case1 =>
    obtain ⟨rfl, -⟩ := List.append_eq_nil_iff.mp h.symm
    rfl
  | case2 c =>
    cases u with
    | nil => rfl
    | cons s u =>
      obtain ⟨rfl, hrest⟩ := List.cons.inj h
      obtain ⟨rfl, -⟩ := List.append_eq_nil_iff.mp hrest.symm
      simp [nesting, gain_singleton, depth]
  | case3 e cs ih =>
    cases u with
    | nil => rfl
    | cons s u =>
      rw [signs, if_pos rfl] at h
      obtain ⟨rfl, hrest⟩ := List.cons.inj h
      have hslash : weight false '\\' = 0 := rfl
      rw [nesting, gain_pair, ih hrest]
      simp [depth, hslash, hweight]
  | case4 c e cs hc ih =>
    cases u with
    | nil => rfl
    | cons s u =>
      rw [signs_cons hc] at h
      obtain ⟨rfl, hrest⟩ := List.cons.inj h
      rw [nesting, gain_singleton, ih hrest]
      simp [depth, hc]

theorem nesting_signs (cs : List Char) : nesting (signs cs) = depth false cs := by
  have hall : signs cs = signs cs ++ [] := by rw [List.append_nil]
  rw [nesting_of_signs_eq_append hall, flatten_signs]

theorem head?_signs {c : Char} (hc : c ≠ '\\') : (signs cs).head? = some [c] ↔ cs.head? = some c := by
  match cs with
  | [] => simp [signs]
  | [e] => simp [signs]
  | e :: f :: cs =>
    rw [signs]
    split
    · rename_i he
      subst he
      simpa using hc.symm
    · simp

/-! ### Marks outside of groups -/

/-- The pieces of a text between the marks outside of its groups; `d` groups are open in front of it. -/
def cutOutside (mark : Sign) (d : ℤ) : List Sign → List (List Sign)
  | [] => [[]]
  | s :: ss =>
    if s = mark ∧ d = 0 then [] :: cutOutside mark 0 ss
    else (cutOutside mark (d + gain s) ss).modifyHead (s :: ·)

/-- The text in front of the first mark outside of its groups, and the text behind that mark; `d` groups
are open in front of it. -/
def breakOutside? (mark : Sign) (d : ℤ) : List Sign → Option (List Sign × List Sign)
  | [] => none
  | s :: ss =>
    if s = mark ∧ d = 0 then some ([], ss)
    else (breakOutside? mark (d + gain s) ss).map fun p => (s :: p.1, p.2)

/-- A text without marks is part of one piece. -/
theorem cutOutside_append (hu : mark ∉ u) (v : List Sign) :
    cutOutside mark d (u ++ v) = (cutOutside mark (d + nesting u) v).modifyHead (u ++ ·) := by
  induction u generalizing d with
  | nil =>
    rw [List.nil_append, nesting, Int.add_zero]
    cases cutOutside mark d v <;> rfl
  | cons s u ih =>
    obtain ⟨hs, hu⟩ := List.ne_and_not_mem_of_not_mem_cons hu
    rw [List.cons_append, cutOutside, if_neg fun h => hs h.1.symm, ih hu, nesting, ← Int.add_assoc]
    cases cutOutside mark (d + gain s + nesting u) v <;> rfl

theorem cutOutside_append_mark (hu : mark ∉ u) (hclosed : nesting u = 0) (v : List Sign) :
    cutOutside mark 0 (u ++ mark :: v) = u :: cutOutside mark 0 v := by
  rw [cutOutside_append hu, hclosed, Int.add_zero, cutOutside, if_pos ⟨rfl, rfl⟩, List.modifyHead_cons, List.append_nil]

theorem cutOutside_of_not_mem (hu : mark ∉ u) : cutOutside mark d u = [u] := by
  have h := cutOutside_append (d := d) hu []
  rwa [List.append_nil, cutOutside, List.modifyHead_cons, List.append_nil] at h

/-- Marks within groups do not break a text. -/
theorem breakOutside?_append (h : ∀ x y, u = x ++ mark :: y → d + nesting x ≠ 0) (v : List Sign) :
    breakOutside? mark d (u ++ v) = (breakOutside? mark (d + nesting u) v).map fun p => (u ++ p.1, p.2) := by
  induction u generalizing d with
  | nil => simp [nesting]
  | cons s u ih =>
    have hs : ¬ (s = mark ∧ d = 0) := by
      rintro ⟨rfl, rfl⟩
      exact h [] u rfl rfl
    have hrest : ∀ x y, u = x ++ mark :: y → d + gain s + nesting x ≠ 0 := by
      rintro x y rfl
      have hdepth := h (s :: x) y rfl
      rw [nesting] at hdepth
      omega
    rw [List.cons_append, breakOutside?, if_neg hs, ih hrest, nesting, ← Int.add_assoc, Option.map_map]
    rfl

/-- What a text is broken into, with the mark between them, is the text. -/
theorem eq_append_of_breakOutside? {p : List Sign × List Sign} (h : breakOutside? mark d u = some p) :
    u = p.1 ++ mark :: p.2 := by
  induction u generalizing d p with
  | nil => cases h
  | cons s u ih =>
    rw [breakOutside?] at h
    split at h
    · rename_i hs
      rw [← Option.some.inj h, hs.1]
      rfl
    · obtain ⟨q, hq, rfl⟩ := Option.map_eq_some_iff.mp h
      rw [ih hq]
      rfl

/-- A text that holds a mark within its groups only is broken behind its end. -/
theorem breakOutside?_of_whole {c : Char} (h : Whole c cs) (v : List Sign) :
    breakOutside? [c] 0 (signs cs ++ [c] :: v) = some (signs cs, v) := by
  have hinside : ∀ x y, signs cs = x ++ [c] :: y → 0 + nesting x ≠ 0 := by
    intro x y hxy
    have hcs : cs = x.flatten ++ c :: y.flatten := by
      rw [← flatten_signs cs, hxy, List.flatten_append, List.flatten_cons]
      rfl
    rw [Int.zero_add, nesting_of_signs_eq_append hxy]
    exact h.inside _ _ hcs
  rw [breakOutside?_append hinside, nesting_signs, h.closed, Int.add_zero, breakOutside?, if_pos ⟨rfl, rfl⟩]
  simp

/-- What stands in brackets is taken apart alone. -/
theorem signs_bracketed (h : Whole ']' cs) (rest : List Char) :
    signs ('[' :: (cs ++ ']' :: rest)) = ['['] :: (signs cs ++ [']'] :: signs rest) := by
  rw [signs_cons (by decide), signs_append h.even, signs_cons (by decide)]

/-! ### Escaped text -/

/-- The command that ends a row. -/
def rowEnd : Sign := ['\\', '\\']

/-- The separator of columns. -/
def columnMark : Sign := ['&']

theorem signs_escapeChars (cs : List Char) : signs (escapeChars cs) = cs.flatMap fun c => signs (escapeChar c) := by
  have heven : ∀ c, endsOdd false (escapeChar c) = false := by
    intro c
    have hwritten : Written c (escapeChar c) := written_iff.mpr rfl
    generalize escapeChar c = written at hwritten
    cases hwritten with
    | @sequence p h =>
      have hsequences : ∀ p ∈ sequences, endsOdd false p.1 = false := by decide
      exact hsequences p h
    | dash h => rfl
    | self hsequence hdash =>
      have hback : c ≠ '\\' := by
        rintro rfl
        exact hsequence (by decide)
      simp [endsOdd, hback]
  induction cs with
  | nil => rfl
  | cons c cs ih =>
    rw [escapeChars, List.flatMap_cons, signs_append (heven c), List.flatMap_cons, ← ih, escapeChars]

/-- Escaped text holds no end of a row and no separator of columns. -/
theorem not_mem_signs_escape {mark : Sign} (hmark : mark ∈ [rowEnd, columnMark]) (s : String) :
    mark ∉ signs (escape s).toList := by
  have hchar : ∀ c, mark ∉ signs (escapeChar c) := by
    intro c
    have hwritten : Written c (escapeChar c) := written_iff.mpr rfl
    generalize escapeChar c = written at hwritten
    cases hwritten with
    | @sequence p h =>
      have hsequences : ∀ mark ∈ [rowEnd, columnMark], ∀ p ∈ sequences, mark ∉ signs p.1 := by decide
      exact hsequences mark hmark p h
    | dash h =>
      have hdashes : ∀ mark ∈ [rowEnd, columnMark], mark ∉ signs ['-', '-'] := by decide
      exact hdashes mark hmark
    | self hsequence hdash =>
      rw [signs, List.mem_singleton]
      rcases List.mem_pair.mp hmark with rfl | rfl
      · simp [rowEnd]
      · intro hc
        obtain rfl : '&' = c := by simpa [columnMark] using hc
        exact hsequence (by decide)
  rw [toList_escape, signs_escapeChars, List.mem_flatMap]
  rintro ⟨c, -, hc⟩
  exact hchar c hc

end Vitae.Latex
