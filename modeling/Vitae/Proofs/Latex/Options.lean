import Vitae.Proofs.Latex.Signs

/-!
# Optional arguments

Behind some commands LaTeX looks for an optional argument: a bracket there belongs to the
command, with all that follows up to the next closing bracket outside of groups, even when
that stands behind the next commands. The text behind such commands is read piece by piece,
one for each command (`readOptions`).

Pieces without a bracket in front are read as they stand (`readOptions_of_forall`). An
optional argument takes characters of its piece, or whole pieces, and what is read weighs
less then: if it does not, there was none (`opened?_of_readOptions`).
-/

namespace Vitae.Latex

open Text

/-- The text that signs are taken from. -/
def textOf (ss : List Sign) : String := String.ofList ss.flatten

/-- What stands behind the spaces in front. -/
def dropSpaces (ss : List Sign) : List Sign := ss.dropWhile (· = [' '])

theorem dropSpaces_signs {cs : List Char} (h : cs.head? ≠ some ' ') : dropSpaces (signs cs) = signs cs := by
  have hhead : (signs cs).head? ≠ some [' '] := by rwa [ne_eq, head?_signs (by decide)]
  cases hs : signs cs with
  | nil => rfl
  | cons s ss =>
    rw [hs, List.head?_cons, ne_eq, Option.some.injEq] at hhead
    rw [dropSpaces, List.dropWhile_cons_of_neg (by simpa using hhead)]

/-- What does not change with a space in front does not depend on the spaces there. -/
theorem apply_dropSpaces {β : Type} (f : List Sign → β) (h : ∀ ss, f ([' '] :: ss) = f ss) (ss : List Sign) :
    f (dropSpaces ss) = f ss := by
  induction ss with
  | nil => rfl
  | cons s ss ih =>
    rw [dropSpaces, List.dropWhile_cons]
    split
    · rename_i hs
      obtain rfl : s = [' '] := by simpa using hs
      rw [h]
      exact ih
    · rfl

/-- What stands behind a bracket in front. -/
def opened? (ss : List Sign) : Option (List Sign) :=
  match ss with
  | ['['] :: rest => some rest
  | _ => none

theorem eq_of_opened? {ss rest : List Sign} (h : opened? ss = some rest) : ss = ['['] :: rest := by
  unfold opened? at h
  split at h
  · rw [Option.some.inj h]
  · cases h

theorem opened?_eq_none_iff {ss : List Sign} : opened? ss = none ↔ ss.head? ≠ some ['['] := by
  unfold opened?
  split
  · simp
  · rename_i hopen
    refine iff_of_true rfl fun hhead => ?_
    obtain ⟨rest, rfl⟩ := List.head?_eq_some_iff.mp hhead
    exact hopen rest rfl

/-- What is read behind a command. -/
structure Reading where
  /-- Its optional argument, if it has one. -/
  argument : Option (List Sign)
  /-- What follows. -/
  content : List Sign

section

variable (command : List Sign) (front : List Sign → List Sign)

/-- What is read behind commands; an optional argument may begin where `front` leads, and `written` is
what has been read of one that is not closed yet. Nothing if one is never closed. -/
def readOptions (written : Option (List Sign)) : List (List Sign) → Option (List Reading)
  | [] => if written = none then some [] else none
  | t :: ts =>
    match written.elim (opened? (front t)) fun w => some (w ++ command ++ t) with
    | none => (readOptions none ts).map (⟨none, front t⟩ :: ·)
    | some w =>
      match breakOutside? [']'] 0 w with
      | none => readOptions (some w) ts
      | some (argument, rest) => (readOptions none ts).map (⟨some argument, rest⟩ :: ·)

variable {command front} {ts : List (List Sign)} {written : Option (List Sign)} {rs : List Reading}

/-- No more is read than there are commands. -/
theorem length_le_of_readOptions (h : readOptions command front written ts = some rs) : rs.length ≤ ts.length := by
  induction ts generalizing written rs with
  | nil =>
    rw [readOptions] at h
    split at h
    · rw [← Option.some.inj h]
      exact Nat.le_refl 0
    · cases h
  | cons t ts ih =>
    rw [readOptions] at h
    split at h
    · obtain ⟨rest, hrest, rfl⟩ := Option.map_eq_some_iff.mp h
      exact Nat.succ_le_succ (ih hrest)
    · split at h
      · exact Nat.le_succ_of_le (ih h)
      · obtain ⟨rest, hrest, rfl⟩ := Option.map_eq_some_iff.mp h
        exact Nat.succ_le_succ (ih hrest)

/-- Without brackets nothing is taken. -/
theorem readOptions_of_forall (h : ∀ t ∈ ts, opened? (front t) = none) :
    readOptions command front none ts = some (ts.map fun t => ⟨none, front t⟩) := by
  induction ts with
  | nil => rfl
  | cons t ts ih =>
    obtain ⟨ht, hts⟩ := List.forall_mem_cons.mp h
    rw [readOptions, Option.elim_none, ht, ih hts]
    rfl

end

/-! ### What is left -/

/-- The number of characters that are not blank. -/
def weigh (cs : List Char) : ℕ := cs.countP (!isBlank ·)

theorem weigh_append (a b : List Char) : weigh (a ++ b) = weigh a + weigh b := List.countP_append

theorem weigh_trimChars (cs : List Char) : weigh (trimChars cs) = weigh cs := by
  obtain ⟨a, b, ha, hb, hcs⟩ := exists_eq_append_trimChars cs
  have hblank : ∀ d : List Char, (∀ c ∈ d, isBlank c) → weigh d = 0 := fun d hd =>
    List.countP_eq_zero.mpr fun c hc => by simp [hd c hc]
  have hweigh := congrArg weigh hcs
  rw [weigh_append, weigh_append, hblank a ha, hblank b hb] at hweigh
  omega

theorem weigh_dropSpaces (ss : List Sign) : weigh (dropSpaces ss).flatten = weigh ss.flatten := by
  have hspace : weigh [' '] = 0 := by decide
  refine apply_dropSpaces (fun ss => weigh ss.flatten) (fun ss => ?_) ss
  rw [List.flatten_cons, weigh_append, hspace, Nat.zero_add]

variable {command : List Sign} {front : List Sign → List Sign} {ts : List (List Sign)} {rs : List Reading}

/-- When what is read weighs as much as what was written, there was no optional argument: one that is
closed is missing from its text, and one that runs on takes a text at the end with it. -/
theorem opened?_of_readOptions (hfront : ∀ t, weigh (front t).flatten ≤ weigh t.flatten)
    (h : readOptions command front none ts = some rs)
    (hweigh : (rs.map fun r => weigh r.content.flatten) = ts.map fun t => weigh t.flatten) :
    ∀ t ∈ ts, opened? (front t) = none ∧ weigh (front t).flatten = weigh t.flatten := by
  induction ts generalizing rs with
  | nil => simp
  | cons t ts ih =>
    rw [readOptions, Option.elim_none] at h
    split at h
    · rename_i hnone
      obtain ⟨others, hothers, rfl⟩ := Option.map_eq_some_iff.mp h
      obtain ⟨hfirst, hrest⟩ := List.cons.inj hweigh
      exact List.forall_mem_cons.mpr ⟨⟨hnone, hfirst⟩, ih hothers hrest⟩
    · rename_i w hopened
      split at h
      · have hfewer := length_le_of_readOptions h
        have hsame := congrArg List.length hweigh
        simp only [List.length_map, List.length_cons] at hsame
        omega
      · rename_i argument rest hbreak
        obtain ⟨others, -, rfl⟩ := Option.map_eq_some_iff.mp h
        have hfirst : weigh rest.flatten = weigh t.flatten := (List.cons.inj hweigh).1
        have hwritten : w = argument ++ [']'] :: rest := eq_append_of_breakOutside? hbreak
        have hbrackets : weigh ['['] = 1 ∧ weigh [']'] = 1 := by decide
        have hlighter := hfront t
        rw [eq_of_opened? hopened, hwritten] at hlighter
        simp only [List.flatten_cons, List.flatten_append, weigh_append] at hlighter
        omega

end Vitae.Latex
