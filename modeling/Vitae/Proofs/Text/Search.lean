import Mathlib.Data.List.Infix
import Vitae.Text.Search

/-!
# The first occurrence

Where a text occurs in another one, the search finds an occurrence, and none stands in
front of the one that it finds.
-/

namespace Vitae.Text

theorem dropPrefix?_append (n rest : List Char) : dropPrefix? n (n ++ rest) = some rest := by
  induction n with
  | nil => rfl
  | cons c n ih => simpa [dropPrefix?] using ih

theorem breakAt?_of_not_infix {needle cs : List Char} (h : ¬ needle <:+: cs) : breakAt? needle cs = none := by
  cases hfound : breakAt? needle cs with
  | none => rfl
  | some p => exact absurd ⟨p.1, p.2, (eq_append_of_breakAt? hfound).symm⟩ h

/-- The search finds an occurrence no later than any other one. -/
theorem exists_breakAt? {needle cs b rest : List Char} (h : cs = b ++ needle ++ rest) :
    ∃ before after, breakAt? needle cs = some (before, after) ∧ before.length ≤ b.length := by
  induction b generalizing cs with
  | nil =>
    rw [h, List.nil_append]
    cases hcs : needle ++ rest with
    | nil =>
      have hneedle : needle = [] := (List.append_eq_nil_iff.mp hcs).1
      exact ⟨[], [], by rw [hneedle]; rfl, Nat.le_refl 0⟩
    | cons c cs =>
      exact ⟨[], rest, by rw [breakAt?, ← hcs, dropPrefix?_append], Nat.le_refl 0⟩
  | cons c b ih =>
    rw [List.cons_append, List.cons_append] at h
    rw [h, breakAt?]
    cases hfront : dropPrefix? needle (c :: (b ++ needle ++ rest)) with
    | some after => exact ⟨[], after, rfl, Nat.zero_le _⟩
    | none =>
      obtain ⟨before, after, hfound, hle⟩ := ih rfl
      refine ⟨c :: before, after, ?_, Nat.succ_le_succ hle⟩
      show Option.map _ (breakAt? needle (b ++ needle ++ rest)) = _
      rw [hfound]
      rfl

theorem occursIn_iff {needle cs : List Char} : occursIn needle cs = true ↔ needle <:+: cs := by
  rw [occursIn, Option.isSome_iff_exists]
  constructor
  · rintro ⟨p, hp⟩
    exact ⟨p.1, p.2, (eq_append_of_breakAt? hp).symm⟩
  · rintro ⟨b, rest, h⟩
    obtain ⟨before, after, hfound, -⟩ := exists_breakAt? h.symm
    exact ⟨_, hfound⟩

end Vitae.Text
