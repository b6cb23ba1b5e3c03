import Vitae.Proofs.Text.Search

/-!
# Occurrences

A name begins in a text when the text, with whatever follows it, shows the whole name
from some place within the text on. `NowhereIn n cs` says that the name `n` cannot begin
in `cs`. Texts of this kind can be put together (`NowhereIn.append`), and an occurrence of
the name in a longer text stands behind them (`NowhereIn.eq_append`).
-/

namespace Vitae.Latex

/-- Neither of two texts begins with the other. -/
def Apart (n u : List Char) : Prop := ¬ n <+: u ∧ ¬ u <+: n

instance (n u : List Char) : Decidable (Apart n u) := inferInstanceAs (Decidable (_ ∧ _))

/-- A name begins nowhere in a text, whatever follows the text. -/
def NowhereIn (n cs : List Char) : Prop := ∀ u ∈ cs.tails, u ≠ [] → Apart n u

instance (n cs : List Char) : Decidable (NowhereIn n cs) := inferInstanceAs (Decidable (∀ _ ∈ _, _))

variable {n a b : List Char}

/-- What is apart from a name is so with more text behind it. -/
theorem Apart.append {u : List Char} (h : Apart n u) (b : List Char) : Apart n (u ++ b) := by
  constructor
  · intro hn
    rcases List.prefix_or_prefix_of_prefix hn (List.prefix_append u b) with hnu | hun
    · exact h.1 hnu
    · exact h.2 hun
  · intro hu
    exact h.2 ((List.prefix_append u b).trans hu)

/-- A name begins nowhere if what it begins with does not. -/
theorem NowhereIn.of_beginning {m : List Char} (h : NowhereIn m a) (hm : m <+: n) : NowhereIn n a := by
  intro u hu hne
  have hapart := h u hu hne
  constructor
  · intro hn
    exact hapart.1 (hm.trans hn)
  · intro hun
    exact (List.prefix_or_prefix_of_prefix hm hun).elim hapart.1 hapart.2

theorem nowhereIn_nil : NowhereIn n [] := by
  intro u hu hne
  exact absurd (List.suffix_nil.mp ((List.mem_tails u []).mp hu)) hne

theorem NowhereIn.append (ha : NowhereIn n a) (hb : NowhereIn n b) : NowhereIn n (a ++ b) := by
  intro u hu hne
  obtain ⟨x, hx⟩ := (List.mem_tails u _).mp hu
  rcases List.append_eq_append_iff.mp hx with ⟨z, ha', hz⟩ | ⟨z, -, hz⟩
  · cases z with
    | nil =>
      rw [List.nil_append] at hz
      exact hb u ((List.mem_tails u b).mpr ⟨[], hz⟩) hne
    | cons c z =>
      rw [hz]
      exact (ha _ ((List.mem_tails _ a).mpr ⟨x, ha'.symm⟩) (by simp)).append b
  · exact hb u ((List.mem_tails u b).mpr ⟨z, hz.symm⟩) hne

/-- An occurrence of the name stands behind a text in which it does not begin. -/
theorem NowhereIn.eq_append (h : NowhereIn n a) {x y : List Char} (hxy : a ++ b = x ++ (n ++ y)) :
    ∃ z, x = a ++ z ∧ b = z ++ (n ++ y) := by
  rcases List.append_eq_append_iff.mp hxy with ⟨z, hx, hb⟩ | ⟨u, ha, hu⟩
  · exact ⟨z, hx, hb⟩
  · by_cases hne : u = []
    · subst hne
      exact ⟨[], by simpa using ha.symm, by simpa using hu.symm⟩
    · have hapart := h u ((List.mem_tails u a).mpr ⟨x, ha.symm⟩) hne
      have hn : n <+: u ++ b := ⟨y, hu⟩
      rcases List.prefix_or_prefix_of_prefix hn (List.prefix_append u b) with hnu | hun
      · exact absurd hnu hapart.1
      · exact absurd hun hapart.2

/-- The search finds the name behind a text in which it does not begin. -/
theorem NowhereIn.breakAt?_eq (h : NowhereIn n a) (rest : List Char) :
    Text.breakAt? n (a ++ (n ++ rest)) = some (a, rest) := by
  obtain ⟨before, after, hfound, hle⟩ := Text.exists_breakAt? (List.append_assoc a n rest).symm
  have hsplit : a ++ (n ++ rest) = before ++ (n ++ after) := by
    rw [Text.eq_append_of_breakAt? hfound, List.append_assoc]
  obtain ⟨z, rfl, hz⟩ := h.eq_append hsplit
  have hnil : z = [] := by
    rw [List.length_append] at hle
    exact List.eq_nil_of_length_eq_zero (by omega)
  subst hnil
  rw [hfound, List.append_nil, List.append_cancel_left hz]

/-- The name of a command is apart from what does not begin with a backslash. -/
theorem apart_of_head? {u : List Char} (hn : n.head? = some '\\') (hu : u.head? ≠ some '\\')
    (hne : u ≠ []) : Apart n u := by
  obtain ⟨m, rfl⟩ := List.head?_eq_some_iff.mp hn
  obtain ⟨c, u, rfl⟩ := List.exists_cons_of_ne_nil hne
  have hc : c ≠ '\\' := by simpa using hu
  constructor
  · intro hp
    exact hc (List.cons_prefix_cons.mp hp).1.symm
  · intro hp
    exact hc (List.cons_prefix_cons.mp hp).1

/-- The name of a command begins nowhere in a text without backslashes. -/
theorem nowhereIn_of_no_backslash (hn : n.head? = some '\\') (ha : '\\' ∉ a) : NowhereIn n a := by
  intro u hu hne
  refine apart_of_head? hn (fun hhead => ?_) hne
  obtain ⟨v, rfl⟩ := List.head?_eq_some_iff.mp hhead
  exact ha (((List.mem_tails _ a).mp hu).subset List.mem_cons_self)

end Vitae.Latex
