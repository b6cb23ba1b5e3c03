import Mathlib.Data.List.Pairwise
import Vitae.Proofs.Section.Wording
import Vitae.Proofs.Text.Search

/-!
# Names that are part of others

Of several names for a program, those that are part of another one are to be left out. One more
name does one of three things to the names that are held (`Added`): it is left out, or takes
the place of a name that is part of it, or comes last. So no name that is held is part of a
later one (`descending_distinctNames`), and every name is part of one that is held
(`exists_of_mem_names`).

A name takes one place only. Where it covers two of the names held, the second one stays
behind it (`Spares`). That is the only way in which a name that is left can be part of another
one, and leaving names out once more removes the names that stayed (`distinctNames_distinct_iff`).
-/

namespace Vitae.Section

open Text

/-- No name is part of a later one. -/
def Descending (names : List String) : Prop := names.Pairwise fun a b => ¬ isCoveredBy a b

/-- No name is part of another one. -/
def Distinct (names : List String) : Prop := names.Pairwise fun a b => ¬ isCoveredBy a b ∧ ¬ isCoveredBy b a

instance (names : List String) : Decidable (Distinct names) := inferInstanceAs (Decidable (names.Pairwise _))

theorem isCoveredBy_iff {a b : String} : isCoveredBy a b = true ↔ lowerChars a.toList <:+: lowerChars b.toList :=
  occursIn_iff

theorem isCoveredBy_self (a : String) : isCoveredBy a a = true := isCoveredBy_iff.mpr List.infix_rfl

theorem isCoveredBy_trans {a b c : String} (hab : isCoveredBy a b = true) (hbc : isCoveredBy b c = true) :
    isCoveredBy a c = true :=
  isCoveredBy_iff.mpr ((isCoveredBy_iff.mp hab).trans (isCoveredBy_iff.mp hbc))

/-! ### One more name -/

/-- What the names held become with one more name. -/
inductive Added (name : String) : List String → List String → Prop where
  /-- The name is part of one that is held, and is left out. -/
  | leftOut {held : List String} {k : String} (hk : k ∈ held) (hname : isCoveredBy name k = true) :
      Added name held held
  /-- It is part of none, and takes the place of the first that is part of it. -/
  | instead (before : List String) {after : List String} {other : String} (hbefore : ∀ k ∈ before, ¬ isCoveredBy k name)
      (hother : isCoveredBy other name = true) (hname : ∀ k ∈ before ++ other :: after, ¬ isCoveredBy name k) :
      Added name (before ++ other :: after) (before ++ name :: after)
  /-- It is part of none, none is part of it, and it comes last. -/
  | last {held : List String} (hheld : ∀ k ∈ held, ¬ isCoveredBy k name) (hname : ∀ k ∈ held, ¬ isCoveredBy name k) :
      Added name held (held ++ [name])

variable {name : String} {held held' : List String}

theorem added_addName (h : Descending held) (name : String) : Added name held (addName name held) := by
  induction held with
  | nil => exact .last (by simp) (by simp)
  | cons other others ih =>
    obtain ⟨hlater, hothers⟩ := List.pairwise_cons.mp h
    rw [addName]
    split
    · rename_i hname
      exact .leftOut List.mem_cons_self hname
    · rename_i hname
      split
      · rename_i hother
        refine .instead [] (by simp) hother (List.forall_mem_cons.mpr ⟨hname, fun k hk hcovered => ?_⟩)
        exact hlater k hk (isCoveredBy_trans hother hcovered)
      · rename_i hother
        have hrest := ih hothers
        generalize addName name others = others' at hrest
        cases hrest with
        | leftOut hk hcovered => exact .leftOut (List.mem_cons_of_mem other hk) hcovered
        | instead before hbefore hcovered hnone =>
          exact .instead (other :: before) (List.forall_mem_cons.mpr ⟨hother, hbefore⟩) hcovered
            (List.forall_mem_cons.mpr ⟨hname, hnone⟩)
        | last hnone hnone' =>
          exact .last (List.forall_mem_cons.mpr ⟨hother, hnone⟩) (List.forall_mem_cons.mpr ⟨hname, hnone'⟩)

/-- A relation between each name and the later ones is kept if the new name stands in it to those around its
place. -/
theorem Added.pairwise {R : String → String → Prop} (h : Added name held held') (hheld : held.Pairwise R)
    (hfront : ∀ k ∈ held, ¬ isCoveredBy k name → ¬ isCoveredBy name k → R k name)
    (hbehind : ∀ before other after, held = before ++ other :: after → isCoveredBy other name = true →
      ∀ k ∈ after, ¬ isCoveredBy name k → R name k) : held'.Pairwise R := by
  cases h with
  | leftOut => exact hheld
  | @instead before after other hbefore hother hname =>
    obtain ⟨hfirst, hsecond, hcross⟩ := List.pairwise_append.mp hheld
    obtain ⟨-, hafter⟩ := List.pairwise_cons.mp hsecond
    refine List.pairwise_append.mpr ⟨hfirst, List.pairwise_cons.mpr ⟨fun k hk => ?_, hafter⟩, fun k hk => ?_⟩
    · exact hbehind _ _ _ rfl hother k hk (hname k (by simp [hk]))
    · refine List.forall_mem_cons.mpr ⟨?_, fun l hl => hcross k hk l (List.mem_cons_of_mem other hl)⟩
      exact hfront k (by simp [hk]) (hbefore k hk) (hname k (by simp [hk]))
  | last hnone hname =>
    refine List.pairwise_append.mpr ⟨hheld, List.pairwise_singleton _ _, fun k hk => ?_⟩
    exact List.forall_mem_singleton.mpr (hfront k hk (hnone k hk) (hname k hk))

theorem Added.descending (h : Added name held held') (hheld : Descending held) : Descending held' :=
  h.pairwise hheld (fun _ _ hk _ => hk) fun _ _ _ _ _ _ _ hk => hk

/-- The new name, and what was part of a name held, is part of one that is held now. -/
theorem Added.covers (h : Added name held held') : ∀ k ∈ name :: held, ∃ k' ∈ held', isCoveredBy k k' = true := by
  cases h with
  | leftOut hk hname => exact List.forall_mem_cons.mpr ⟨⟨_, hk, hname⟩, fun k hk => ⟨k, hk, isCoveredBy_self k⟩⟩
  | @instead before after other hbefore hother hname =>
    have hnew : name ∈ before ++ name :: after := by simp
    refine List.forall_mem_cons.mpr ⟨⟨name, hnew, isCoveredBy_self name⟩, fun k hk => ?_⟩
    rcases List.mem_append.mp hk with hk | hk
    · exact ⟨k, by simp [hk], isCoveredBy_self k⟩
    · rcases List.mem_cons.mp hk with rfl | hk
      · exact ⟨name, hnew, hother⟩
      · exact ⟨k, by simp [hk], isCoveredBy_self k⟩
  | last => exact fun k hk => ⟨k, by simpa [or_comm] using hk, isCoveredBy_self k⟩

theorem length_addName_le (name : String) (held : List String) : (addName name held).length ≤ held.length + 1 := by
  induction held with
  | nil => simp [addName]
  | cons other others ih =>
    rw [addName]
    split
    · simp
    · split
      · simp
      · simpa using ih

/-! ### All names -/

/-- The last of the names is the last that is added. -/
theorem distinctNames_concat (names : List (Option String)) (value : Option String) :
    distinctNames (names ++ [value]) =
      match trimmed? value with
      | none => distinctNames names
      | some name => addName name (distinctNames names) := by
  simp only [distinctNames_eq, List.filterMap_append, List.foldl_append]
  cases h : trimmed? value with
  | none => simp [h]
  | some name => simp [h]

/-- No name that is left is part of a later one. -/
theorem descending_distinctNames (names : List (Option String)) : Descending (distinctNames names) := by
  induction names using List.reverseRecOn with
  | nil => exact List.Pairwise.nil
  | append_singleton names value ih =>
    rw [distinctNames_concat]
    split
    · exact ih
    · exact (added_addName ih _).descending ih

/-- Every name is part of one that is left. -/
theorem exists_of_mem_names (names : List (Option String)) :
    ∀ name ∈ names.filterMap trimmed?, ∃ k ∈ distinctNames names, isCoveredBy name k = true := by
  induction names using List.reverseRecOn with
  | nil => simp
  | append_singleton names value ih =>
    rw [distinctNames_concat, List.filterMap_append]
    cases h : trimmed? value with
    | none => simpa [h] using ih
    | some name =>
      have hcovers := (added_addName (descending_distinctNames names) name).covers
      intro t ht
      rcases List.mem_append.mp ht with ht | ht
      · obtain ⟨k, hk, htk⟩ := ih t ht
        obtain ⟨k', hk', hkk'⟩ := hcovers k (List.mem_cons_of_mem name hk)
        exact ⟨k', hk', isCoveredBy_trans htk hkk'⟩
      · obtain rfl : t = name := by simpa [h] using ht
        exact hcovers t List.mem_cons_self

/-- The names that are left are among the names. -/
theorem mem_names_of_mem_distinctNames {names : List (Option String)} {k : String} (h : k ∈ distinctNames names) :
    k ∈ names.filterMap trimmed? := by
  rw [distinctNames_eq] at h
  exact ((foldl_addName (names.filterMap trimmed?) []).2 k h).resolve_left List.not_mem_nil

theorem length_distinctNames_le (names : List (Option String)) :
    (distinctNames names).length ≤ (names.filterMap trimmed?).length := by
  induction names using List.reverseRecOn with
  | nil => exact Nat.le_refl 0
  | append_singleton names value ih =>
    rw [distinctNames_concat, List.filterMap_append, List.length_append]
    cases h : trimmed? value with
    | none => exact Nat.le_add_right_of_le ih
    | some name =>
      have hadded := length_addName_le name (distinctNames names)
      simp [h]
      omega

/-! ### Names that stay -/

/-- When `a` came, it took the place of a name that is part of it, and `b`, which is part of it as well, stood
behind that name. -/
def Spares (names : List (Option String)) (a b : String) : Prop :=
  ∃ before value after, names = before ++ value :: after ∧ trimmed? value = some a ∧
    ∃ front other rest, distinctNames before = front ++ other :: rest ∧ isCoveredBy other a = true ∧
      b ∈ rest ∧ isCoveredBy b a = true

theorem Spares.concat {names : List (Option String)} {a b : String} (h : Spares names a b) (value : Option String) :
    Spares (names ++ [value]) a b := by
  obtain ⟨before, value', after, rfl, hheld⟩ := h
  exact ⟨before, value', after ++ [value], by simp, hheld⟩

/-- A name that is left and part of an earlier one stayed when that one came. -/
theorem pairwise_spares (names : List (Option String)) :
    (distinctNames names).Pairwise fun a b => isCoveredBy b a = true → Spares names a b := by
  induction names using List.reverseRecOn with
  | nil => exact List.Pairwise.nil
  | append_singleton names value ih =>
    have hold : (distinctNames names).Pairwise fun a b => isCoveredBy b a = true → Spares (names ++ [value]) a b :=
      ih.imp fun hstays hcovered => (hstays hcovered).concat value
    rw [distinctNames_concat]
    cases h : trimmed? value with
    | none => exact hold
    | some name =>
      refine (added_addName (descending_distinctNames names) name).pairwise hold (fun k _ _ hk hcovered => ?_) ?_
      · exact absurd hcovered hk
      · intro front other rest hheld hother k hk _ hcovered
        exact ⟨names, value, [], rfl, h, front, other, rest, hheld, hother, hk, hcovered⟩

/-- A name that stayed is another one than the name that it is part of. -/
theorem Spares.ne {names : List (Option String)} {a b : String} (h : Spares names a b) : a ≠ b := by
  rintro rfl
  obtain ⟨before, -, -, -, -, front, other, rest, hheld, hother, hmem, -⟩ := h
  have hdescending := descending_distinctNames before
  rw [Descending, hheld, List.pairwise_append] at hdescending
  exact (List.pairwise_cons.mp hdescending.2.1).1 a hmem hother

/-- Of the names that are left none is part of another one exactly when none of them stayed when another of
them came. -/
theorem distinct_distinctNames_iff (names : List (Option String)) :
    Distinct (distinctNames names) ↔
      ∀ a ∈ distinctNames names, ∀ b ∈ distinctNames names, ¬ Spares names a b := by
  constructor
  · intro hdistinct a ha b hb hspares
    have hsymm : Std.Symm fun a b : String => ¬ isCoveredBy a b ∧ ¬ isCoveredBy b a := ⟨fun _ _ h => h.symm⟩
    have hapart := hdistinct.forall ha hb hspares.ne
    obtain ⟨-, -, -, -, -, -, -, -, -, -, -, hcovered⟩ := hspares
    exact hapart.2 hcovered
  · intro hnone
    have hstays := pairwise_spares names
    refine ((descending_distinctNames names).and hstays).imp_of_mem ?_
    rintro a b ha hb ⟨hlater, hspares⟩
    exact ⟨hlater, fun hcovered => hnone a ha b hb (hspares hcovered)⟩

/-! ### Leaving names out once more -/

section

variable {names : List String}

theorem addName_of_none (hheld : ∀ k ∈ held, ¬ isCoveredBy k name) (hname : ∀ k ∈ held, ¬ isCoveredBy name k) :
    addName name held = held ++ [name] := by
  induction held with
  | nil => rfl
  | cons other others ih =>
    obtain ⟨hother, hothers⟩ := List.forall_mem_cons.mp hheld
    obtain ⟨hother', hothers'⟩ := List.forall_mem_cons.mp hname
    rw [addName, if_neg hother', if_neg hother, ih hothers hothers', List.cons_append]

theorem addName_of_exists (hheld : ∀ k ∈ held, ¬ isCoveredBy k name) (hname : ∃ k ∈ held, isCoveredBy name k = true) :
    addName name held = held := by
  induction held with
  | nil => simp at hname
  | cons other others ih =>
    obtain ⟨hother, hothers⟩ := List.forall_mem_cons.mp hheld
    by_cases hcovered : isCoveredBy name other = true
    · rw [addName, if_pos hcovered]
    · have hrest : ∃ k ∈ others, isCoveredBy name k = true := by simpa [hcovered] using hname
      rw [addName, if_neg hcovered, if_neg hother, ih hothers hrest]

/-- Names of which none is part of another one are all kept. -/
theorem foldl_addName_of_distinct (h : Distinct (held ++ names)) :
    names.foldl (fun acc name => addName name acc) held = held ++ names := by
  induction names generalizing held with
  | nil => simp
  | cons name names ih =>
    have hcross := (List.pairwise_append.mp h).2.2
    have hname : addName name held = held ++ [name] :=
      addName_of_none (fun k hk => (hcross k hk name List.mem_cons_self).1) fun k hk =>
        (hcross k hk name List.mem_cons_self).2
    rw [List.foldl_cons, hname, ih (by simpa using h), List.append_assoc, List.singleton_append]

/-- Of names of which none is part of a later one, those are left of which none is part of another one. -/
theorem distinct_foldl_addName (h : Descending (held ++ names)) (hheld : Distinct held) :
    Distinct (names.foldl (fun acc name => addName name acc) held) := by
  induction names generalizing held with
  | nil => exact hheld
  | cons name names ih =>
    obtain ⟨hfirst, hsecond, hcross⟩ := List.pairwise_append.mp h
    have hlater : ∀ k ∈ held, ¬ isCoveredBy k name := fun k hk => hcross k hk name List.mem_cons_self
    rw [List.foldl_cons]
    by_cases hname : ∃ k ∈ held, isCoveredBy name k = true
    · rw [addName_of_exists hlater hname]
      refine ih ?_ hheld
      exact h.sublist ((List.sublist_cons_self name names).append_left held)
    · have hnone : ∀ k ∈ held, ¬ isCoveredBy name k := fun k hk hcovered => hname ⟨k, hk, hcovered⟩
      rw [addName_of_none hlater hnone]
      refine ih (by simpa using h) (List.pairwise_append.mpr ⟨hheld, List.pairwise_singleton _ _, fun k hk => ?_⟩)
      exact List.forall_mem_singleton.mpr ⟨hlater k hk, hnone k hk⟩

end

/-- The names that are left are trimmed. -/
theorem trimmed?_of_mem_distinctNames {names : List (Option String)} {k : String} (h : k ∈ distinctNames names) :
    trimmed? (some k) = some k := by
  obtain ⟨value, -, hvalue⟩ := List.mem_filterMap.mp (mem_names_of_mem_distinctNames h)
  rw [← hvalue, trimmed?_trimmed?]

theorem distinctNames_distinctNames (names : List (Option String)) :
    distinctNames ((distinctNames names).map some) =
      (distinctNames names).foldl (fun acc name => addName name acc) [] := by
  have hsome : ∀ k ∈ distinctNames names, (trimmed? ∘ some) k = some k := by
    intro k hk
    rw [Function.comp_apply]
    exact trimmed?_of_mem_distinctNames hk
  have htrimmed : ((distinctNames names).map some).filterMap trimmed? = distinctNames names := by
    rw [List.filterMap_map, List.filterMap_congr hsome, List.filterMap_some]
  rw [distinctNames_eq, htrimmed]

/-! ### What is left -/

/-- **Names that are part of others.** Every name is part of one that is left, and no name that is left is part
of a later one. None is part of another one exactly when none of them stayed when another of them came, which
is so when there are no more than two names, and exactly when leaving names out once more changes nothing;
after a second time it never does. -/
theorem distinctNames_distinct_iff (names : List (Option String)) :
    (∀ name ∈ names.filterMap trimmed?, ∃ k ∈ distinctNames names, isCoveredBy name k = true) ∧
    Descending (distinctNames names) ∧
    (Distinct (distinctNames names) ↔
      ∀ a ∈ distinctNames names, ∀ b ∈ distinctNames names, ¬ Spares names a b) ∧
    ((names.filterMap trimmed?).length ≤ 2 → Distinct (distinctNames names)) ∧
    (Distinct (distinctNames names) ↔ distinctNames ((distinctNames names).map some) = distinctNames names) ∧
    Distinct (distinctNames ((distinctNames names).map some)) := by
  have hdescending := descending_distinctNames names
  have hagain : Distinct (distinctNames ((distinctNames names).map some)) := by
    rw [distinctNames_distinctNames]
    exact distinct_foldl_addName hdescending List.Pairwise.nil
  refine ⟨exists_of_mem_names names, hdescending, distinct_distinctNames_iff names, fun hfew => ?_, ⟨?_, ?_⟩, hagain⟩
  · refine (distinct_distinctNames_iff names).mpr ?_
    rintro a - b - ⟨before, value, after, rfl, hvalue, front, other, rest, hheld, -, hb, -⟩
    have hlength := length_distinctNames_le before
    have hrest : 0 < rest.length := List.length_pos_of_mem hb
    simp only [hheld, List.filterMap_append, List.length_append, List.length_cons,
      List.filterMap_cons_some hvalue] at hlength hfew
    omega
  · intro hdistinct
    rw [distinctNames_distinctNames, foldl_addName_of_distinct hdistinct, List.nil_append]
  · intro hsame
    rwa [hsame] at hagain

/-- A subject, another one, and both together. -/
def bothSubjects : List (Option String) := [some "CS", some "Math", some "Math CS"]

theorem distinctNames_distinct_iff_bothSubjects :
    ("CS" ∈ bothSubjects.filterMap trimmed? ∧ ∃ k ∈ distinctNames bothSubjects, isCoveredBy "CS" k = true) ∧
    (∃ a ∈ distinctNames bothSubjects, ∃ b ∈ distinctNames bothSubjects, Spares bothSubjects a b) ∧
    ((bothSubjects.drop 1).filterMap trimmed?).length ≤ 2 ∧ Distinct (distinctNames (bothSubjects.drop 1)) := by
  obtain ⟨hcovers, -, hspares, -⟩ := distinctNames_distinct_iff bothSubjects
  obtain ⟨-, -, -, hfew, -⟩ := distinctNames_distinct_iff (bothSubjects.drop 1)
  have hsubject : "CS" ∈ bothSubjects.filterMap trimmed? := by decide
  have htwo : ((bothSubjects.drop 1).filterMap trimmed?).length ≤ 2 := by decide
  have hnot : ¬ Distinct (distinctNames bothSubjects) := by decide
  have hstayed : ∃ a ∈ distinctNames bothSubjects, ∃ b ∈ distinctNames bothSubjects, Spares bothSubjects a b := by
    simpa only [hspares, not_forall, not_not, exists_prop] using hnot
  exact ⟨⟨hsubject, hcovers "CS" hsubject⟩, hstayed, htwo, hfew htwo⟩

/-- The last name takes the place of the first one only, and the second one stays. -/
theorem distinctNames_bothSubjects :
    distinctNames bothSubjects = ["Math CS", "Math"] ∧ ¬ Distinct (distinctNames bothSubjects) ∧
      distinctNames ((distinctNames bothSubjects).map some) ≠ distinctNames bothSubjects := by
  decide

end Vitae.Section
