import Vitae.Proofs.Section.Grouping

/-!
# Categories that look alike

Names are put into one group when their labels are equal. A label is printed with one space for each run of
blanks and with two hyphens for each long dash, so labels that differ can look alike. The categories of a section
are read from its groups (`categories`): each label is printed once, and two of them look alike exactly when two
labels have the same plain form (`categories_distinct_iff`).
-/

namespace Vitae.Section

open Text Latex

/-- The categories of a section of groups, one for each group that has one. -/
def categories (b : Block) : Option (List String) :=
  (readGroups b).map (·.filterMap (·.arguments.lookup "category"))

variable {items : List (String × String)} {groups : Groups}

/-- What is shown of groups are their labels, escaped. -/
theorem filterMap_lookup_shownGroups (groups : Groups) :
    (shownGroups groups).filterMap (·.arguments.lookup "category") = (groups.map Prod.fst).map escape := by
  induction groups with
  | nil => rfl
  | cons g groups ih =>
    cases groups with
    | nil => rfl
    | cons g' groups => exact congrArg (escape g.1 :: ·) ih

/-- The labels of a partition are distinct as they are printed when no two labels that differ have the same
plain form. -/
theorem StablePartition.nodup_escape_iff (h : StablePartition items groups) :
    ((groups.map Prod.fst).map escape).Nodup ↔
      ∀ p ∈ items, ∀ q ∈ items, plainForm p.1 = plainForm q.1 → p.1 = q.1 := by
  have hlabel : ∀ p ∈ items, p.1 ∈ groups.map Prod.fst := fun p hp =>
    h.mem_labels_iff.mpr (List.mem_map_of_mem hp)
  rw [List.nodup_map_iff_inj_on h.distinct]
  constructor
  · intro hinj p hp q hq hplain
    exact hinj _ (hlabel p hp) _ (hlabel q hq) (escape_eq_iff.mpr hplain)
  · intro hinj l hl l' hl' hescape
    obtain ⟨p, hp, rfl⟩ := List.mem_map.mp (h.mem_labels_iff.mp hl)
    obtain ⟨q, hq, rfl⟩ := List.mem_map.mp (h.mem_labels_iff.mp hl')
    exact hinj p hp q hq (escape_eq_iff.mp hescape)

/-- The categories of a section of groups are the labels of its names, and they are distinct when no two of these
labels that differ have the same plain form. -/
theorem exists_categories {b : Block} {fallback : String} {items : List (Option String × Option String)}
    (h : readGroups b = some (shownGroups (groupNames fallback items))) :
    ∃ named cs, Labelled fallback items named ∧ categories b = some cs ∧
      (∀ c, c ∈ cs ↔ ∃ p ∈ named, escape p.1 = c) ∧
      (cs.Nodup ↔ ∀ p ∈ named, ∀ q ∈ named, plainForm p.1 = plainForm q.1 → p.1 = q.1) := by
  have hpartition := stablePartition_groupNames fallback items
  refine ⟨_, ((groupNames fallback items).map Prod.fst).map escape, labelled_namesByLabel fallback items, ?_, ?_,
    hpartition.nodup_escape_iff⟩
  · rw [categories, h, Option.map_some, filterMap_lookup_shownGroups]
  · intro c
    simp only [List.mem_map (f := escape), hpartition.mem_labels_iff]
    simp

/-- **A category is shown once unless it is spelled in two ways.** The categories in the section of skills, and
in that of languages, are the labels of the names as they are printed. No category stands there twice exactly
when any two labels that look alike, with one space for each run of blanks and two hyphens for each long dash, are
the same text. -/
theorem categories_distinct_iff (known : List Skill) (spoken : List Language) :
    (∃ named cs, Labelled "General" (known.map fun s => (s.category, s.name)) named ∧
      categories (skills known) = some cs ∧ (∀ c, c ∈ cs ↔ ∃ p ∈ named, escape p.1 = c) ∧
      (cs.Nodup ↔ ∀ p ∈ named, ∀ q ∈ named, plainForm p.1 = plainForm q.1 → p.1 = q.1)) ∧
    ∃ named cs, Labelled "Languages" (spoken.map fun l => (l.proficiency, l.name)) named ∧
      categories (languages spoken) = some cs ∧ (∀ c, c ∈ cs ↔ ∃ p ∈ named, escape p.1 = c) ∧
      (cs.Nodup ↔ ∀ p ∈ named, ∀ q ∈ named, plainForm p.1 = plainForm q.1 → p.1 = q.1) := by
  constructor
  · exact exists_categories (readGroups_skills known)
  · exact exists_categories (readGroups_languages spoken)

/-- Two skills whose categories differ in the number of blanks within them. -/
def spacedSkills : List Skill :=
  [{ name := some "Python", category := some "Back end" }, { name := some "Go", category := some "Back  end" }]

/-- The category of these skills is shown twice. -/
theorem categories_spacedSkills :
    categories (skills spacedSkills) = some ["Back end", "Back end"] ∧ ¬ ["Back end", "Back end"].Nodup := by
  decide

end Vitae.Section
