import Mathlib.Data.List.Nodup
import Vitae.Proofs.Section.Entries
import Vitae.Proofs.Text.Capital

/-!
# Groups of names

Names are put into groups one after the other: a name comes behind those with its label, or
opens a new group behind all others (`mem_add`). So the groups stay a partition of the names
by their labels that keeps their order (`StablePartition.add`), and so they are when all
names have been put into them (`StablePartition.foldl`).

Which name stands under which label is said by `Labelled`. Every group is shown, because its
names and its label show something: a category does not lose what it shows when its first
character becomes a capital. So a section of groups is read as its groups, each with its
label and its names, and with a line break unless it is the last (`names_partitioned`).
-/

namespace Vitae.Section

open Text Latex

/-! ### Partitions -/

/-- The names in groups, each under the label of its group. -/
def Groups.entries (groups : Groups) : List (String × String) := groups.flatMap fun g => g.2.map (g.1, ·)

/-- Groups are a partition of names by their labels that keeps the order of the names. -/
structure StablePartition (items : List (String × String)) (groups : Groups) : Prop where
  /-- No label stands twice. -/
  distinct : (groups.map Prod.fst).Nodup
  /-- The labels stand in the order in which they come up first. -/
  ordered : (groups.map Prod.fst).Pairwise fun l l' => (items.map Prod.fst).idxOf l < (items.map Prod.fst).idxOf l'
  /-- A group holds the names with its label, in their order. -/
  own : ∀ g ∈ groups, g.2 = (items.filter fun item => item.1 = g.1).map Prod.snd
  /-- No group is empty. -/
  filled : ∀ g ∈ groups, g.2 ≠ []
  /-- Each name stands once in a group, under its label. -/
  once : groups.entries.Perm items

variable {items : List (String × String)} {groups : Groups} {label name : String}

/-- A group after one more name: an old one with another label, the old one with this label and the
name behind the others, or a new one with this label. -/
theorem mem_add (hdistinct : (groups.map Prod.fst).Nodup) {g : String × List String} (hg : g ∈ groups.add label name) :
    (g ∈ groups ∧ g.1 ≠ label) ∨ (∃ names, (label, names) ∈ groups ∧ g = (label, names ++ [name])) ∨
      (label ∉ groups.map Prod.fst ∧ g = (label, [name])) := by
  induction groups with
  | nil => exact .inr (.inr ⟨List.not_mem_nil, List.mem_singleton.mp hg⟩)
  | cons head groups ih =>
    obtain ⟨l, names⟩ := head
    obtain ⟨hl, hrest⟩ := List.nodup_cons.mp hdistinct
    rw [Groups.add] at hg
    split at hg
    · rename_i heq
      subst heq
      rcases List.mem_cons.mp hg with rfl | hg
      · exact .inr (.inl ⟨names, List.mem_cons_self, rfl⟩)
      · refine .inl ⟨List.mem_cons_of_mem _ hg, fun hlabel => hl ?_⟩
        exact List.mem_map.mpr ⟨g, hg, hlabel⟩
    · rename_i hne
      rcases List.mem_cons.mp hg with rfl | hg
      · exact .inl ⟨List.mem_cons_self, hne⟩
      · rcases ih hrest hg with ⟨hold, hother⟩ | ⟨names', hold, heq⟩ | ⟨hnew, heq⟩
        · exact .inl ⟨List.mem_cons_of_mem _ hold, hother⟩
        · exact .inr (.inl ⟨names', List.mem_cons_of_mem _ hold, heq⟩)
        · exact .inr (.inr ⟨fun hmem => (List.mem_cons.mp hmem).elim (Ne.symm hne) hnew, heq⟩)

/-- A label that is new comes last. -/
theorem map_fst_add (groups : Groups) (label name : String) :
    (groups.add label name).map Prod.fst =
      if label ∈ groups.map Prod.fst then groups.map Prod.fst else groups.map Prod.fst ++ [label] := by
  induction groups with
  | nil => rfl
  | cons head groups ih =>
    obtain ⟨l, names⟩ := head
    rw [Groups.add]
    by_cases hl : l = label
    · simp [hl]
    · rw [if_neg hl, List.map_cons, ih]
      by_cases hmem : label ∈ groups.map Prod.fst
      · simp [hmem]
      · simp [hmem, Ne.symm hl]

/-- One more name stands in the groups, and the others stay. -/
theorem entries_add (groups : Groups) (label name : String) :
    (groups.add label name).entries.Perm (groups.entries ++ [(label, name)]) := by
  induction groups with
  | nil => exact .refl _
  | cons head groups ih =>
    obtain ⟨l, names⟩ := head
    rw [Groups.add]
    split
    · rename_i heq
      subst heq
      simp only [Groups.entries, List.flatMap_cons, List.map_append, List.append_assoc]
      exact .append_left _ List.perm_append_comm
    · simp only [Groups.entries, List.flatMap_cons, List.append_assoc] at ih ⊢
      exact .append_left _ ih

/-- The labels of groups are those of the names. -/
theorem StablePartition.mem_labels_iff (h : StablePartition items groups) :
    label ∈ groups.map Prod.fst ↔ label ∈ items.map Prod.fst := by
  rw [← (h.once.map Prod.fst).mem_iff]
  simp only [Groups.entries, List.mem_map, List.mem_flatMap]
  constructor
  · rintro ⟨g, hg, rfl⟩
    obtain ⟨name, hname⟩ := List.exists_mem_of_ne_nil g.2 (h.filled g hg)
    exact ⟨(g.1, name), ⟨g, hg, name, hname, rfl⟩, rfl⟩
  · rintro ⟨item, ⟨g, hg, name, -, rfl⟩, rfl⟩
    exact ⟨g, hg, rfl⟩

/-- **One more name.** A partition stays one when a name is put into the group with its label. -/
theorem StablePartition.add (h : StablePartition items groups) (label name : String) :
    StablePartition (items ++ [(label, name)]) (groups.add label name) where
  distinct := by
    rw [map_fst_add]
    split
    · exact h.distinct
    · rename_i hnew
      exact h.distinct.append (List.nodup_singleton label) (List.disjoint_singleton.mpr hnew)
  ordered := by
    have hold : ∀ l ∈ groups.map Prod.fst,
        ((items ++ [(label, name)]).map Prod.fst).idxOf l = (items.map Prod.fst).idxOf l := by
      intro l hl
      rw [List.map_append, List.idxOf_append_of_mem (h.mem_labels_iff.mp hl)]
    have hordered : (groups.map Prod.fst).Pairwise fun l l' =>
        ((items ++ [(label, name)]).map Prod.fst).idxOf l < ((items ++ [(label, name)]).map Prod.fst).idxOf l' :=
      h.ordered.imp_of_mem fun hl hl' hlt => by rwa [hold _ hl, hold _ hl']
    rw [map_fst_add]
    split
    · exact hordered
    · rename_i hnew
      refine List.pairwise_append.mpr ⟨hordered, List.pairwise_singleton _ _, fun l hl l' hl' => ?_⟩
      rw [List.mem_singleton.mp hl', hold l hl, List.map_append,
        List.idxOf_append_of_notMem fun hmem => hnew (h.mem_labels_iff.mpr hmem)]
      exact Nat.lt_add_right _ (List.idxOf_lt_length_iff.mpr (h.mem_labels_iff.mp hl))
  own := by
    intro g hg
    rw [List.filter_append, List.map_append]
    rcases mem_add h.distinct hg with ⟨hold, hother⟩ | ⟨names, hold, rfl⟩ | ⟨hnew, rfl⟩
    · simp [← h.own g hold, Ne.symm hother]
    · simp [← h.own _ hold]
    · have hnone : items.filter (fun item => item.1 = label) = [] := by
        refine List.filter_eq_nil_iff.mpr fun item hitem hlabel => hnew (h.mem_labels_iff.mpr ?_)
        exact List.mem_map.mpr ⟨item, hitem, by simpa using hlabel⟩
      simp [hnone]
  filled := by
    intro g hg
    rcases mem_add h.distinct hg with ⟨hold, -⟩ | ⟨names, -, rfl⟩ | ⟨-, rfl⟩
    · exact h.filled g hold
    · exact List.append_ne_nil_of_right_ne_nil names (List.cons_ne_nil name [])
    · exact List.cons_ne_nil name []
  once := (entries_add groups label name).trans (h.once.append_right _)

/-- Names that are put into groups one after the other. -/
theorem StablePartition.foldl (h : StablePartition items groups) (more : List (String × String)) :
    StablePartition (items ++ more) (more.foldl (fun groups item => groups.add item.1 item.2) groups) := by
  induction more generalizing items groups with
  | nil => rwa [List.append_nil]
  | cons item more ih =>
    have hnext := ih (h.add item.1 item.2)
    rwa [List.append_assoc, List.singleton_append] at hnext

theorem stablePartition_nil : StablePartition [] [] where
  distinct := List.nodup_nil
  ordered := .nil
  own _ hg := absurd hg List.not_mem_nil
  filled _ hg := absurd hg List.not_mem_nil
  once := .refl []

/-! ### Labels -/

/-- The names among items that show something, trimmed, each with its label; an item is a category with a
name. -/
inductive Labelled (fallback : String) : List (Option String × Option String) → List (String × String) → Prop where
  /-- Nothing comes from nothing. -/
  | nil : Labelled fallback [] []
  /-- A name with a category stands under the category, trimmed, its first character in upper case. -/
  | category {category name : String} {items : List (Option String × Option String)} {named : List (String × String)}
      (hcategory : Shown category) (hname : Shown name) (h : Labelled fallback items named) :
    Labelled fallback ((some category, some name) :: items) ((capitalize (trim category), trim name) :: named)
  /-- A name without a category stands under the label for such names. -/
  | general {category : Option String} {name : String} {items : List (Option String × Option String)}
      {named : List (String × String)} (hcategory : ¬ Shows category) (hname : Shown name)
      (h : Labelled fallback items named) :
    Labelled fallback ((category, some name) :: items) ((fallback, trim name) :: named)
  /-- An item without a name is left out. -/
  | unnamed {category name : Option String} {items : List (Option String × Option String)}
      {named : List (String × String)} (hname : ¬ Shows name) (h : Labelled fallback items named) :
    Labelled fallback ((category, name) :: items) named

/-- The names among items that show something, with their labels. -/
def namesByLabel (fallback : String) (items : List (Option String × Option String)) : List (String × String) :=
  (items.filter fun item => isVisible item.2).map fun item => (groupLabel fallback item.1, trim (item.2.getD ""))

theorem labelled_namesByLabel (fallback : String) (items : List (Option String × Option String)) :
    Labelled fallback items (namesByLabel fallback items) := by
  induction items with
  | nil => exact .nil
  | cons item items ih =>
    obtain ⟨category, name⟩ := item
    by_cases hname : Shows name
    · obtain ⟨n, rfl, hn⟩ := hname
      have hcons : namesByLabel fallback ((category, some n) :: items) =
          (groupLabel fallback category, trim n) :: namesByLabel fallback items := by
        simp [namesByLabel, isVisible_some_iff.mpr hn]
      rw [hcons]
      by_cases hcategory : Shows category
      · obtain ⟨c, rfl, hc⟩ := hcategory
        rw [groupLabel, if_pos (isVisible_some_iff.mpr hc)]
        exact .category hc hn ih
      · rw [groupLabel, if_neg fun hvisible => hcategory (isVisible_iff.mp hvisible)]
        exact .general hcategory hn ih
    · have hcons : namesByLabel fallback ((category, name) :: items) = namesByLabel fallback items := by
        simp [namesByLabel, mt isVisible_iff.mp hname]
      rw [hcons]
      exact .unnamed hname ih

/-- Labels and names show something. -/
theorem Labelled.shown {fallback : String} (hfallback : Shown fallback) {items : List (Option String × Option String)}
    {named : List (String × String)} (h : Labelled fallback items named) :
    ∀ item ∈ named, Shown item.1 ∧ Shown item.2 := by
  induction h with
  | nil => exact List.forall_mem_nil _
  | category hcategory hname _ ih =>
    exact List.forall_mem_cons.mpr ⟨⟨shown_capitalize (shown_trim.mpr hcategory), shown_trim.mpr hname⟩, ih⟩
  | general _ hname _ ih => exact List.forall_mem_cons.mpr ⟨⟨hfallback, shown_trim.mpr hname⟩, ih⟩
  | unnamed _ _ ih => exact ih

/-- The groups of items are a partition of their names. -/
theorem stablePartition_groupNames (fallback : String) (items : List (Option String × Option String)) :
    StablePartition (namesByLabel fallback items) (groupNames fallback items) := by
  have hpartition := stablePartition_nil.foldl (namesByLabel fallback items)
  rw [List.nil_append, namesByLabel, List.foldl_map] at hpartition
  exact hpartition

/-! ### The reader -/

/-- A group as it is read. -/
structure ShownGroup where
  /-- The arguments of its command, with their keys. -/
  arguments : List (String × String)
  /-- Whether a line break stands behind the command. -/
  breaks : Bool
  deriving DecidableEq

/-- The line break behind a group. -/
def groupBreak : String := " \\\\"

/-- The group that a line shows: the command of a group at its front, with its arguments, and a line break
behind it or nothing. -/
def groupOf? (l : String) : Option ShownGroup :=
  (front? l).bind fun p =>
    if p.1 = skillItem then
      match signs p.2 with
      | ['['] :: ss =>
        (breakOutside? [']'] 0 ss).bind fun parts =>
          if parts.2.flatten = [] ∨ parts.2.flatten = groupBreak.toList then
            (readArguments (String.ofList parts.1.flatten)).map fun arguments => ⟨arguments, parts.2 ≠ []⟩
          else none
      | _ => none
    else none

/-- Whether the command of a group stands anywhere in a line. -/
def namesGroup (l : String) : Bool := occursIn "\\skillItem".toList l.toList

/-- The groups of a section: every line in which the command of a group stands must show one. -/
def readGroups (b : Block) : Option (List ShownGroup) := (b.filter namesGroup).mapM groupOf?

/-- A group as it is shown, by its label and its names. -/
def shownGroup (g : String × List String) (breaks : Bool) : ShownGroup where
  arguments := [("category", escape g.1), ("skills", escape (", ".intercalate g.2))]
  breaks := breaks

/-- Groups as they are shown, with a line break behind each but the last. -/
def shownGroups : Groups → List ShownGroup
  | [] => []
  | [g] => [shownGroup g false]
  | g :: g' :: groups => shownGroup g true :: shownGroups (g' :: groups)

/-! ### Reading groups -/

/-- The arguments of a group. -/
def groupArgs (g : String × List String) : Candidates :=
  [("category", some g.1), ("skills", some (", ".intercalate g.2))]

/-- A group that shows something: its label and all of its names do, and it has names. -/
structure GroupShows (g : String × List String) : Prop where
  /-- The label shows something. -/
  label : Shown g.1
  /-- There are names. -/
  filled : g.2 ≠ []
  /-- All of them show something. -/
  names : ∀ name ∈ g.2, Shown name

theorem GroupShows.joined {g : String × List String} (h : GroupShows g) : Shown (", ".intercalate g.2) :=
  (shown_intercalate h.names).mpr h.filled

theorem GroupShows.exists_call {g : String × List String} (h : GroupShows g) :
    ∃ call, groupCall? g = some call ∧ (groupArgs g).command? skillItem = some call := by
  have hall : g.2.filter (fun name => isVisible (some name)) = g.2 :=
    List.filter_eq_self.mpr fun name hname => isVisible_some_iff.mpr (h.names name hname)
  have hsome : (groupArgs g).command? skillItem ≠ none := by
    rw [ne_eq, command?_eq_none_iff, not_not]
    exact ⟨("category", some g.1), List.mem_cons_self, shows_some.mpr h.label⟩
  obtain ⟨call, hcall⟩ := Option.ne_none_iff_exists'.mp hsome
  refine ⟨call, ?_, hcall⟩
  simp only [groupCall?, hall, if_neg h.joined.ne_empty]
  exact hcall

theorem isKey_of_mem_groupArgs (g : String × List String) : ∀ p ∈ groupArgs g, IsKey p.1 := by
  have hpair : ∀ key ∈ ["category", "skills"], IsKey key := by decide
  simpa [groupArgs] using hpair

/-- Both arguments of such a group are shown. -/
theorem GroupShows.shown_groupArgs {g : String × List String} (h : GroupShows g) (breaks : Bool) :
    (groupArgs g).shown = (shownGroup g breaks).arguments := by
  simp [Candidates.shown_eq, groupArgs, shownGroup, isVisible_some_iff.mpr h.label, isVisible_some_iff.mpr h.joined,
    escape?]

/-- The line of a group, with a line break behind its command or without, is read as the group. -/
theorem GroupShows.groupOf?_line {g : String × List String} (h : GroupShows g) {call : String}
    (hcall : (groupArgs g).command? skillItem = some call) {t : String} (ht : t ∈ ["", groupBreak]) :
    groupOf? (entryIndent ++ call ++ t) = some (shownGroup g (t ≠ "")) := by
  have hkeys := isKey_of_mem_groupArgs g
  have hindent : entryIndent.toList.all (· = ' ') := by decide
  have hline : (entryIndent ++ call ++ t).toList =
      entryIndent.toList ++ '\\' :: (skillItem.toList ++ '[' :: ((groupArgs g).text.toList ++ (']' :: t.toList))) := by
    rw [String.toList_append, String.toList_append, toList_of_command? hcall]
    simp
  have hfront := front?_of_toList hindent (by decide) (by decide) hline
  have hwhole := Candidates.whole_text hkeys
  have hshown := h.shown_groupArgs (t ≠ "")
  have htail : (signs t.toList).flatten = [] ∨ (signs t.toList).flatten = groupBreak.toList := by
    rw [flatten_signs]
    rcases List.mem_pair.mp ht with rfl | rfl
    · exact .inl rfl
    · exact .inr rfl
  have hbreaks : signs t.toList ≠ [] ↔ t ≠ "" := by
    rcases List.mem_pair.mp ht with rfl | rfl
    · decide
    · decide
  rw [groupOf?, hfront]
  simp only [Option.bind_some, if_pos, signs_bracketed hwhole, breakOutside?_of_whole hwhole]
  rw [if_pos htail]
  simp only [flatten_signs, String.ofList_toList, Candidates.readArguments_text hkeys, hshown, Option.map_some, hbreaks,
    shownGroup]

/-- In the line of a group its command stands. -/
theorem namesGroup_line {args : Candidates} {call : String} (hcall : args.command? skillItem = some call) (t : String) :
    namesGroup (entryIndent ++ call ++ t) = true := by
  rw [namesGroup, occursIn_iff, String.toList_append, String.toList_append, toList_of_command? hcall]
  exact ⟨entryIndent.toList, '[' :: (args.text.toList ++ [']']) ++ t.toList, by simp [skillItem]⟩

theorem readGroups_cons {l : String} (hl : namesGroup l = true) {g : ShownGroup}
    (hg : groupOf? l = some g) (b : Block) : readGroups (l :: b) = (readGroups b).map (g :: ·) := by
  rw [readGroups, List.filter_cons_of_pos hl, List.mapM_cons, hg, readGroups]
  cases (b.filter namesGroup).mapM groupOf? <;> rfl

/-- The lines of groups are read as the groups. -/
theorem readGroups_groupBlock (h : ∀ g ∈ groups, GroupShows g) :
    readGroups (groupBlock groups) = some (shownGroups groups) := by
  induction groups with
  | nil => rfl
  | cons g groups ih =>
    obtain ⟨hg, hgroups⟩ := List.forall_mem_cons.mp h
    obtain ⟨call, hcall?, hcall⟩ := hg.exists_call
    cases groups with
    | nil =>
      have hline := hg.groupOf?_line hcall (t := "") (by decide)
      have hcommand := namesGroup_line hcall ""
      rw [String.append_empty] at hline hcommand
      rw [groupBlock, List.filterMap_cons_some hcall?, List.filterMap_nil, groupLines, readGroups_cons hcommand hline]
      rfl
    | cons g' groups =>
      have hline := hg.groupOf?_line hcall (t := groupBreak) (by decide)
      obtain ⟨call', hcall'?, -⟩ := (hgroups g' List.mem_cons_self).exists_call
      have hlines : groupBlock (g :: g' :: groups) =
          (entryIndent ++ call ++ groupBreak) :: groupBlock (g' :: groups) := by
        rw [groupBlock, groupBlock, List.filterMap_cons_some hcall?, List.filterMap_cons_some hcall'?]
        rfl
      rw [hlines, readGroups_cons (namesGroup_line hcall groupBreak) hline, ih hgroups]
      rfl

/-- Whether the command of a group stands in none of the lines around a section. -/
def framesNoGroup (comment environment title : String) : Bool :=
  [comment, beginTitled environment (escape title), endEnvironment environment, ""].all (!namesGroup ·)

theorem readGroups_wrap {comment environment title : String} (h : framesNoGroup comment environment title = true)
    (body : Block) : readGroups (wrap comment environment title body) = readGroups body := by
  simp only [framesNoGroup, List.all_cons, List.all_nil, Bool.and_true, Bool.and_eq_true, Bool.not_eq_true'] at h
  obtain ⟨hcomment, hbegin, hend, hempty⟩ := h
  rw [wrap]
  split
  · rename_i hnil
    rw [hnil]
  · simp [readGroups, hcomment, hbegin, hend, hempty]

theorem GroupShows.of_partition {fallback : String} (hfallback : Shown fallback)
    {items : List (Option String × Option String)} {named : List (String × String)}
    (hnamed : Labelled fallback items named) (h : StablePartition named groups) : ∀ g ∈ groups, GroupShows g := by
  intro g hg
  have hshown := hnamed.shown hfallback
  have hmem : ∀ name ∈ g.2, (g.1, name) ∈ named := fun name hname =>
    h.once.subset (List.mem_flatMap.mpr ⟨g, hg, List.mem_map.mpr ⟨name, hname, rfl⟩⟩)
  obtain ⟨name, hname⟩ := List.exists_mem_of_ne_nil g.2 (h.filled g hg)
  exact ⟨(hshown _ (hmem name hname)).1, h.filled g hg, fun name hname => (hshown _ (hmem name hname)).2⟩

/-- A section of groups is read as the groups of its names. -/
theorem readGroups_section {fallback : String} (hfallback : Shown fallback) {comment title : String}
    (h : framesNoGroup comment skillsSection title = true) (items : List (Option String × Option String)) :
    readGroups (wrap comment skillsSection title (groupBlock (groupNames fallback items))) =
      some (shownGroups (groupNames fallback items)) := by
  rw [readGroups_wrap h]
  exact readGroups_groupBlock (.of_partition hfallback (labelled_namesByLabel fallback items)
    (stablePartition_groupNames fallback items))

theorem readGroups_skills (entries : List Skill) :
    readGroups (skills entries) = some (shownGroups (skillGroups entries)) := by
  have hgeneral : Shown "General" := by decide
  exact readGroups_section hgeneral (by decide) _

theorem readGroups_languages (entries : List Language) :
    readGroups (languages entries) = some (shownGroups (languageGroups entries)) := by
  have hlanguages : Shown "Languages" := by decide
  exact readGroups_section hlanguages (by decide) _

end Vitae.Section
