import Vitae.Proofs.Calendar.Shown
import Vitae.Proofs.Latex.Calls
import Vitae.Proofs.Section.Trimmed

/-!
# What stands in an entry

The wordings that stand between the fields of an entry and the arguments of its command:
each shows something when one of the fields that it is made of does. An argument is
written when its value shows something (`command?_eq_none_iff`), an entry when one of its
arguments is (`entry_eq_nil_iff`), and a section when something stands in it
(`wrap_eq_nil_iff`). Names of programs leave each other out, but some name is always left
(`foldl_addName`), and no name gets lost when names are grouped (`groupsShow_add_iff`).
-/

namespace Vitae.Section

open Text Latex Calendar

/-! ### Arguments, entries and sections -/

theorem escapeChar_ne_nil (c : Char) : escapeChar c ≠ [] := by
  intro hnil
  have hfilled := filled_escapeChar c .brace (by decide)
  rw [hnil] at hfilled
  exact absurd hfilled (by decide)

theorem escape?_ne_empty_iff {value : Option String} : escape? value ≠ "" ↔ Shows value := by
  cases value with
  | none => simp [escape?]
  | some s =>
    have hescape : escape s = "" ↔ singleLine s = "" := by
      rw [escape, singleLine, ofList_eq_empty_iff, ofList_eq_empty_iff, escapeChars, List.flatMap_eq_nil_iff]
      refine ⟨fun h => List.eq_nil_iff_forall_not_mem.mpr fun c hc => escapeChar_ne_nil c (h c hc), ?_⟩
      rintro h
      simp [h]
    rw [escape?, ne_eq, hescape, shows_some, ← singleLine_ne_empty_iff]

/-- An argument is written when its value shows something. -/
theorem keyed?_ne_none_iff {key : String} {value : Option String} : keyed? key value ≠ none ↔ Shows value := by
  rw [← escape?_ne_empty_iff, keyed?]
  split <;> simp_all

/-- Arguments are in use when one of their values shows something. -/
theorem isUsed_iff {args : Candidates} : args.isUsed = true ↔ ∃ arg ∈ args, Shows arg.2 := by
  have hentries : args.entries = [] ↔ ∀ arg ∈ args, ¬ Shows arg.2 := by
    rw [Candidates.entries, List.filterMap_eq_nil_iff]
    exact forall₂_congr fun _ _ => not_ne_iff.symm.trans (not_congr keyed?_ne_none_iff)
  rw [Candidates.isUsed, Bool.not_eq_true', List.isEmpty_eq_false_iff, ne_eq, hentries]
  simp

theorem shown_of_mem_entries {args : Candidates} {t : String} (h : t ∈ args.entries) : Shown t := by
  obtain ⟨arg, -, harg⟩ := List.mem_filterMap.mp h
  rw [keyed?] at harg
  split at harg
  · cases harg
  · obtain rfl := Option.some.inj harg
    have hsign : Shown "=" := shown_of_mem (c := '=') (by decide) (by decide)
    exact shown_append.mpr (.inl (shown_append.mpr (.inr hsign)))

/-- A command is written when its arguments are in use. -/
theorem command?_eq_none_iff_not_isUsed {args : Candidates} (name : String) :
    args.command? name = none ↔ ¬ args.isUsed = true := by
  have hall : args.entries.filter (· ≠ "") = args.entries :=
    List.filter_eq_self.mpr fun t ht => decide_eq_true (shown_of_mem_entries ht).ne_empty
  rw [Candidates.command?, Latex.command?, Candidates.text, joinArguments, hall, Candidates.isUsed]
  cases hentries : args.entries with
  | nil => simp
  | cons t ts =>
    have hshown : ∀ u ∈ t :: ts, Shown u := fun u hu => shown_of_mem_entries (hentries ▸ hu)
    have hne : ", ".intercalate (t :: ts) ≠ "" := ((shown_intercalate hshown).mpr (List.cons_ne_nil t ts)).ne_empty
    simp [hne]

/-- A command is written unless none of its arguments shows something. -/
theorem command?_eq_none_iff {args : Candidates} (name : String) :
    args.command? name = none ↔ ¬ ∃ arg ∈ args, Shows arg.2 := by
  rw [command?_eq_none_iff_not_isUsed, isUsed_iff]

theorem entry_eq_nil_iff {args : Candidates} {name : String} {points : Block} :
    entry name args points = [] ↔ ¬ ∃ arg ∈ args, Shows arg.2 := by
  rw [← command?_eq_none_iff name, entry]
  cases args.command? name <;> simp

@[simp] theorem wrap_eq_nil_iff {comment environment title : String} {body : Block} :
    wrap comment environment title body = [] ↔ body = [] := by
  rw [wrap]
  split
  · simp [*]
  · simp [*]

/-! ### Values of arguments -/

theorem shown_titleWithUrl_iff {title url : Option String} :
    Shown (titleWithUrl title url) ↔ Shows title ∨ LinkShows url := by
  rw [titleWithUrl]
  by_cases hlink : stripScheme? url = ""
  · have hnot : ¬ LinkShows url := fun h => stripScheme?_ne_empty_iff.mpr h hlink
    rw [if_pos hlink, shown_singleLine?_iff]
    simp [hnot]
  · rw [if_neg hlink]
    refine iff_of_true ?_ (.inr (stripScheme?_ne_empty_iff.mp hlink))
    exact shown_trim.mpr (shown_append.mpr (.inr (shown_of_mem (c := ')') (by decide) (by decide))))

theorem shows_labelled_iff {label : String} {value : Option String} :
    Shows (labelled label value) ↔ Shows value :=
  shows_ite_isVisible_iff fun hshows => shown_append.mpr (.inr (shown_trim_getD_iff.mpr hshows))

theorem shows_gradeOf_iff {s : Study} : Shows (gradeOf s) ↔ Shows s.gpa :=
  shows_ite_isVisible_iff fun hshows => shown_append.mpr (.inl (shown_singleLine?_iff.mpr hshows))

theorem shown_courseList_iff {courses : List String} :
    Shown (courseList courses) ↔ ∃ course ∈ courses, Shown course := by
  rw [courseList, shown_intercalate]
  · simp [isVisible_some_iff]
  · intro t ht
    obtain ⟨course, hcourse, rfl⟩ := List.mem_map.mp ht
    exact shown_singleLine.mpr (isVisible_some_iff.mp (List.mem_filter.mp hcourse).2)

theorem dateShows_firstShown_iff {values : List (Option DateValue)} :
    DateShows (firstShown values) ↔ ∃ value ∈ values, DateShows value := by
  induction values with
  | nil => simp [firstShown, DateShows]
  | cons value values ih =>
    rw [firstShown]
    by_cases hvalue : display? value = ""
    · have hnot : ¬ DateShows value := fun h => display?_ne_empty_iff.mpr h hvalue
      simp [hvalue, ih, hnot]
    · simp [hvalue, display?_ne_empty_iff.mp hvalue]

/-! ### Program names -/

theorem addName_ne_nil (name : String) (names : List String) : addName name names ≠ [] := by
  cases names with
  | nil => simp [addName]
  | cons other others =>
    rw [addName]
    split
    · simp
    · split
      · simp
      · simp

theorem mem_of_mem_addName {name t : String} {names : List String} (h : t ∈ addName name names) :
    t = name ∨ t ∈ names := by
  induction names with
  | nil => simpa [addName] using h
  | cons other others ih =>
    rw [addName] at h
    split at h
    · exact .inr h
    · split at h
      · rcases List.mem_cons.mp h with rfl | h
        · exact .inl rfl
        · exact .inr (List.mem_cons_of_mem other h)
      · rcases List.mem_cons.mp h with rfl | h
        · exact .inr List.mem_cons_self
        · exact (ih h).imp_right (List.mem_cons_of_mem other)

/-- Names are left out in favour of others, so some name is left. -/
theorem foldl_addName (names : List String) :
    ∀ acc, (names.foldl (fun acc name => addName name acc) acc = [] ↔ acc = [] ∧ names = []) ∧
      ∀ t ∈ names.foldl (fun acc name => addName name acc) acc, t ∈ acc ∨ t ∈ names := by
  induction names with
  | nil => intro acc; simp
  | cons name names ih =>
    intro acc
    obtain ⟨hnil, hmem⟩ := ih (addName name acc)
    rw [List.foldl_cons]
    refine ⟨?_, fun t ht => ?_⟩
    · rw [hnil]
      simp [addName_ne_nil]
    · rcases hmem t ht with h | h
      · rcases mem_of_mem_addName h with rfl | h
        · exact .inr List.mem_cons_self
        · exact .inl h
      · exact .inr (List.mem_cons_of_mem name h)

theorem shown_programName_iff {separator : String} {names : List (Option String)} :
    Shown (programName separator names) ↔ ∃ name ∈ names, Shows name := by
  have hdistinct := foldl_addName (names.filterMap trimmed?) []
  rw [← distinctNames_eq] at hdistinct
  obtain ⟨hnil, hmem⟩ := hdistinct
  rw [programName, shown_intercalate, ← filterMap_trimmed?_ne_nil_iff, ne_eq, hnil]
  · simp
  · intro t ht
    exact shown_of_mem_filterMap_trimmed? ((hmem t ht).resolve_left List.not_mem_nil)

/-! ### Groups -/

/-- Some name in the groups shows something. -/
def GroupsShow (groups : Groups) : Prop := ∃ group ∈ groups, ∃ name ∈ group.2, Shown name

theorem groupsShow_add_iff {label name : String} {groups : Groups} :
    GroupsShow (groups.add label name) ↔ GroupsShow groups ∨ Shown name := by
  induction groups with
  | nil => simp [GroupsShow, Groups.add]
  | cons group groups ih =>
    obtain ⟨l, names⟩ := group
    rw [Groups.add]
    by_cases hl : l = label
    · simp only [GroupsShow, if_pos hl, List.exists_mem_cons_iff, List.mem_append, List.mem_singleton,
        or_and_right, exists_or, exists_eq_left]
      exact or_right_comm
    · simp only [GroupsShow, if_neg hl, List.exists_mem_cons_iff] at ih ⊢
      rw [ih, or_assoc]

theorem groupsShow_foldl_iff {fallback : String} {items : List (Option String × Option String)} :
    ∀ groups : Groups, GroupsShow (items.foldl
        (fun groups item => groups.add (groupLabel fallback item.1) (trim (item.2.getD ""))) groups) ↔
      GroupsShow groups ∨ ∃ item ∈ items, Shows item.2 := by
  induction items with
  | nil => simp
  | cons item items ih =>
    intro groups
    rw [List.foldl_cons, ih, groupsShow_add_iff, shown_trim_getD_iff, List.exists_mem_cons_iff, or_assoc]

/-- Groups show something when one of the names that are grouped does. -/
theorem groupsShow_groupNames_iff {fallback : String} {items : List (Option String × Option String)} :
    GroupsShow (groupNames fallback items) ↔ ∃ item ∈ items, Shows item.2 := by
  rw [groupNames, groupsShow_foldl_iff]
  simp [GroupsShow, isVisible_iff]

/-- A group is left out when none of its names shows something. -/
theorem groupCall?_eq_none_iff {group : String × List String} :
    groupCall? group = none ↔ ∀ name ∈ group.2, ¬ Shown name := by
  have hall : ∀ t ∈ group.2.filter fun name => isVisible (some name), Shown t := fun t ht =>
    isVisible_some_iff.mp (List.mem_filter.mp ht).2
  have hnames : Shown (", ".intercalate (group.2.filter fun name => isVisible (some name))) ↔
      ∃ name ∈ group.2, Shown name := by
    rw [shown_intercalate hall]
    simp [isVisible_some_iff]
  have hshown : ", ".intercalate (group.2.filter fun name => isVisible (some name)) ≠ "" →
      Shown (", ".intercalate (group.2.filter fun name => isVisible (some name))) := fun hne =>
    (shown_intercalate hall).mpr fun hnil => hne (by rw [hnil]; rfl)
  have hnone : (∀ name ∈ group.2, ¬ Shown name) ↔
      ¬ Shown (", ".intercalate (group.2.filter fun name => isVisible (some name))) := by
    rw [hnames]
    simp
  rw [hnone, groupCall?]
  generalize ", ".intercalate (group.2.filter fun name => isVisible (some name)) = names at hshown
  by_cases hempty : names = ""
  · subst hempty
    simp [not_shown_empty]
  · rw [if_neg hempty, command?_eq_none_iff]
    simp [hshown hempty]

theorem groupLines_eq_nil_iff {calls : List String} : groupLines calls = [] ↔ calls = [] := by
  match calls with
  | [] => simp [groupLines]
  | [call] => simp [groupLines]
  | call :: call' :: calls => simp [groupLines]

/-- Groups have lines unless none of their names shows something. -/
theorem groupBlock_eq_nil_iff {groups : Groups} : groupBlock groups = [] ↔ ¬ GroupsShow groups := by
  rw [groupBlock, groupLines_eq_nil_iff, List.filterMap_eq_nil_iff]
  simp only [groupCall?_eq_none_iff, GroupsShow, not_exists, not_and]

end Vitae.Section
