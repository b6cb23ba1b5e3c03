import Vitae.Proofs.Resume.Association
import Vitae.Proofs.Section.Entries
import Vitae.Proofs.Section.Shown
import Vitae.Proofs.Section.Trimmed

/-!
# Reading projects back

The lines of a description that show something are shown in two places: the first of them is
the highlight of the project, and the others are its bullets, with one more bullet behind
them for its technologies. What both places show are single lines, which are escaped as the
lines themselves (`descriptionLines_eq`, `escape_singleLine`), and the technologies are
escaped one by one (`escape_technologies`). So projects are read as they are given, and a
description that is given as one text is shown as the list of its lines is
(`projects_readable`).
-/

namespace Vitae.Section

open Text Latex Calendar

/-- A project as it is read: of the lines of its description that show something, the first is its
highlight, and the others are its first bullets. -/
def shownProject (p : Project) : ShownEntry :=
  let lines := (p.description.filter fun l => isVisible (some l)).map escape
  let technologies := (p.technologies.filter fun t => isVisible (some t)).map escape
  { arguments :=
      shownArguments [("title", some (titleWithUrl p.name p.url)), ("duration", some (range p.startDate p.endDate false))] ++
        (lines.take 1).map ("keyHighlight", ·)
    items := listOf? (lines.drop 1 ++
      if technologies = [] then [] else ["Technologies used: " ++ ", ".intercalate technologies]) }

theorem shownArguments_append (a b : Candidates) : shownArguments (a ++ b) = shownArguments a ++ shownArguments b := by
  rw [shownArguments, List.filter_append, List.map_append]
  rfl

/-! ### The description -/

theorem escape_singleLine (s : String) : escape (singleLine s) = escape s := by
  rw [escape, escape, toList_singleLine, singleLineChars_singleLineChars]

theorem descriptionLines_eq (p : Project) :
    descriptionLines p = (p.description.filter fun l => isVisible (some l)).map singleLine := by
  rw [descriptionLines, List.filter_map]
  refine congrArg _ (List.filter_congr fun l _ => ?_)
  rw [Bool.eq_iff_iff, isVisible_some_iff, ← singleLine_ne_empty_iff]
  simp

theorem map_escape_descriptionLines (p : Project) :
    (descriptionLines p).map escape = (p.description.filter fun l => isVisible (some l)).map escape := by
  rw [descriptionLines_eq, List.map_map]
  exact List.map_congr_left fun l _ => escape_singleLine l

theorem shown_of_mem_descriptionLines {p : Project} {l : String} (h : l ∈ descriptionLines p) : Shown l := by
  rw [descriptionLines_eq] at h
  obtain ⟨l, hl, rfl⟩ := List.mem_map.mp h
  exact shown_singleLine.mpr (isVisible_some_iff.mp (List.mem_filter.mp hl).2)

/-! ### The technologies -/

theorem map_escape_technologiesOf (p : Project) :
    (technologiesOf p).map escape = (p.technologies.filter fun t => isVisible (some t)).map escape := by
  rw [technologiesOf, List.map_map]
  exact List.map_congr_left fun t _ => escape_trim t

/-- The technologies are escaped one by one. -/
theorem escape_technologies {p : Project} (h : technologiesOf p ≠ []) :
    escape ("Technologies used: " ++ ", ".intercalate (technologiesOf p)) =
      "Technologies used: " ++ ", ".intercalate ((technologiesOf p).map escape) := by
  have hsolid : ∀ t ∈ technologiesOf p, Solid t.toList := by
    refine List.forall_mem_map.mpr fun t ht => ?_
    exact solid_trim (isVisible_some_iff.mp (List.mem_filter.mp ht).2)
  have hlabel : Solid "Technologies used:".toList :=
    ⟨⟨'T', "echnologies used:".toList, by decide, by decide⟩, "Technologies used".toList, ':', by decide, by decide⟩
  have hspace : "Technologies used: " = "Technologies used:" ++ " " := by decide
  have hfixed : escape "Technologies used:" = "Technologies used:" := by decide
  rw [hspace, escape_append_of_solid hlabel (solid_intercalate h hsolid) (by decide), hfixed,
    escape_intercalate (by decide) hsolid]

/-! ### Projects -/

/-- All bullets of a project show something. -/
theorem shown_of_mem_projectPoints {p : Project} {t : String} (h : t ∈ projectPoints p) : Shown t := by
  rcases List.mem_append.mp h with hline | hlast
  · exact shown_of_mem_descriptionLines (List.mem_of_mem_drop hline)
  · have hlabel : Shown "Technologies used: " := by decide
    split at hlast
    · cases hlast
    · rw [List.mem_singleton.mp hlast]
      exact shown_append.mpr (.inl hlabel)

theorem map_escape_projectPoints (p : Project) :
    (projectPoints p).map escape =
      ((descriptionLines p).map escape).drop 1 ++
        if (technologiesOf p).map escape = [] then []
        else ["Technologies used: " ++ ", ".intercalate ((technologiesOf p).map escape)] := by
  simp only [projectPoints, List.map_append, List.map_drop, List.map_eq_nil_iff]
  split
  · rfl
  · rename_i h
    rw [List.map_singleton, escape_technologies h]

theorem shownEntry_project (p : Project) :
    shownEntry (projectArgs p) ((projectPoints p).map some) = shownProject p := by
  have hall : ((projectPoints p).map some).filter isVisible = (projectPoints p).map some := by
    refine List.filter_eq_self.mpr (List.forall_mem_map.mpr fun t ht => ?_)
    exact isVisible_some_iff.mpr (shown_of_mem_projectPoints ht)
  have hitems : (((projectPoints p).map some).filter isVisible).map escape? = (projectPoints p).map escape := by
    rw [hall, List.map_map]
    rfl
  have hhighlight : shownArguments [("keyHighlight", (descriptionLines p).head?)] =
      (((descriptionLines p).map escape).take 1).map ("keyHighlight", ·) := by
    cases hlines : descriptionLines p with
    | nil => rfl
    | cons l ls =>
      have hl : isVisible (some l) = true :=
        isVisible_some_iff.mpr (shown_of_mem_descriptionLines (hlines ▸ List.mem_cons_self))
      simp [shownArguments, hl, escape?]
  have hargs : projectArgs p = [("title", some (titleWithUrl p.name p.url)),
      ("duration", some (range p.startDate p.endDate false))] ++ [("keyHighlight", (descriptionLines p).head?)] := rfl
  rw [shownEntry, hargs, shownArguments_append, hhighlight, hitems, map_escape_projectPoints,
    map_escape_descriptionLines, map_escape_technologiesOf]
  rfl

/-! ### Descriptions in records -/

/-- A project in a record, whose description may be given in two shapes. -/
structure Draft where
  /-- What is given in front of the description. -/
  before : List (Datum × Datum)
  /-- The description. -/
  description : String
  /-- What is given behind it. -/
  after : List (Datum × Datum)

namespace Draft

/-- The description as one text, or as the list of its lines. -/
def shape (d : Draft) (asText : Bool) : Datum :=
  if asText then .text d.description else .ofLines (lines d.description)

/-- The fields of the project with its description in one of the shapes. -/
def fields (d : Draft) (asText : Bool) : List (Datum × Datum) :=
  d.before ++ (.text "description", d.shape asText) :: d.after

variable (d : Draft) (asText : Bool)

theorem get?_fields (name : String) :
    (Fields.ofPairs (d.fields asText)).get? name =
      ((Fields.get? (.ofPairs d.after) name).or (if "description" = name then some (d.shape asText) else none)).or
        (Fields.get? (.ofPairs d.before) name) := by
  have hname : nameOf (.text "description", d.shape asText) = "description" := by
    change snakeCase "description" = "description"
    decide
  rw [fields, Fields.get?_ofPairs_append, Fields.get?_ofPairs_cons, hname]

/-- The other fields do not depend on the shape of the description. -/
theorem get?_fields_of_ne {name : String} (hname : name ≠ "description") :
    (Fields.ofPairs (d.fields asText)).get? name = (Fields.ofPairs (d.fields true)).get? name := by
  rw [get?_fields, get?_fields, if_neg hname.symm, if_neg hname.symm]

/-- The lines of the description that show something do not depend on its shape, either. -/
theorem filter_toLines_shape :
    (d.shape asText).toLines.filter (fun l => isVisible (some l)) =
      (d.shape true).toLines.filter fun l => isVisible (some l) := by
  cases asText with
  | true => rfl
  | false =>
    have hlist : (d.shape false).toLines = lines d.description := Datum.toLines_ofLines _
    have htext : (d.shape true).toLines = (lines d.description).filter fun l => isVisible (some l) := by
      refine List.filter_congr fun l _ => ?_
      rw [Bool.eq_iff_iff]
      simp [isVisible]
    rw [hlist, htext, List.filter_filter]
    simp

end Draft

/-- A project is shown by those lines of its description that show something. -/
theorem projectBlock_congr {p : Project} {ls : List String}
    (h : ls.filter (fun l => isVisible (some l)) = p.description.filter fun l => isVisible (some l)) :
    projectArgs { p with description := ls } = projectArgs p ∧
      projectPoints { p with description := ls } = projectPoints p := by
  have hlines : descriptionLines { p with description := ls } = descriptionLines p := by
    rw [descriptionLines_eq, descriptionLines_eq, h]
  exact ⟨by rw [projectArgs, hlines, projectArgs], by rw [projectPoints, hlines, projectPoints]; rfl⟩

theorem ofFields_fields (d : Draft) (asText : Bool) :
    (Entry.ofFields (.ofPairs (d.fields asText)) : Project) =
      { (Entry.ofFields (.ofPairs (d.fields true)) : Project) with
        description := (Fields.ofPairs (d.fields asText)).lines "description" } := by
  have hother : ∀ name, name ≠ "description" →
      (Fields.ofPairs (d.fields asText)).get? name = (Fields.ofPairs (d.fields true)).get? name :=
    fun _ hname => d.get?_fields_of_ne asText hname
  simp [Entry.ofFields, Fields.text, Fields.date, Fields.lines, hother]

theorem filter_lines_fields (d : Draft) (asText : Bool) :
    ((Fields.ofPairs (d.fields asText)).lines "description").filter (fun l => isVisible (some l)) =
      ((Fields.ofPairs (d.fields true)).lines "description").filter fun l => isVisible (some l) := by
  rw [Fields.lines, Fields.lines, d.get?_fields, d.get?_fields, if_pos rfl, if_pos rfl]
  cases Fields.get? (.ofPairs d.after) "description" with
  | none => exact d.filter_toLines_shape asText
  | some value => rfl

/-- Projects are read as those of them that show a title, a date or a line of a description. They are shown
alike whether a description is given as one text or as the list of its lines. -/
theorem projects_readable :
    (∀ entries, readSection projectItem (projects entries) =
      some ((entries.filter fun p => isVisible (some (titleWithUrl p.name p.url)) ||
        isVisible (some (range p.startDate p.endDate false)) ||
        p.description.any fun l => isVisible (some l)).map shownProject)) ∧
    ∀ drafts : List (Draft × Bool),
      projects (Entry.ofList Project (.list (drafts.map fun d => .map (d.1.fields d.2)))) =
        projects (Entry.ofList Project (.list (drafts.map fun d => .map (d.1.fields true)))) := by
  constructor
  · intro entries
    have hcommand : projectItem ∈ entryCommands := by decide
    have hkeys : ∀ key ∈ ["title", "duration", "keyHighlight"], IsKey key := by decide
    simp only [List.forall_mem_cons] at hkeys
    have hargs : ∀ p, ∀ arg ∈ projectArgs p, IsKey arg.1 := fun p => by simpa [projectArgs] using hkeys
    have hheadline : ∀ p : Project, isVisible (descriptionLines p).head? = p.description.any fun l => isVisible (some l) := by
      intro p
      rw [Bool.eq_iff_iff, isVisible_iff, shows_headline_iff]
      simp [isVisible_some_iff]
    refine (readSection_entries hcommand hargs (by decide) (tidy_projects entries)).trans ?_
    simp only [shownEntry_project]
    simp [projectArgs, hheadline, Bool.or_assoc]
  · intro drafts
    have hitems : ∀ asText : Draft × Bool → Bool,
        Entry.ofList Project (.list (drafts.map fun d => .map (d.1.fields (asText d)))) =
          drafts.map fun d => Entry.ofFields (.ofPairs (d.1.fields (asText d))) := by
      intro asText
      rw [Entry.ofList, Datum.items?, Option.getD_some, List.filterMap_map]
      exact congrFun List.filterMap_eq_map drafts
    rw [hitems Prod.snd, hitems fun _ => true, projects, projects, List.flatMap_map, List.flatMap_map]
    refine congrArg (projectSection _ _) (congrArg (drafts.flatMap ·) (funext fun d => ?_))
    have hlines : ((Fields.ofPairs (d.1.fields d.2)).lines "description").filter (fun l => isVisible (some l)) =
        (Entry.ofFields (.ofPairs (d.1.fields true)) : Project).description.filter fun l => isVisible (some l) :=
      filter_lines_fields d.1 d.2
    obtain ⟨hargs, hpoints⟩ := projectBlock_congr hlines
    rw [ofFields_fields, hargs, hpoints]

end Vitae.Section
