import Vitae.Layout
import Vitae.Proofs.Latex.Calls
import Vitae.Proofs.Resume.Trimmed

/-!
# The sections of the standard layout do not see outer blanks

Each section of the standard layout is the same for its entries and for their trimmed
forms. An argument is judged by its escaped form, which does not tell a value from its
trimmed form (`escape?_trimmed?`), and so is a bullet (`bullets_congr`).
-/

namespace Vitae.Section

open Text Latex Calendar

/-! ### Values -/

@[simp] theorem escape_trim (s : String) : escape (trim s) = escape s := by
  rw [escape, escape, toList_trim, singleLineChars_trimChars]

@[simp] theorem escape?_trimmed? (value : Option String) : escape? (trimmed? value) = escape? value :=
  apply_trimmed? (f := escape?) escape_trim (by decide) value

@[simp] theorem titleWithUrl_trimmed? (title url : Option String) :
    titleWithUrl (trimmed? title) (trimmed? url) = titleWithUrl title url := by
  rw [titleWithUrl, titleWithUrl, singleLine?_trimmed?, stripScheme?_trimmed?]

@[simp] theorem labelled_trimmed? (label : String) (value : Option String) :
    labelled label (trimmed? value) = labelled label value := by
  rw [labelled, labelled, isVisible_trimmed?, trim_getD_trimmed?]

/-! ### Entries -/

/-- Candidates with their values escaped. -/
def escaped (args : Candidates) : List (String × String) := args.map fun p => (p.1, escape? p.2)

theorem command?_congr {args args' : Candidates} (h : escaped args = escaped args') (name : String) :
    args.command? name = args'.command? name := by
  rw [Candidates.command?, Candidates.command?, Candidates.text_eq, Candidates.text_eq]
  exact congrArg (fun pairs => Latex.command? name (argumentText (pairs.filter fun p => p.2 ≠ ""))) h

theorem entry_congr {name : String} {args args' : Candidates} {points points' : Block}
    (hargs : escaped args = escaped args') (hpoints : points = points') :
    entry name args points = entry name args' points' := by
  rw [entry, command?_congr hargs, hpoints, entry]

/-- The texts of a bullet list that show something, escaped. -/
def bulletTexts (texts : List (Option String)) : List String := (texts.map escape?).filter (· ≠ "")

theorem bullets_congr {gap : Option String} {texts texts' : List (Option String)}
    (h : bulletTexts texts = bulletTexts texts') : bullets gap texts = bullets gap texts' := by
  rw [bulletTexts, bulletTexts] at h
  rw [bullets, h, bullets]

theorem bulletTexts_append (a b : List (Option String)) :
    bulletTexts (a ++ b) = bulletTexts a ++ bulletTexts b := by
  rw [bulletTexts, List.map_append, List.filter_append, bulletTexts, bulletTexts]

theorem bulletTexts_singleton {value value' : Option String} (h : escape? value = escape? value') :
    bulletTexts [value] = bulletTexts [value'] := by
  rw [bulletTexts, List.map_singleton, h, bulletTexts, List.map_singleton]

theorem bulletTexts_trimmedLines (texts : List String) :
    bulletTexts ((trimmedLines texts).map some) = bulletTexts (texts.map some) := by
  rw [bulletTexts, bulletTexts, List.map_map, List.map_map]
  exact filter_map_trimmedLines escape_trim (by decide) texts

/-- What is missing makes no bullet. -/
theorem bulletTexts_filterMap_id (parts : List (Option String)) :
    bulletTexts ((parts.filterMap id).map some) = bulletTexts parts := by
  induction parts with
  | nil => rfl
  | cons part parts ih =>
    rw [bulletTexts, bulletTexts] at ih ⊢
    cases part with
    | none => rw [List.filterMap_cons_none rfl, ih, List.map_cons, List.filter_cons_of_neg (by decide)]
    | some s =>
      rw [List.filterMap_cons_some (f := id) (b := s) rfl, List.map_cons, List.map_cons, List.filter_cons, ih,
        List.map_cons, List.filter_cons]

/-- A section shows each entry as it shows its trimmed form. -/
theorem flatMap_trimmed {α : Type} [Entry α] {f : α → Block} (h : ∀ e, f (Entry.trimmed e) = f e)
    (entries : List α) : (entries.map Entry.trimmed).flatMap f = entries.flatMap f := by
  rw [List.flatMap_map]
  exact congrArg entries.flatMap (funext h)

/-! ### The head -/

theorem nameWithTitle_trimmed (p : Person) : nameWithTitle (Entry.trimmed p) = nameWithTitle p := by
  simp [nameWithTitle, Entry.trimmed_person, trimJoin_eq, List.filterMap_cons]

theorem pagesOf_trimmed (p : Person) : pagesOf (Entry.trimmed p) = pagesOf p := by
  have hsite : siteOf (Entry.trimmed p) = siteOf p := by
    simp [siteOf, Entry.trimmed_person, apply_ite stripScheme?]
  rw [pagesOf, hsite, pagesOf]
  simp [Entry.trimmed_person]

theorem contact_trimmed (p : Person) : contact (Entry.trimmed p) = contact p := by
  have hargs : escaped (introductionArgs (Entry.trimmed p)) = escaped (introductionArgs p) := by
    rw [introductionArgs, nameWithTitle_trimmed, pagesOf_trimmed]
    simp [introductionArgs, Entry.trimmed_person, escaped]
  unfold contact
  rw [command?_congr hargs]

theorem summary_trimmed? (text : Option String) : summary (trimmed? text) = summary text := by
  rw [summary, escape?_trimmed?, summary]

/-! ### Education -/

theorem courseList_trimmedLines (courses : List String) : courseList (trimmedLines courses) = courseList courses := by
  rw [courseList, map_filter_trimmedLines singleLine_trim, courseList]

theorem firstShown_trimmedDate? (values : List (Option DateValue)) :
    firstShown (values.map trimmedDate?) = trimmedDate? (firstShown values) := by
  induction values with
  | nil => rfl
  | cons value values ih =>
    rw [List.map_cons, firstShown, display?_trimmedDate?, ih, firstShown, apply_ite trimmedDate?]

theorem studyDates_trimmed (s : Study) (today : Date) : studyDates (Entry.trimmed s) today = studyDates s today := by
  have hstop := firstShown_trimmedDate? [s.graduationDate, s.endDate]
  rw [List.map_cons, List.map_cons, List.map_nil] at hstop
  rw [studyDates, Entry.trimmed_study, hstop, study_trimmedDate?, studyDates]

theorem distinctNames_eq (names : List (Option String)) :
    distinctNames names = (names.filterMap trimmed?).foldl (fun acc name => addName name acc) [] := by
  rw [distinctNames, filter_filterMap_trim]

theorem studyArgs_trimmed (s : Study) (dates : String) :
    escaped (studyArgs (Entry.trimmed s) dates) = escaped (studyArgs s dates) := by
  simp [studyArgs, Entry.trimmed_study, escaped, programName, distinctNames_eq, List.filterMap_cons,
    gradeOf, courseList_trimmedLines]

theorem studyLine?_trimmed (today : Date) (s : Study) : studyLine? today (Entry.trimmed s) = studyLine? today s := by
  simp only [studyLine?, studyDates_trimmed, command?_congr (studyArgs_trimmed s _)]

theorem education_trimmed (studies : List Study) (today : Date) :
    education (studies.map Entry.trimmed) today = education studies today := by
  have hitems : (studies.map Entry.trimmed).mapM (studyLine? today) = studies.mapM (studyLine? today) := by
    rw [List.mapM_map]
    exact congrArg studies.mapM (funext (studyLine?_trimmed today))
  rw [education, hitems, education]

/-! ### Groups of names -/

theorem groupLabel_trimmed? (fallback : String) (name : Option String) :
    groupLabel fallback (trimmed? name) = groupLabel fallback name := by
  rw [groupLabel, isVisible_trimmed?, trim_getD_trimmed?, groupLabel]

/-- Items are grouped the same with their labels and their names trimmed. -/
theorem groupNames_trimmed? (fallback : String) (items : List (Option String × Option String)) :
    groupNames fallback (items.map (Prod.map trimmed? trimmed?)) = groupNames fallback items := by
  have hvisible : (fun item => isVisible item.2) ∘ Prod.map trimmed? trimmed? =
      fun item : Option String × Option String => isVisible item.2 := funext fun item => isVisible_trimmed? item.2
  rw [groupNames, List.filter_map, hvisible, List.foldl_map]
  simp only [Prod.map_fst, Prod.map_snd, groupLabel_trimmed?, trim_getD_trimmed?]
  rfl

theorem skillGroups_trimmed (skills : List Skill) : skillGroups (skills.map Entry.trimmed) = skillGroups skills := by
  have h := groupNames_trimmed? "General" (skills.map fun s => (s.category, s.name))
  simpa [skillGroups, Function.comp_def, Entry.trimmed_skill] using h

theorem languageGroups_trimmed (languages : List Language) :
    languageGroups (languages.map Entry.trimmed) = languageGroups languages := by
  have h := groupNames_trimmed? "Languages" (languages.map fun l => (l.proficiency, l.name))
  simpa [languageGroups, Function.comp_def, Entry.trimmed_language] using h

theorem skills_trimmed (entries : List Skill) : skills (entries.map Entry.trimmed) = skills entries := by
  rw [skills, skillGroups_trimmed, skills]

theorem languages_trimmed (entries : List Language) :
    languages (entries.map Entry.trimmed) = languages entries := by
  rw [languages, languageGroups_trimmed, languages]

theorem hobbies_trimmed (entries : List Hobby) : hobbies (entries.map Entry.trimmed) = hobbies entries := by
  have hnames : hobbyNames (entries.map Entry.trimmed) = hobbyNames entries := by
    simp [hobbyNames, List.filter_map, Function.comp_def, Entry.trimmed_hobby]
  rw [hobbies, hnames, hobbies]

/-! ### Work -/

theorem job_trimmed (j : Job) : job (Entry.trimmed j) = job j := by
  have hargs : escaped (jobArgs (Entry.trimmed j)) = escaped (jobArgs j) := by
    simp [jobArgs, Entry.trimmed_job, escaped]
  refine entry_congr hargs (bullets_congr ?_)
  rw [Entry.trimmed_job, List.map_append, bulletTexts_append, bulletTexts_trimmedLines, bulletTexts_trimmedLines,
    ← bulletTexts_append, ← List.map_append]

theorem experience_trimmed (jobs : List Job) : experience (jobs.map Entry.trimmed) = experience jobs := by
  rw [experience, flatMap_trimmed job_trimmed, experience]

theorem role_trimmed (r : VolunteerRole) : role (Entry.trimmed r) = role r := by
  have hargs : escaped (roleArgs (Entry.trimmed r)) = escaped (roleArgs r) := by
    simp [roleArgs, Entry.trimmed_volunteerRole, escaped]
  have hpoints : bulletTexts ((Entry.trimmed r).description :: (Entry.trimmed r).achievements.map some) =
      bulletTexts (r.description :: r.achievements.map some) := by
    rw [Entry.trimmed_volunteerRole, ← List.singleton_append, bulletTexts_append,
      bulletTexts_singleton (escape?_trimmed? r.description), bulletTexts_trimmedLines, ← bulletTexts_append,
      List.singleton_append]
  rw [role, entry_congr hargs (bullets_congr hpoints), role]
  simp only [Entry.trimmed_volunteerRole, isVisible_trimmed?]

theorem volunteering_trimmed (roles : List VolunteerRole) :
    volunteering (roles.map Entry.trimmed) = volunteering roles := by
  rw [volunteering, flatMap_trimmed role_trimmed, volunteering, List.any_map]
  simp only [Function.comp_def, Entry.trimmed_volunteerRole, isVisible_trimmed?]

/-! ### Projects and what is shown like them -/

theorem projectEntry_congr {args args' : Candidates} {points points' : List (Option String)}
    (hargs : escaped args = escaped args') (hpoints : bulletTexts points = bulletTexts points') :
    projectEntry args points = projectEntry args' points' :=
  entry_congr hargs (bullets_congr hpoints)

theorem projects_trimmed (entries : List Project) : projects (entries.map Entry.trimmed) = projects entries := by
  have hdescription : ∀ p : Project, descriptionLines (Entry.trimmed p) = descriptionLines p := fun p => by
    rw [descriptionLines, Entry.trimmed_project, filter_map_trimmedLines singleLine_trim (by decide),
      descriptionLines]
  have htechnologies : ∀ p : Project, technologiesOf (Entry.trimmed p) = technologiesOf p := fun p => by
    rw [technologiesOf, Entry.trimmed_project, map_filter_trimmedLines trim_trim, technologiesOf]
  rw [projects, flatMap_trimmed, projects]
  intro p
  refine projectEntry_congr ?_ (by rw [projectPoints, hdescription, htechnologies, projectPoints])
  rw [projectArgs, hdescription]
  simp [projectArgs, Entry.trimmed_project, escaped]

theorem certificates_trimmed (entries : List Certificate) :
    certificates (entries.map Entry.trimmed) = certificates entries := by
  rw [certificates, flatMap_trimmed, certificates]
  intro c
  refine projectEntry_congr ?_ ?_
  · simp [certificateArgs, Entry.trimmed_certificate, escaped]
  · rw [Entry.trimmed_certificate]
    exact bulletTexts_singleton (escape?_trimmed? c.description)

theorem publications_trimmed (entries : List Publication) :
    publications (entries.map Entry.trimmed) = publications entries := by
  rw [publications, flatMap_trimmed, publications]
  intro p
  refine projectEntry_congr ?_ ?_
  · simp [publicationArgs, Entry.trimmed_publication, escaped]
  · rw [Entry.trimmed_publication]
    exact bulletTexts_singleton (escape?_trimmed? p.description)

/-- A description repeats the title if their single-line forms are the same. -/
theorem escape?_awardDescription_trimmed (a : Award) :
    escape? (awardDescription (Entry.trimmed a)) = escape? (awardDescription a) := by
  simp [awardDescription, Entry.trimmed_award, apply_ite escape?]

theorem awards_trimmed (entries : List Award) : awards (entries.map Entry.trimmed) = awards entries := by
  rw [awards, flatMap_trimmed, awards]
  intro a
  refine projectEntry_congr ?_ ?_
  · simp [awardArgs, Entry.trimmed_award, escaped]
  · exact bulletTexts_singleton (escape?_awardDescription_trimmed a)

/-- The label ends in a space, so the blanks behind it do not matter. -/
theorem escape?_contactLine?_trimmed? (label : String) (value : Option String) :
    escape? (contactLine? label (trimmed? value)) = escape? (contactLine? label value) := by
  have hline : ∀ s, escape (label ++ ": " ++ trim s) = escape (label ++ ": " ++ s) := fun s => by
    have h := singleLineChars_append_space (label.toList ++ [':']) s.toList
    rw [← String.toList_inj, toList_escape, toList_escape]
    simpa using congrArg escapeChars h
  refine apply_trimmed? (f := fun v => escape? (contactLine? label v)) (fun s => ?_) ?_ value
  · have hshown : ∀ s, escape? (some s) = escape s := fun s => rfl
    simp [contactLine?, isVisible, apply_ite escape?, hshown, hline]
  · simp [contactLine?, isVisible]

theorem references_trimmed (entries : List Referee) :
    references (entries.map Entry.trimmed) = references entries := by
  rw [references, flatMap_trimmed, references]
  intro r
  refine projectEntry_congr ?_ ?_
  · simp [refereeArgs, Entry.trimmed_referee, escaped, trimJoin_eq, List.filterMap_cons]
  · rw [contactLines, bulletTexts_filterMap_id, contactLines, bulletTexts_filterMap_id]
    simp only [bulletTexts, Entry.trimmed_referee, List.map_cons, List.map_nil, escape?_contactLine?_trimmed?]

/-! ### The end -/

theorem extra_trimmed (s : ExtraSection) : extra (Entry.trimmed s) = extra s := by
  simp only [extra, extraTitle, Entry.trimmed_extraSection, escape?_trimmed?]

theorem extras_trimmed (entries : List ExtraSection) : extras (entries.map Entry.trimmed) = extras entries := by
  rw [extras, flatMap_trimmed extra_trimmed, extras]

theorem footer_trimmed? (url : Option String) : footer (trimmed? url) = footer url := by
  have h : compactUrl (trimmed? url) = compactUrl url := by rw [compactUrl, singleLine?_trimmed?, compactUrl]
  rw [footer, h, footer]

end Vitae.Section
