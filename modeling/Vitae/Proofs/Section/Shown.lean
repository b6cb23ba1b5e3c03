import Vitae.Layout
import Vitae.Proofs.Section.Wording
import Vitae.Proofs.Text.Words

/-!
# When a section is shown

Each section of the standard layout is empty exactly when none of its entries has
something to show. What an entry has to show is said by its fields alone (`PersonShows`,
`StudyShows`, `JobShows` and so on): for most kinds of entries one field that shows
something is enough, while a voluntary role needs both an organization and a role.
-/

namespace Vitae.Section

open Text Latex Calendar

/-- The person shows something: a name or a title, or a way to be reached. Of portfolio and web site
only the portfolio counts if it is not blank. -/
def PersonShows (p : Person) : Prop :=
  (∃ value ∈ [p.firstName, p.lastName, p.professionalTitle, p.email, p.phone], Shows value) ∨
    LinkShows p.linkedinUrl ∨ LinkShows p.githubUrl ∨ LinkShows p.portfolioUrl ∨
    (¬ Shows p.portfolioUrl ∧ LinkShows p.websiteUrl)

/-- A course of study shows something. -/
def StudyShows (s : Study) : Prop :=
  (∃ value ∈ [s.institution, s.location, s.degree, s.fieldOfStudy, s.gpa], Shows value) ∨
    (∃ course ∈ s.coursework, Shown course) ∨
    ∃ value ∈ [s.startDate, s.graduationDate, s.endDate], DateShows value

/-- A job shows something. -/
def JobShows (j : Job) : Prop :=
  (∃ value ∈ [j.company, j.location, j.jobTitle], Shows value) ∨
    DateShows j.startDate ∨ DateShows j.endDate ∨ j.isCurrent = true

/-- A project shows something. -/
def ProjectShows (p : Project) : Prop :=
  Shows p.name ∨ LinkShows p.url ∨ DateShows p.startDate ∨ DateShows p.endDate ∨
    ∃ line ∈ p.description, Shown line

/-- A certificate shows something. -/
def CertificateShows (c : Certificate) : Prop :=
  Shows c.name ∨ LinkShows c.url ∨ DateShows c.date ∨ Shows c.issuer

/-- A publication shows something. -/
def PublicationShows (p : Publication) : Prop :=
  Shows p.title ∨ LinkShows p.url ∨ DateShows p.publicationDate ∨ Shows p.publisher

/-- An award shows something. -/
def AwardShows (a : Award) : Prop := Shows a.title ∨ Shows a.issuer ∨ DateShows a.date

/-- A referee shows something. -/
def RefereeShows (r : Referee) : Prop := Shows r.name ∨ Shows r.title ∨ Shows r.company

/-- A voluntary role shows something: both what for and as what. -/
def RoleShows (r : VolunteerRole) : Prop := Shows r.organization ∧ Shows r.role

/-- The site that is shown is the portfolio unless that is blank. -/
theorem shown_siteOf_iff {p : Person} :
    Shown (siteOf p) ↔ LinkShows p.portfolioUrl ∨ (¬ Shows p.portfolioUrl ∧ LinkShows p.websiteUrl) := by
  rw [siteOf, shown_stripScheme?_iff]
  by_cases hportfolio : isVisible p.portfolioUrl = true
  · simp [hportfolio, isVisible_iff.mp hportfolio]
  · have hblank : ¬ Shows p.portfolioUrl := fun h => hportfolio (isVisible_iff.mpr h)
    have hlink : ¬ LinkShows p.portfolioUrl := by
      rintro ⟨s, hs, hshown, -⟩
      exact hblank ⟨s, hs, hshown⟩
    simp [hportfolio, hblank, hlink]

theorem shown_pagesOf_iff {p : Person} : Shown (pagesOf p) ↔ LinkShows p.githubUrl ∨ Shown (siteOf p) := by
  rw [pagesOf, ← shown_stripScheme?_iff]
  by_cases hsite : siteOf p = ""
  · simp [hsite, not_shown_empty]
  · by_cases hpage : stripScheme? p.githubUrl = ""
    · simp [hsite, hpage, not_shown_empty]
    · have hshown : Shown (stripScheme? p.githubUrl) :=
        shown_stripScheme?_iff.mpr (stripScheme?_ne_empty_iff.mp hpage)
      simp [hsite, hpage, shown_append, hshown]

theorem shown_nameWithTitle_iff {p : Person} :
    Shown (nameWithTitle p) ↔ Shows p.firstName ∨ Shows p.lastName ∨ Shows p.professionalTitle := by
  simp [nameWithTitle, shown_trimJoin_iff, or_assoc]

theorem contact_eq_nil_iff {p : Person} : contact p = [] ↔ ¬ PersonShows p := by
  have hcall : contact p = [] ↔ (introductionArgs p).command? introduction = none := by
    unfold contact
    split
    · simp [*]
    · simp [*]
  rw [hcall, command?_eq_none_iff]
  simp only [introductionArgs, PersonShows, List.exists_mem_cons_iff, shows_some, shown_nameWithTitle_iff,
    shown_stripScheme?_iff, shown_pagesOf_iff, shown_siteOf_iff, or_assoc]
  simp

theorem summary_eq_nil_iff {text : Option String} : summary text = [] ↔ ¬ Shows text := by
  rw [← escape?_ne_empty_iff, summary, ne_eq, not_not]
  split
  · simp [*]
  · simp [*]

/-- A course of study has a line unless it shows nothing. -/
theorem studyLine?_eq_none_iff {s : Study} {today : Date} {line : Option String}
    (h : studyLine? today s = .ok line) : line = none ↔ ¬ StudyShows s := by
  obtain ⟨dates, hdates, h⟩ := exists_of_bind_eq_ok h
  rw [← Except.ok.inj h, Option.map_eq_none_iff, command?_eq_none_iff]
  simp only [studyArgs, StudyShows, List.exists_mem_cons_iff, shows_some, shown_programName_iff,
    shown_study_iff hdates, dateShows_firstShown_iff, shows_gradeOf_iff, shown_courseList_iff, or_assoc]
  simp
  tauto

theorem education_eq_nil_iff {studies : List Study} {today : Date} {b : Block}
    (h : education studies today = .ok b) : b = [] ↔ ∀ s ∈ studies, ¬ StudyShows s := by
  obtain ⟨items, hitems, h⟩ := exists_of_bind_eq_ok h
  have hnil : ∀ lines : List String, lines.intersperse "" = [] ↔ lines = [] := fun lines => by
    match lines with
    | [] => simp
    | [line] => simp
    | line :: line' :: lines => simp
  rw [← Except.ok.inj h, wrap_eq_nil_iff, hnil, List.filterMap_eq_nil_iff]
  constructor
  · intro hnone s hs
    obtain ⟨line, hline, hread⟩ := exists_mem_of_mapM hitems hs
    exact (studyLine?_eq_none_iff hread).mp (hnone line hline)
  · intro hnone line hline
    obtain ⟨s, hs, hread⟩ := exists_of_mem_mapM hitems hline
    exact (studyLine?_eq_none_iff hread).mpr (hnone s hs)

theorem skills_eq_nil_iff {entries : List Skill} : skills entries = [] ↔ ∀ s ∈ entries, ¬ Shows s.name := by
  rw [skills, wrap_eq_nil_iff, groupBlock_eq_nil_iff, skillGroups, groupsShow_groupNames_iff]
  simp

theorem languages_eq_nil_iff {entries : List Language} :
    languages entries = [] ↔ ∀ l ∈ entries, ¬ Shows l.name := by
  rw [languages, wrap_eq_nil_iff, groupBlock_eq_nil_iff, languageGroups, groupsShow_groupNames_iff]
  simp

theorem hobbies_eq_nil_iff {entries : List Hobby} : hobbies entries = [] ↔ ∀ h ∈ entries, ¬ Shows h.name := by
  have hnames : GroupsShow [("Hobbies", hobbyNames entries)] ↔ ∃ h ∈ entries, Shows h.name := by
    constructor
    · rintro ⟨group, hgroup, name, hname, hshown⟩
      obtain rfl := List.mem_singleton.mp hgroup
      obtain ⟨h, hmem, rfl⟩ := List.mem_map.mp hname
      exact ⟨h, (List.mem_filter.mp hmem).1, shown_trim_getD_iff.mp hshown⟩
    · rintro ⟨h, hmem, hshows⟩
      have hvisible : h ∈ entries.filter fun h => isVisible h.name :=
        List.mem_filter.mpr ⟨hmem, isVisible_iff.mpr hshows⟩
      exact ⟨_, List.mem_singleton_self _, _, List.mem_map_of_mem hvisible, shown_trim_getD_iff.mpr hshows⟩
  have hempty : hobbyNames entries = [] ↔ ∀ h ∈ entries, ¬ Shows h.name := by
    simp [hobbyNames, ← isVisible_iff]
  rw [hobbies, ← hempty]
  split
  · simp [*]
  · rename_i hne
    rw [wrap_eq_nil_iff, groupBlock_eq_nil_iff, hnames, hempty]
    simp

theorem job_eq_nil_iff {j : Job} : job j = [] ↔ ¬ JobShows j := by
  rw [job, entry_eq_nil_iff]
  simp [jobArgs, JobShows, shown_range_iff, or_assoc]

theorem experience_eq_nil_iff {jobs : List Job} : experience jobs = [] ↔ ∀ j ∈ jobs, ¬ JobShows j := by
  rw [experience, wrap_eq_nil_iff, List.flatMap_eq_nil_iff]
  exact forall₂_congr fun j _ => job_eq_nil_iff

/-- A section of entries that are shown like projects. -/
theorem projectSection_eq_nil_iff {α : Type} {entries : List α} {args : α → Candidates}
    {points : α → List (Option String)} {comment title : String} :
    projectSection comment title (entries.flatMap fun e => projectEntry (args e) (points e)) = [] ↔
      ∀ e ∈ entries, ¬ ∃ arg ∈ args e, Shows arg.2 := by
  rw [projectSection, wrap_eq_nil_iff, List.flatMap_eq_nil_iff]
  exact forall₂_congr fun e _ => entry_eq_nil_iff

/-- A project has a headline when a line of its description shows something. -/
theorem shows_headline_iff {p : Project} :
    Shows (descriptionLines p).head? ↔ ∃ line ∈ p.description, Shown line := by
  have hlines : ∀ line, line ∈ descriptionLines p ↔ ∃ l ∈ p.description, Shown l ∧ singleLine l = line := by
    intro line
    rw [descriptionLines, List.mem_filter, List.mem_map]
    constructor
    · rintro ⟨⟨l, hl, rfl⟩, hne⟩
      exact ⟨l, hl, singleLine_ne_empty_iff.mp (by simpa using hne), rfl⟩
    · rintro ⟨l, hl, hshown, rfl⟩
      exact ⟨⟨l, hl, rfl⟩, by simpa using singleLine_ne_empty_iff.mpr hshown⟩
  constructor
  · rintro ⟨line, hline, -⟩
    obtain ⟨l, hl, hshown, -⟩ := (hlines line).mp (List.mem_of_mem_head? hline)
    exact ⟨l, hl, hshown⟩
  · rintro ⟨l, hl, hshown⟩
    cases hdescription : descriptionLines p with
    | nil =>
      have hmem := (hlines (singleLine l)).mpr ⟨l, hl, hshown, rfl⟩
      rw [hdescription] at hmem
      exact absurd hmem List.not_mem_nil
    | cons line lines =>
      have hmem : line ∈ descriptionLines p := by
        rw [hdescription]
        exact List.mem_cons_self
      obtain ⟨l', -, hshown', rfl⟩ := (hlines line).mp hmem
      exact shows_some.mpr (shown_singleLine.mpr hshown')

theorem shows_projectArgs_iff {p : Project} : (∃ arg ∈ projectArgs p, Shows arg.2) ↔ ProjectShows p := by
  simp [projectArgs, ProjectShows, shown_titleWithUrl_iff, shown_range_iff, shows_headline_iff, or_assoc]

theorem projects_eq_nil_iff {entries : List Project} : projects entries = [] ↔ ∀ p ∈ entries, ¬ ProjectShows p := by
  rw [projects, projectSection_eq_nil_iff]
  exact forall₂_congr fun p _ => not_congr shows_projectArgs_iff

theorem shows_certificateArgs_iff {c : Certificate} : (∃ arg ∈ certificateArgs c, Shows arg.2) ↔ CertificateShows c := by
  simp [certificateArgs, CertificateShows, shown_titleWithUrl_iff, shown_range_iff, shows_labelled_iff, DateShows, or_assoc]

theorem certificates_eq_nil_iff {entries : List Certificate} :
    certificates entries = [] ↔ ∀ c ∈ entries, ¬ CertificateShows c := by
  rw [certificates, projectSection_eq_nil_iff]
  exact forall₂_congr fun c _ => not_congr shows_certificateArgs_iff

theorem shows_publicationArgs_iff {p : Publication} : (∃ arg ∈ publicationArgs p, Shows arg.2) ↔ PublicationShows p := by
  simp [publicationArgs, PublicationShows, shown_titleWithUrl_iff, shown_range_iff, shows_labelled_iff, DateShows, or_assoc]

theorem publications_eq_nil_iff {entries : List Publication} :
    publications entries = [] ↔ ∀ p ∈ entries, ¬ PublicationShows p := by
  rw [publications, projectSection_eq_nil_iff]
  exact forall₂_congr fun p _ => not_congr shows_publicationArgs_iff

theorem shows_awardArgs_iff {a : Award} : (∃ arg ∈ awardArgs a, Shows arg.2) ↔ AwardShows a := by
  simp [awardArgs, AwardShows, shown_range_iff, shows_labelled_iff, DateShows]

theorem awards_eq_nil_iff {entries : List Award} : awards entries = [] ↔ ∀ a ∈ entries, ¬ AwardShows a := by
  rw [awards, projectSection_eq_nil_iff]
  exact forall₂_congr fun a _ => not_congr shows_awardArgs_iff

theorem shows_refereeArgs_iff {r : Referee} : (∃ arg ∈ refereeArgs r, Shows arg.2) ↔ RefereeShows r := by
  simp [refereeArgs, RefereeShows, shown_trimJoin_iff]

theorem references_eq_nil_iff {entries : List Referee} :
    references entries = [] ↔ ∀ r ∈ entries, ¬ RefereeShows r := by
  rw [references, projectSection_eq_nil_iff]
  exact forall₂_congr fun r _ => not_congr shows_refereeArgs_iff

/-- The voluntary roles are shown when one of them names both organization and role; then that one is
shown. -/
theorem volunteering_eq_nil_iff {roles : List VolunteerRole} :
    volunteering roles = [] ↔ ∀ r ∈ roles, ¬ RoleShows r := by
  have hany : (roles.any fun r => isVisible r.organization && isVisible r.role) = true ↔
      ∃ r ∈ roles, RoleShows r := by
    simp [RoleShows, isVisible_iff]
  rw [volunteering]
  split
  · rename_i h
    obtain ⟨r, hr, hshows⟩ := hany.mp h
    rw [wrap_eq_nil_iff, List.flatMap_eq_nil_iff]
    refine iff_of_false (fun hnil => ?_) fun hnone => hnone r hr hshows
    have hrole : role r = [] := hnil r hr
    rw [role, if_pos (by simp [isVisible_iff.mpr hshows.1]), entry_eq_nil_iff] at hrole
    exact hrole ⟨("company", r.organization), by simp [roleArgs], hshows.1⟩
  · rename_i h
    exact iff_of_true rfl fun r hr hshows => h (hany.mpr ⟨r, hr, hshows⟩)

theorem extra_eq_nil_iff {s : ExtraSection} : extra s = [] ↔ ¬ Shows s.content := by
  rw [← escape?_ne_empty_iff, extra, ne_eq, not_not]
  split
  · simp [*]
  · simp [*]

theorem extras_eq_nil_iff {entries : List ExtraSection} :
    extras entries = [] ↔ ∀ s ∈ entries, ¬ Shows s.content := by
  have hbody : entries.flatMap extra = [] ↔ ∀ s ∈ entries, ¬ Shows s.content := by
    rw [List.flatMap_eq_nil_iff]
    exact forall₂_congr fun s _ => extra_eq_nil_iff
  rw [← hbody]
  by_cases hnil : entries.flatMap extra = []
  · simp only [extras, hnil, if_pos]
  · simp only [extras, hnil, if_false]
    simp

/-- An address is printed without its blanks. -/
theorem compactUrl_some (s : String) : compactUrl (some s) = String.ofList (s.toList.filter fun c => !isBlank c) := by
  rw [compactUrl, singleLine?, toList_singleLine, ← filter_singleLineChars]
  refine congrArg String.ofList (List.filter_congr fun c hc => ?_)
  by_cases hblank : isBlank c
  · simp [eq_space_of_mem_singleLineChars hblank hc, isBlank_space]
  · have hne : c ≠ ' ' := by
      rintro rfl
      exact hblank isBlank_space
    simp [hblank, hne]

/-- Without its blanks an address is empty when it shows nothing. -/
theorem compactUrl_ne_empty_iff {url : Option String} : compactUrl url ≠ "" ↔ Shows url := by
  cases url with
  | none => simp [compactUrl, singleLine?]
  | some s => simp [compactUrl_some, Shown]

theorem footer_eq_nil_iff {url : Option String} : footer url = [] ↔ ¬ Shows url := by
  rw [← compactUrl_ne_empty_iff, ne_eq, not_not]
  by_cases hempty : compactUrl url = ""
  · simp [footer, hempty]
  · simp [footer, hempty]

end Vitae.Section
