import Vitae.Proofs.Layout.Body
import Vitae.Proofs.Section.Shown

/-!
# What the standard layout shows

The standard layout shows a section exactly when the résumé has something to show in it,
and its notice exactly when the résumé has nothing to show at all (`standard_shows`). No
section can be taken for the notice: a section begins with an empty line or its own
comment (`titled_of_standardSections`).
-/

namespace Vitae.Layout

open Text Calendar Section

/-- A résumé has something to show in the standard layout. -/
def ResumeShows (r : Resume) : Prop :=
  PersonShows r.person ∨ Shows r.summary ∨ (∃ s ∈ r.studies, StudyShows s) ∨
    (∃ s ∈ r.skills, Shows s.name) ∨ (∃ j ∈ r.jobs, JobShows j) ∨ (∃ p ∈ r.projects, ProjectShows p) ∨
    (∃ c ∈ r.certificates, CertificateShows c) ∨ (∃ p ∈ r.publications, PublicationShows p) ∨
    (∃ l ∈ r.languages, Shows l.name) ∨ (∃ v ∈ r.volunteering, RoleShows v) ∨
    (∃ a ∈ r.awards, AwardShows a) ∨ (∃ h ∈ r.hobbies, Shows h.name) ∨
    (∃ p ∈ r.referees, RefereeShows p) ∨ (∃ s ∈ r.extras, Shows s.content) ∨ Shows r.trackingUrl

/-- Each section is empty exactly when none of its entries has something to show. -/
structure ShowsEntries (r : Resume) (education : Block) : Prop where
  /-- The name and how to reach the person. -/
  contact : contact r.person = [] ↔ ¬ PersonShows r.person
  /-- The summary. -/
  summary : Section.summary r.summary = [] ↔ ¬ Shows r.summary
  /-- The courses of study. -/
  education : education = [] ↔ ∀ s ∈ r.studies, ¬ StudyShows s
  /-- The skills. -/
  skills : Section.skills r.skills = [] ↔ ∀ s ∈ r.skills, ¬ Shows s.name
  /-- The jobs. -/
  experience : experience r.jobs = [] ↔ ∀ j ∈ r.jobs, ¬ JobShows j
  /-- The projects. -/
  projects : Section.projects r.projects = [] ↔ ∀ p ∈ r.projects, ¬ ProjectShows p
  /-- The certificates. -/
  certificates : Section.certificates r.certificates = [] ↔ ∀ c ∈ r.certificates, ¬ CertificateShows c
  /-- The publications. -/
  publications : Section.publications r.publications = [] ↔ ∀ p ∈ r.publications, ¬ PublicationShows p
  /-- The languages. -/
  languages : Section.languages r.languages = [] ↔ ∀ l ∈ r.languages, ¬ Shows l.name
  /-- The voluntary roles. -/
  volunteering : Section.volunteering r.volunteering = [] ↔ ∀ v ∈ r.volunteering, ¬ RoleShows v
  /-- The awards. -/
  awards : Section.awards r.awards = [] ↔ ∀ a ∈ r.awards, ¬ AwardShows a
  /-- The hobbies. -/
  hobbies : Section.hobbies r.hobbies = [] ↔ ∀ h ∈ r.hobbies, ¬ Shows h.name
  /-- The people who give a reference. -/
  references : references r.referees = [] ↔ ∀ p ∈ r.referees, ¬ RefereeShows p
  /-- The sections of free form. -/
  extras : Section.extras r.extras = [] ↔ ∀ s ∈ r.extras, ¬ Shows s.content
  /-- The footer. -/
  footer : footer r.trackingUrl = [] ↔ ¬ Shows r.trackingUrl

theorem showsEntries {r : Resume} {today : Date} {b : Block} (h : Section.education r.studies today = .ok b) :
    ShowsEntries r b where
  contact := contact_eq_nil_iff
  summary := summary_eq_nil_iff
  education := education_eq_nil_iff h
  skills := skills_eq_nil_iff
  experience := experience_eq_nil_iff
  projects := projects_eq_nil_iff
  certificates := certificates_eq_nil_iff
  publications := publications_eq_nil_iff
  languages := languages_eq_nil_iff
  volunteering := volunteering_eq_nil_iff
  awards := awards_eq_nil_iff
  hobbies := hobbies_eq_nil_iff
  references := references_eq_nil_iff
  extras := extras_eq_nil_iff
  footer := footer_eq_nil_iff

/-- All sections are empty exactly when the résumé has nothing to show. -/
theorem all_standardSections_iff {r : Resume} {today : Date} {sections : List Block}
    (h : standardSections r today = .ok sections) : (∀ b ∈ sections, b = []) ↔ ¬ ResumeShows r := by
  obtain ⟨education, heducation, h⟩ := exists_of_bind_eq_ok h
  have hshows := showsEntries heducation
  rw [← Except.ok.inj h]
  simp only [List.forall_mem_cons, hshows.contact, hshows.summary, hshows.education, hshows.skills,
    hshows.experience, hshows.projects, hshows.certificates, hshows.publications, hshows.languages,
    hshows.volunteering, hshows.awards, hshows.hobbies, hshows.references, hshows.extras, hshows.footer,
    ResumeShows, not_or, not_exists, not_and]
  simp

/-! ### The notice -/

/-- A block that begins with an empty line or with the comment of a section, or is empty. -/
def Titled (b : Block) : Prop := ∀ l ∈ b.head?, l = "" ∨ ∃ name, l = banner name

theorem titled_nil : Titled [] := by simp [Titled]

theorem titled_cons {l : String} {b : Block} (h : l = "" ∨ ∃ name, l = banner name) : Titled (l :: b) := by
  intro l' hl'
  rwa [← Option.some.inj hl']

theorem titled_wrap (name environment title : String) (body : Block) :
    Titled (wrap (banner name) environment title body) := by
  unfold wrap
  split
  · exact titled_nil
  · exact titled_cons (.inr ⟨name, rfl⟩)

theorem not_titled_emptyNotice : ¬ Titled emptyNotice := by
  intro h
  rcases h _ rfl with hempty | ⟨name, hname⟩
  · exact absurd hempty (by decide)
  · have hstart := congrArg (fun l : String => l.toList.take 3) hname
    simp [banner] at hstart

theorem titled_education {studies : List Study} {today : Date} {b : Block}
    (h : education studies today = .ok b) : Titled b := by
  obtain ⟨items, -, h⟩ := exists_of_bind_eq_ok h
  rw [← Except.ok.inj h]
  exact titled_wrap _ _ _ _

theorem titled_contact (p : Person) : Titled (contact p) := by
  unfold contact
  split
  · exact titled_nil
  · exact titled_cons (.inr ⟨_, rfl⟩)

theorem titled_summary (text : Option String) : Titled (Section.summary text) := by
  unfold Section.summary
  split
  · exact titled_nil
  · exact titled_cons (.inr ⟨_, rfl⟩)

theorem titled_volunteering (roles : List VolunteerRole) : Titled (Section.volunteering roles) := by
  unfold Section.volunteering
  split
  · exact titled_wrap _ _ _ _
  · exact titled_nil

theorem titled_hobbies (entries : List Hobby) : Titled (Section.hobbies entries) := by
  unfold Section.hobbies
  split
  · exact titled_nil
  · exact titled_wrap _ _ _ _

theorem titled_extras (entries : List ExtraSection) : Titled (Section.extras entries) := by
  rw [Section.extras]
  split
  · exact titled_nil
  · exact titled_cons (.inr ⟨_, rfl⟩)

theorem titled_footer (url : Option String) : Titled (Section.footer url) := by
  rw [Section.footer]
  split
  · exact titled_nil
  · exact titled_cons (.inl rfl)

/-- The sections begin with an empty line or with their own comments. -/
theorem titled_of_standardSections {r : Resume} {today : Date} {sections : List Block}
    (h : standardSections r today = .ok sections) : ∀ b ∈ sections, Titled b := by
  obtain ⟨education, heducation, h⟩ := exists_of_bind_eq_ok h
  rw [← Except.ok.inj h]
  simp only [List.forall_mem_cons, List.not_mem_nil, false_implies, implies_true, and_true]
  refine ⟨titled_contact _, titled_summary _, titled_education heducation, titled_wrap _ _ _ _,
    titled_wrap _ _ _ _, titled_wrap _ _ _ _, titled_wrap _ _ _ _, titled_wrap _ _ _ _, titled_wrap _ _ _ _,
    titled_volunteering _, titled_wrap _ _ _ _, titled_hobbies _, titled_wrap _ _ _ _, titled_extras _,
    titled_footer _⟩

/-- **What is shown.** Let no date stand in the way of a résumé. Then each section of the standard
layout is empty exactly when none of its entries has something to show. The notice is shown exactly when
the résumé has nothing to show at all, and then it is the only block; otherwise the blocks are the
sections in their order. -/
theorem blocks_standard_show (r : Resume) (today : Date) (h : IsJudged .standard r today) :
    ∃ education sections bs, Section.education r.studies today = .ok education ∧ ShowsEntries r education ∧
      standardSections r today = .ok sections ∧ blocks .standard r today = .ok bs ∧
      (emptyNotice ∈ bs ↔ ¬ ResumeShows r) ∧ (¬ ResumeShows r → bs = [emptyNotice]) ∧
      (ResumeShows r → bs = sections) := by
  obtain ⟨standard, hstandard⟩ := (exists_standardBlocks_iff r today).mpr h
  obtain ⟨sections, hsections, hchoice⟩ := exists_of_bind_eq_ok hstandard
  obtain ⟨education, heducation, -⟩ := exists_of_bind_eq_ok hsections
  have hempty : (sections.all (· = [])) = true ↔ ¬ ResumeShows r := by
    rw [← all_standardSections_iff hsections]
    simp
  have hnotice : emptyNotice ∉ sections := fun hmem =>
    not_titled_emptyNotice (titled_of_standardSections hsections _ hmem)
  have hblocks : blocks .standard r today = .ok standard := by
    rw [blocks, hstandard]
    rfl
  refine ⟨education, sections, standard, heducation, showsEntries heducation, hsections, hblocks, ?_⟩
  rw [← Except.ok.inj hchoice]
  by_cases hshows : ResumeShows r
  · have hsome : ¬ (sections.all (· = [])) = true := fun hall => hempty.mp hall hshows
    rw [if_neg hsome]
    exact ⟨iff_of_false hnotice (not_not_intro hshows), fun hnot => absurd hshows hnot, fun _ => rfl⟩
  · rw [if_pos (hempty.mpr hshows)]
    exact ⟨iff_of_true (List.mem_singleton_self _) hshows, fun _ => rfl, fun h => absurd h hshows⟩

/-- A résumé of which only a grade shows something. -/
def gradeOnly : Resume :=
  { person := { firstName := some "\u00a0", websiteUrl := some "https://" }, studies := [{ gpa := some "3.9" }] }

theorem blocks_standard_show_gradeOnly :
    ∃ bs, blocks .standard gradeOnly ⟨2025, 1, 1, by decide⟩ = .ok bs ∧ emptyNotice ∉ bs := by
  have hjudged : IsJudged .standard gradeOnly ⟨2025, 1, 1, by decide⟩ := by
    intro s hs
    obtain rfl := List.mem_singleton.mp hs
    exact ⟨false, by decide⟩
  have hshows : ResumeShows gradeOnly := by
    refine .inr (.inr (.inl ⟨_, List.mem_singleton_self _, .inl ⟨some "3.9", by simp, ?_⟩⟩))
    exact shows_some.mpr ⟨'3', by decide, by decide⟩
  obtain ⟨education, sections, bs, -, -, -, hblocks, hnotice, -⟩ := blocks_standard_show gradeOnly _ hjudged
  exact ⟨bs, hblocks, fun hmem => hnotice.mp hmem hshows⟩

end Vitae.Layout
