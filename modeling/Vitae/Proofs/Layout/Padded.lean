import Vitae.Proofs.Resume.Blank
import Vitae.Proofs.Layout.Shown

/-!
# Blank entries in the standard layout

A blank entry has nothing to show, whatever its kind, so no line is made from it. What a
section puts between entries, such as the empty line between two courses of study and the
line break behind a group, stands between the lines that were made, not between the entries.
So each section is made from the entries that are filled in (`experience_filled` and so on),
and a blank entry changes no block wherever it stands (`blocks_standard_padded`).
-/

namespace Vitae.Section

open Text Latex Calendar

/-! ### Nothing is shown for a blank entry -/

theorem not_jobShows_of_isBlank {j : Job} (h : Entry.isBlank j = true) : ¬ JobShows j := by
  obtain ⟨htitle, hcompany, hlocation, hstart, hend, hcurrent, -⟩ := isBlank_job_iff.mp h
  simp [JobShows, htitle, hcompany, hlocation, hstart, hend, hcurrent]

theorem not_studyShows_of_isBlank {s : Study} (h : Entry.isBlank s = true) : ¬ StudyShows s := by
  obtain ⟨hinstitution, hdegree, hfield, hgraduation, hstart, hend, hlocation, hgrade, hcoursework⟩ := isBlank_study_iff.mp h
  simpa [StudyShows, hinstitution, hdegree, hfield, hgraduation, hstart, hend, hlocation, hgrade] using hcoursework

theorem not_projectShows_of_isBlank {p : Project} (h : Entry.isBlank p = true) : ¬ ProjectShows p := by
  obtain ⟨hname, hdescription, -, hurl, hstart, hend⟩ := isBlank_project_iff.mp h
  have hlink : ¬ LinkShows p.url := fun hlink => hurl hlink.shows
  simpa [ProjectShows, hname, hlink, hstart, hend] using hdescription

theorem not_certificateShows_of_isBlank {c : Certificate} (h : Entry.isBlank c = true) : ¬ CertificateShows c := by
  obtain ⟨hname, hissuer, hdate, -, -, hurl, -⟩ := isBlank_certificate_iff.mp h
  have hlink : ¬ LinkShows c.url := fun hlink => hurl hlink.shows
  simp [CertificateShows, hname, hissuer, hdate, hlink]

theorem not_publicationShows_of_isBlank {p : Publication} (h : Entry.isBlank p = true) : ¬ PublicationShows p := by
  obtain ⟨htitle, hpublisher, hdate, hurl, -⟩ := isBlank_publication_iff.mp h
  have hlink : ¬ LinkShows p.url := fun hlink => hurl hlink.shows
  simp [PublicationShows, htitle, hpublisher, hdate, hlink]

theorem not_awardShows_of_isBlank {a : Award} (h : Entry.isBlank a = true) : ¬ AwardShows a := by
  obtain ⟨htitle, hissuer, hdate, -⟩ := isBlank_award_iff.mp h
  simp [AwardShows, htitle, hissuer, hdate]

theorem not_refereeShows_of_isBlank {r : Referee} (h : Entry.isBlank r = true) : ¬ RefereeShows r := by
  obtain ⟨hname, htitle, hcompany, -⟩ := isBlank_referee_iff.mp h
  simp [RefereeShows, hname, htitle, hcompany]

/-! ### Sections of the entries that are filled in -/

section

variable {α : Type} [Entry α]

/-- A test that blank entries do not pass is passed by the same entries when they are filled in. -/
theorem filter_filled {p : α → Bool} (h : ∀ e, Entry.isBlank e = true → p e = false) (entries : List α) :
    (Entry.filled entries).filter p = entries.filter p := by
  rw [Entry.filled, List.filter_filter]
  refine List.filter_congr fun e _ => ?_
  cases he : Entry.isBlank e with
  | false => simp
  | true => simp [h e he]

theorem any_filled {p : α → Bool} (h : ∀ e, Entry.isBlank e = true → p e = false) (entries : List α) :
    (Entry.filled entries).any p = entries.any p := by
  rw [Entry.filled, List.any_filter]
  refine List.any_congr rfl fun e => ?_
  cases he : Entry.isBlank e with
  | false => rfl
  | true => rw [h e he]; rfl

/-- Lines of which a blank entry has none are the lines of the entries that are filled in. -/
theorem flatMap_filled {f : α → Block} (h : ∀ e, Entry.isBlank e = true → f e = []) (entries : List α) :
    (Entry.filled entries).flatMap f = entries.flatMap f := by
  induction entries with
  | nil => rfl
  | cons e entries ih =>
    rw [Entry.filled] at ih ⊢
    cases he : Entry.isBlank e with
    | false => simp [he, ih]
    | true => simp [he, ih, h e he]

/-- A section of entries that are shown like projects. -/
theorem projectSection_filled {comment title : String} {args : α → Candidates} {points : α → List (Option String)}
    (h : ∀ e, Entry.isBlank e = true → ¬ ∃ arg ∈ args e, Shows arg.2) (entries : List α) :
    projectSection comment title ((Entry.filled entries).flatMap fun e => projectEntry (args e) (points e)) =
      projectSection comment title (entries.flatMap fun e => projectEntry (args e) (points e)) := by
  have hblank : ∀ e, Entry.isBlank e = true → projectEntry (args e) (points e) = [] := fun e he =>
    entry_eq_nil_iff.mpr (h e he)
  rw [flatMap_filled hblank]

end

theorem experience_filled (jobs : List Job) : experience (Entry.filled jobs) = experience jobs := by
  rw [experience, flatMap_filled fun j hj => job_eq_nil_iff.mpr (not_jobShows_of_isBlank hj), experience]

theorem projects_filled (entries : List Project) : projects (Entry.filled entries) = projects entries :=
  projectSection_filled (fun _ he => shows_projectArgs_iff.not.mpr (not_projectShows_of_isBlank he)) entries

theorem certificates_filled (entries : List Certificate) : certificates (Entry.filled entries) = certificates entries :=
  projectSection_filled (fun _ he => shows_certificateArgs_iff.not.mpr (not_certificateShows_of_isBlank he)) entries

theorem publications_filled (entries : List Publication) : publications (Entry.filled entries) = publications entries :=
  projectSection_filled (fun _ he => shows_publicationArgs_iff.not.mpr (not_publicationShows_of_isBlank he)) entries

theorem awards_filled (entries : List Award) : awards (Entry.filled entries) = awards entries :=
  projectSection_filled (fun _ he => shows_awardArgs_iff.not.mpr (not_awardShows_of_isBlank he)) entries

theorem references_filled (entries : List Referee) : references (Entry.filled entries) = references entries :=
  projectSection_filled (fun _ he => shows_refereeArgs_iff.not.mpr (not_refereeShows_of_isBlank he)) entries

theorem extras_filled (entries : List ExtraSection) : extras (Entry.filled entries) = extras entries := by
  have hblank : ∀ s : ExtraSection, Entry.isBlank s = true → extra s = [] := fun s hs =>
    extra_eq_nil_iff.mpr (isBlank_extra_iff.mp hs).2
  rw [extras, flatMap_filled hblank, extras]

/-- Nothing is shown for a blank role, and it does not bring the section about either. -/
theorem volunteering_filled (roles : List VolunteerRole) : volunteering (Entry.filled roles) = volunteering roles := by
  have hblank : ∀ r : VolunteerRole, Entry.isBlank r = true →
      isVisible r.organization = false ∧ isVisible r.role = false := by
    intro r hr
    obtain ⟨horganization, hrole, -⟩ := isBlank_role_iff.mp hr
    simp [← Bool.not_eq_true, isVisible_iff, horganization, hrole]
  have hnamed : ∀ r : VolunteerRole, Entry.isBlank r = true →
      (isVisible r.organization && isVisible r.role) = false := by
    intro r hr
    simp [hblank r hr]
  have hrole : ∀ r : VolunteerRole, Entry.isBlank r = true → role r = [] := by
    intro r hr
    simp [role, hblank r hr]
  rw [volunteering, any_filled hnamed, flatMap_filled hrole, volunteering]

/-! ### Groups -/

/-- Names that show nothing are left out of groups. -/
theorem groupNames_filled {α : Type} [Entry α] {fallback : String} {item : α → Option String × Option String}
    (h : ∀ e, Entry.isBlank e = true → ¬ Shows (item e).2) (entries : List α) :
    groupNames fallback ((Entry.filled entries).map item) = groupNames fallback (entries.map item) := by
  have hvisible : ∀ e, Entry.isBlank e = true →
      ((fun item : Option String × Option String => isVisible item.2) ∘ item) e = false := by
    intro e he
    simpa [← isVisible_iff] using h e he
  rw [groupNames, groupNames, List.filter_map, List.filter_map, filter_filled hvisible]

theorem skills_filled (entries : List Skill) : skills (Entry.filled entries) = skills entries := by
  have hblank : ∀ s : Skill, Entry.isBlank s = true → ¬ Shows s.name := fun s hs => (isBlank_skill_iff.mp hs).1
  rw [skills, skillGroups, groupNames_filled hblank, ← skillGroups, ← skills]

theorem languages_filled (entries : List Language) : languages (Entry.filled entries) = languages entries := by
  have hblank : ∀ l : Language, Entry.isBlank l = true → ¬ Shows l.name := fun l hl => (isBlank_language_iff.mp hl).1
  rw [languages, languageGroups, groupNames_filled hblank, ← languageGroups, ← languages]

theorem hobbies_filled (entries : List Hobby) : hobbies (Entry.filled entries) = hobbies entries := by
  have hblank : ∀ h : Hobby, Entry.isBlank h = true → isVisible h.name = false := by
    intro h hh
    simp [← Bool.not_eq_true, isVisible_iff, (isBlank_hobby_iff.mp hh).1]
  have hnames : hobbyNames (Entry.filled entries) = hobbyNames entries := by
    rw [hobbyNames, filter_filled hblank, hobbyNames]
  rw [hobbies, hnames, hobbies]

/-! ### Courses of study -/

/-- A blank course of study has no line, and no date that would have to be judged. -/
theorem studyLine?_of_isBlank {s : Study} (h : Entry.isBlank s = true) (today : Date) :
    studyLine? today s = .ok none := by
  have hshows := not_studyShows_of_isBlank h
  have hdates : studyDates s today = .ok "" := by
    have hdate : ∀ value ∈ [s.startDate, s.graduationDate, s.endDate], display? value = "" := by
      intro value hvalue
      by_contra hne
      exact hshows (.inr (.inr ⟨value, hvalue, display?_ne_empty_iff.mp hne⟩))
    simp only [List.forall_mem_cons] at hdate
    obtain ⟨hstart, hgraduation, hend, -⟩ := hdate
    have hnone : display? none = "" := rfl
    simp [studyDates, firstShown, Calendar.study, hstart, hgraduation, hend, hnone]
  have hline : ∃ line, studyLine? today s = .ok line := by
    rw [studyLine?, hdates]
    exact ⟨_, rfl⟩
  obtain ⟨line, hline⟩ := hline
  rw [hline, (studyLine?_eq_none_iff hline).mpr hshows]

/-- The lines of courses of study. -/
def studyLines (studies : List Study) (today : Date) : Except FieldOverflow (List String) :=
  (studies.mapM (studyLine? today)).map (·.filterMap id)

theorem education_eq (studies : List Study) (today : Date) :
    education studies today = (studyLines studies today).map fun lines =>
      wrap (banner "Education") educationSection "Education" (lines.intersperse "") := by
  rw [education, studyLines]
  cases studies.mapM (studyLine? today) with
  | error cause => rfl
  | ok items => rfl

theorem studyLines_cons (s : Study) (studies : List Study) (today : Date) :
    studyLines (s :: studies) today = (do
      let line ← studyLine? today s
      let lines ← studyLines studies today
      return line.toList ++ lines) := by
  rw [studyLines, List.mapM_cons, studyLines]
  cases studyLine? today s with
  | error cause => rfl
  | ok line =>
    cases studies.mapM (studyLine? today) with
    | error cause => rfl
    | ok items => cases line <;> rfl

theorem studyLines_filled (studies : List Study) (today : Date) :
    studyLines (Entry.filled studies) today = studyLines studies today := by
  induction studies with
  | nil => rfl
  | cons s studies ih =>
    rw [Entry.filled] at ih ⊢
    cases hs : Entry.isBlank s with
    | false =>
      have hcons : (s :: studies).filter (fun e => !Entry.isBlank e) =
          s :: studies.filter fun e => !Entry.isBlank e := by
        simp [hs]
      rw [hcons, studyLines_cons, studyLines_cons, ih]
    | true =>
      have hcons : (s :: studies).filter (fun e => !Entry.isBlank e) = studies.filter fun e => !Entry.isBlank e := by
        simp [hs]
      rw [hcons, ih, studyLines_cons, studyLine?_of_isBlank hs]
      cases studyLines studies today with
      | error cause => rfl
      | ok lines => rfl

theorem education_filled (studies : List Study) (today : Date) :
    education (Entry.filled studies) today = education studies today := by
  rw [education_eq, studyLines_filled, ← education_eq]

end Vitae.Section

namespace Vitae.Layout

open Text Calendar Section

/-! ### Blocks -/

theorem standardSections_filled (r : Resume) (today : Date) : standardSections r.filled today = standardSections r today := by
  unfold standardSections
  simp only [Resume.filled, education_filled, skills_filled, experience_filled, projects_filled, certificates_filled,
    publications_filled, languages_filled, volunteering_filled, awards_filled, hobbies_filled, references_filled,
    extras_filled]

theorem blocks_standard_filled (r : Resume) (today : Date) :
    blocks .standard r.filled today = blocks .standard r today := by
  rw [blocks, standardBlocks, standardSections_filled, blocks, standardBlocks]

/-- **Blank entries.** One more entry in any section, at any place, changes no block of the standard layout when
it is blank, whatever the day. -/
theorem blocks_standard_padded (r r' : Resume) (h : Resume.Padded r r') (today : Date) :
    blocks .standard r' today = blocks .standard r today := by
  rw [← blocks_standard_filled r', h.filled_eq, blocks_standard_filled r]

/-- Two courses of study. -/
def twoStudies : Resume := { studies := [{ institution := some "ETH" }, { institution := some "MIT" }] }

/-- A course of study with nothing but white space in its fields. -/
def blankStudy : Study :=
  { degree := some " \t", graduationDate := some (.text "\u00a0"), coursework := ["", "\n"] }

theorem blocks_standard_padded_between :
    Entry.isBlank blankStudy = true ∧
      blocks .standard { studies := [{ institution := some "ETH" }, blankStudy, { institution := some "MIT" }] }
          ⟨2025, 1, 1, by decide⟩ = blocks .standard twoStudies ⟨2025, 1, 1, by decide⟩ := by
  have hblank : Entry.isBlank blankStudy = true := by decide
  have hbetween : OneMore ([{ institution := some "ETH" }] ++ [{ institution := some "MIT" }])
      ([{ institution := some "ETH" }] ++ blankStudy :: [{ institution := some "MIT" }]) := .intro hblank
  have hpadded : Resume.Padded twoStudies
      { twoStudies with studies := [{ institution := some "ETH" }, blankStudy, { institution := some "MIT" }] } :=
    .study hbetween
  exact ⟨hblank, blocks_standard_padded twoStudies _ hpadded _⟩

end Vitae.Layout
