import Vitae.Proofs.Calendar.Shown
import Vitae.Resume

/-!
# Blank entries

An entry is blank when all of its fields are: texts and dates are missing or nothing but white
space, lists hold nothing else, and truth values are false (`Entry.isBlank`). A blank entry
may stand anywhere in a section of a résumé (`Resume.Padded`), and it does not count among the
entries that are filled in (`Padded.filled_eq`).
-/

namespace Vitae

open Text Calendar

/-! ### Blank values -/

namespace Datum

/-- Whether a value of a field says nothing. -/
def isBlank : Datum → Bool
  | .null => true
  | .bool b => !b
  | .text s => isBlankText s
  | .list items => items.all fun item => match item with
    | .text s => isBlankText s
    | _ => false
  | _ => false

@[simp] theorem isBlank_ofText?_iff {value : Option String} : (ofText? value).isBlank = true ↔ ¬ Shows value := by
  cases value with
  | none => simp [ofText?, isBlank]
  | some s => simp [ofText?, isBlank, isBlankText_iff]

@[simp] theorem isBlank_ofDate?_iff {value : Option DateValue} :
    (ofDate? value).isBlank = true ↔ ¬ DateShows value := by
  match value with
  | none => simp [ofDate?, isBlank, DateShows]
  | some (.text s) => simp [ofDate?, isBlank, DateShows, isBlankText_iff]
  | some (.date d) | some (.moment t) => simp [ofDate?, isBlank, DateShows]

@[simp] theorem isBlank_bool_iff {b : Bool} : (bool b).isBlank = true ↔ b = false := by
  simp [isBlank]

@[simp] theorem isBlank_ofLines_iff {ls : List String} : (ofLines ls).isBlank = true ↔ ∀ l ∈ ls, ¬ Shown l := by
  simp [ofLines, isBlank, isBlankText_iff]

end Datum

/-! ### Blank entries -/

section

variable {α : Type} [Entry α]

/-- Whether all fields of an entry are blank. -/
def Entry.isBlank (e : α) : Bool := (toFields e).all fun field => field.2.isBlank

/-- The entries that are not blank. -/
def Entry.filled (entries : List α) : List α := entries.filter fun e => !isBlank e

/-- A list of entries with one more, which is blank, at any place. -/
inductive OneMore : List α → List α → Prop where
  /-- The entry stands between those before and those after its place. -/
  | intro {before after : List α} {e : α} (he : Entry.isBlank e = true) : OneMore (before ++ after) (before ++ e :: after)

theorem OneMore.filled_eq {entries entries' : List α} (h : OneMore entries entries') :
    Entry.filled entries' = Entry.filled entries := by
  cases h with
  | intro he => simp [Entry.filled, he]

end

/-! ### Blank entries of each kind -/

theorem isBlank_job_iff {j : Job} : Entry.isBlank j = true ↔
    ¬ Shows j.jobTitle ∧ ¬ Shows j.company ∧ ¬ Shows j.location ∧ ¬ DateShows j.startDate ∧
    ¬ DateShows j.endDate ∧ j.isCurrent = false ∧ (∀ line ∈ j.responsibilities, ¬ Shown line) ∧
    ∀ line ∈ j.achievements, ¬ Shown line := by
  simp [Entry.isBlank, Entry.toFields]

theorem isBlank_study_iff {s : Study} : Entry.isBlank s = true ↔
    ¬ Shows s.institution ∧ ¬ Shows s.degree ∧ ¬ Shows s.fieldOfStudy ∧ ¬ DateShows s.graduationDate ∧
    ¬ DateShows s.startDate ∧ ¬ DateShows s.endDate ∧ ¬ Shows s.location ∧ ¬ Shows s.gpa ∧
    ∀ line ∈ s.coursework, ¬ Shown line := by
  simp [Entry.isBlank, Entry.toFields]

theorem isBlank_skill_iff {s : Skill} : Entry.isBlank s = true ↔
    ¬ Shows s.name ∧ ¬ Shows s.category ∧ ¬ Shows s.proficiencyLevel := by
  simp [Entry.isBlank, Entry.toFields]

theorem isBlank_project_iff {p : Project} : Entry.isBlank p = true ↔
    ¬ Shows p.name ∧ (∀ line ∈ p.description, ¬ Shown line) ∧ (∀ line ∈ p.technologies, ¬ Shown line) ∧
    ¬ Shows p.url ∧ ¬ DateShows p.startDate ∧ ¬ DateShows p.endDate := by
  simp [Entry.isBlank, Entry.toFields]

theorem isBlank_certificate_iff {c : Certificate} : Entry.isBlank c = true ↔
    ¬ Shows c.name ∧ ¬ Shows c.issuer ∧ ¬ DateShows c.date ∧ ¬ DateShows c.expirationDate ∧
    ¬ Shows c.credentialId ∧ ¬ Shows c.url ∧ ¬ Shows c.description := by
  simp [Entry.isBlank, Entry.toFields]

theorem isBlank_language_iff {l : Language} : Entry.isBlank l = true ↔
    ¬ Shows l.name ∧ ¬ Shows l.proficiency := by
  simp [Entry.isBlank, Entry.toFields]

theorem isBlank_role_iff {r : VolunteerRole} : Entry.isBlank r = true ↔
    ¬ Shows r.organization ∧ ¬ Shows r.role ∧ ¬ Shows r.location ∧ ¬ DateShows r.startDate ∧
    ¬ DateShows r.endDate ∧ r.isCurrent = false ∧ ¬ Shows r.description ∧
    ∀ line ∈ r.achievements, ¬ Shown line := by
  simp [Entry.isBlank, Entry.toFields]

theorem isBlank_award_iff {a : Award} : Entry.isBlank a = true ↔
    ¬ Shows a.title ∧ ¬ Shows a.issuer ∧ ¬ DateShows a.date ∧ ¬ Shows a.description := by
  simp [Entry.isBlank, Entry.toFields]

theorem isBlank_publication_iff {p : Publication} : Entry.isBlank p = true ↔
    ¬ Shows p.title ∧ ¬ Shows p.publisher ∧ ¬ DateShows p.publicationDate ∧ ¬ Shows p.url ∧
    ¬ Shows p.description := by
  simp [Entry.isBlank, Entry.toFields]

theorem isBlank_referee_iff {r : Referee} : Entry.isBlank r = true ↔
    ¬ Shows r.name ∧ ¬ Shows r.title ∧ ¬ Shows r.company ∧ ¬ Shows r.email ∧ ¬ Shows r.phone ∧
    ¬ Shows r.relationship := by
  simp [Entry.isBlank, Entry.toFields]

theorem isBlank_hobby_iff {h : Hobby} : Entry.isBlank h = true ↔
    ¬ Shows h.name ∧ ¬ Shows h.description ∧ ¬ Shows h.category := by
  simp [Entry.isBlank, Entry.toFields]

theorem isBlank_extra_iff {s : ExtraSection} : Entry.isBlank s = true ↔
    ¬ Shows s.title ∧ ¬ Shows s.content := by
  simp [Entry.isBlank, Entry.toFields]

namespace Resume

/-- The résumé without the blank entries of its sections. -/
def filled (r : Resume) : Resume :=
  { r with
    jobs := Entry.filled r.jobs
    studies := Entry.filled r.studies
    skills := Entry.filled r.skills
    projects := Entry.filled r.projects
    certificates := Entry.filled r.certificates
    languages := Entry.filled r.languages
    volunteering := Entry.filled r.volunteering
    awards := Entry.filled r.awards
    publications := Entry.filled r.publications
    referees := Entry.filled r.referees
    hobbies := Entry.filled r.hobbies
    extras := Entry.filled r.extras }

/-- A résumé with one more entry in one of its sections, which is blank. -/
inductive Padded (r : Resume) : Resume → Prop where
  /-- A job. -/
  | job {entries : List Job} (h : OneMore r.jobs entries) : Padded r { r with jobs := entries }
  /-- A course of study. -/
  | study {entries : List Study} (h : OneMore r.studies entries) : Padded r { r with studies := entries }
  /-- A skill. -/
  | skill {entries : List Skill} (h : OneMore r.skills entries) : Padded r { r with skills := entries }
  /-- A project. -/
  | project {entries : List Project} (h : OneMore r.projects entries) : Padded r { r with projects := entries }
  /-- A certificate. -/
  | certificate {entries : List Certificate} (h : OneMore r.certificates entries) :
    Padded r { r with certificates := entries }
  /-- A language. -/
  | language {entries : List Language} (h : OneMore r.languages entries) : Padded r { r with languages := entries }
  /-- A voluntary role. -/
  | role {entries : List VolunteerRole} (h : OneMore r.volunteering entries) :
    Padded r { r with volunteering := entries }
  /-- An award. -/
  | award {entries : List Award} (h : OneMore r.awards entries) : Padded r { r with awards := entries }
  /-- A publication. -/
  | publication {entries : List Publication} (h : OneMore r.publications entries) :
    Padded r { r with publications := entries }
  /-- A person who gives a reference. -/
  | referee {entries : List Referee} (h : OneMore r.referees entries) : Padded r { r with referees := entries }
  /-- A hobby. -/
  | hobby {entries : List Hobby} (h : OneMore r.hobbies entries) : Padded r { r with hobbies := entries }
  /-- A section of free form. -/
  | extra {entries : List ExtraSection} (h : OneMore r.extras entries) : Padded r { r with extras := entries }

/-- A blank entry does not count among those that are filled in. -/
theorem Padded.filled_eq {r r' : Resume} (h : Padded r r') : r'.filled = r.filled := by
  cases h with
  | job h | study h | skill h | project h | certificate h | language h | role h | award h | publication h
  | referee h | hobby h | extra h => simp only [filled, h.filled_eq]

end Resume

end Vitae
