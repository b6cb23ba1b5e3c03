import Vitae.Calendar.Tense
import Vitae.Proofs.Text.Trim
import Vitae.Resume

/-!
# Trimmed résumés

A résumé is trimmed when every text and every textual date in it stands without outer
blanks, and those that show nothing are missing. A part is trimmed by way of its fields,
all of them (`Entry.trimmed`); for each kind of part this comes to the part with every
field trimmed.
-/

namespace Vitae

open Text Calendar

/-! ### Dates -/

namespace Calendar

/-- The content of a date field without outer blanks; nothing if it shows nothing. -/
def trimmedDate? : Option DateValue → Option DateValue
  | some (.text s) => (trimmed? (some s)).map .text
  | value => value

@[simp] theorem display?_trimmedDate? (value : Option DateValue) :
    display? (trimmedDate? value) = display? value := by
  match value with
  | none | some (.date _) | some (.moment _) => rfl
  | some (.text s) =>
    exact apply_trimmed? (f := fun v => display? (v.map .text)) (by simp [display?, DateValue.display])
      (by decide) (some s)

/-- An empty text names no day, and a missing one does not either. -/
theorem isFuture_trimmedDate? (value : Option DateValue) (today : Date) :
    isFuture (trimmedDate? value) today = isFuture value today := by
  match value with
  | none | some (.date _) | some (.moment _) => rfl
  | some (.text s) =>
    have hempty : Reading.ofText "" = .noDay := by decide
    exact apply_trimmed? (f := fun v => isFuture (v.map .text) today)
      (by simp [isFuture, DateValue.reading, Reading.ofText])
      (by simp [isFuture, DateValue.reading, hempty]) (some s)

@[simp] theorem range_trimmedDate?_left (start stop : Option DateValue) (isCurrent : Bool) :
    range (trimmedDate? start) stop isCurrent = range start stop isCurrent := by
  rw [range, display?_trimmedDate?, range]

@[simp] theorem range_trimmedDate?_right (start stop : Option DateValue) (isCurrent : Bool) :
    range start (trimmedDate? stop) isCurrent = range start stop isCurrent := by
  rw [range, display?_trimmedDate?, range]

@[simp] theorem study_trimmedDate? (start graduation : Option DateValue) (today : Date) :
    study (trimmedDate? start) (trimmedDate? graduation) today = study start graduation today := by
  simp only [study, pastStudy, isFuture_trimmedDate?, range_trimmedDate?_left, range_trimmedDate?_right,
    display?_trimmedDate?]

end Calendar

/-! ### Fields -/

namespace Datum

/-- An item of a list without outer blanks; nothing if it is a text that shows nothing. -/
def trimmedItem? : Datum → Option Datum
  | .text s => (trimmed? (some s)).map .text
  | d => some d

/-- The value of a field without outer blanks. -/
def trimmed : Datum → Datum
  | .text s => ofText? (trimmed? (some s))
  | .list items => .list (items.filterMap trimmedItem?)
  | d => d

@[simp] theorem toText?_trimmed (value : Option String) : (ofText? value).trimmed.toText? = trimmed? value := by
  cases value with
  | none => rfl
  | some s =>
    change (ofText? (trimmed? (some s))).toText? = trimmed? (some s)
    cases trimmed? (some s) <;> rfl

@[simp] theorem toDate?_trimmed (value : Option DateValue) :
    (ofDate? value).trimmed.toDate? = trimmedDate? value := by
  match value with
  | none | some (.date _) | some (.moment _) => rfl
  | some (.text s) =>
    change (ofText? (trimmed? (some s))).toDate? = (trimmed? (some s)).map .text
    cases trimmed? (some s) <;> rfl

@[simp] theorem toLines_trimmed (ls : List String) : (ofLines ls).trimmed.toLines = trimmedLines ls := by
  change ((ls.map text).filterMap trimmedItem?).filterMap plain? = trimmedLines ls
  induction ls with
  | nil => rfl
  | cons l ls ih =>
    rw [List.map_cons, List.filterMap_cons, trimmedItem?]
    by_cases h : trim l = ""
    · rw [trimmed?_some_of_eq h]
      simpa [trimmedLines, h] using ih
    · rw [trimmed?_some_of_ne h]
      simpa [trimmedLines, h, plain?, plain] using ih

@[simp] theorem toBool_trimmed (b : Bool) : (bool b).trimmed.toBool = b := rfl

end Datum

namespace Entry

/-- A part with all its fields trimmed. -/
def trimmed {α : Type} [Entry α] (e : α) : α := ofFields ((toFields e).map fun p => (p.1, p.2.trimmed))

theorem trimmed_person (p : Person) : trimmed p =
    { firstName := trimmed? p.firstName
      lastName := trimmed? p.lastName
      email := trimmed? p.email
      phone := trimmed? p.phone
      location := trimmed? p.location
      linkedinUrl := trimmed? p.linkedinUrl
      portfolioUrl := trimmed? p.portfolioUrl
      githubUrl := trimmed? p.githubUrl
      websiteUrl := trimmed? p.websiteUrl
      professionalTitle := trimmed? p.professionalTitle
      identityNumber := trimmed? p.identityNumber
      dateOfBirth := trimmedDate? p.dateOfBirth
      gender := trimmed? p.gender
      nationality := trimmed? p.nationality
      maritalStatus := trimmed? p.maritalStatus
      homeLanguage := trimmed? p.homeLanguage
      otherLanguages := trimmed? p.otherLanguages
      residentialAddress := trimmed? p.residentialAddress } := by
  simp [trimmed, toFields, ofFields, Fields.text, Fields.date, Fields.get?]

theorem trimmed_job (j : Job) : trimmed j =
    { jobTitle := trimmed? j.jobTitle
      company := trimmed? j.company
      location := trimmed? j.location
      startDate := trimmedDate? j.startDate
      endDate := trimmedDate? j.endDate
      isCurrent := j.isCurrent
      responsibilities := trimmedLines j.responsibilities
      achievements := trimmedLines j.achievements } := by
  simp [trimmed, toFields, ofFields, Fields.text, Fields.date, Fields.lines, Fields.flag, Fields.get?]

theorem trimmed_study (s : Study) : trimmed s =
    { institution := trimmed? s.institution
      degree := trimmed? s.degree
      fieldOfStudy := trimmed? s.fieldOfStudy
      graduationDate := trimmedDate? s.graduationDate
      startDate := trimmedDate? s.startDate
      endDate := trimmedDate? s.endDate
      location := trimmed? s.location
      gpa := trimmed? s.gpa
      coursework := trimmedLines s.coursework } := by
  simp [trimmed, toFields, ofFields, Fields.text, Fields.date, Fields.lines, Fields.get?]

theorem trimmed_skill (s : Skill) : trimmed s =
    { name := trimmed? s.name
      category := trimmed? s.category
      proficiencyLevel := trimmed? s.proficiencyLevel } := by
  simp [trimmed, toFields, ofFields, Fields.text, Fields.get?]

example : trimmed { name := some " Lean\n", category := some "\t" : Skill } = { name := some "Lean" } := by decide

theorem trimmed_project (p : Project) : trimmed p =
    { name := trimmed? p.name
      description := trimmedLines p.description
      technologies := trimmedLines p.technologies
      url := trimmed? p.url
      startDate := trimmedDate? p.startDate
      endDate := trimmedDate? p.endDate } := by
  simp [trimmed, toFields, ofFields, Fields.text, Fields.date, Fields.lines, Fields.get?]

theorem trimmed_certificate (c : Certificate) : trimmed c =
    { name := trimmed? c.name
      issuer := trimmed? c.issuer
      date := trimmedDate? c.date
      expirationDate := trimmedDate? c.expirationDate
      credentialId := trimmed? c.credentialId
      url := trimmed? c.url
      description := trimmed? c.description } := by
  simp [trimmed, toFields, ofFields, Fields.text, Fields.date, Fields.get?]

theorem trimmed_language (l : Language) : trimmed l =
    { name := trimmed? l.name
      proficiency := trimmed? l.proficiency } := by
  simp [trimmed, toFields, ofFields, Fields.text, Fields.get?]

theorem trimmed_volunteerRole (r : VolunteerRole) : trimmed r =
    { organization := trimmed? r.organization
      role := trimmed? r.role
      location := trimmed? r.location
      startDate := trimmedDate? r.startDate
      endDate := trimmedDate? r.endDate
      isCurrent := r.isCurrent
      description := trimmed? r.description
      achievements := trimmedLines r.achievements } := by
  simp [trimmed, toFields, ofFields, Fields.text, Fields.date, Fields.lines, Fields.flag, Fields.get?]

theorem trimmed_award (a : Award) : trimmed a =
    { title := trimmed? a.title
      issuer := trimmed? a.issuer
      date := trimmedDate? a.date
      description := trimmed? a.description } := by
  simp [trimmed, toFields, ofFields, Fields.text, Fields.date, Fields.get?]

theorem trimmed_publication (p : Publication) : trimmed p =
    { title := trimmed? p.title
      publisher := trimmed? p.publisher
      publicationDate := trimmedDate? p.publicationDate
      url := trimmed? p.url
      description := trimmed? p.description } := by
  simp [trimmed, toFields, ofFields, Fields.text, Fields.date, Fields.get?]

theorem trimmed_referee (r : Referee) : trimmed r =
    { name := trimmed? r.name
      title := trimmed? r.title
      company := trimmed? r.company
      email := trimmed? r.email
      phone := trimmed? r.phone
      relationship := trimmed? r.relationship } := by
  simp [trimmed, toFields, ofFields, Fields.text, Fields.get?]

theorem trimmed_hobby (h : Hobby) : trimmed h =
    { name := trimmed? h.name
      description := trimmed? h.description
      category := trimmed? h.category } := by
  simp [trimmed, toFields, ofFields, Fields.text, Fields.get?]

theorem trimmed_extraSection (s : ExtraSection) : trimmed s =
    { title := trimmed? s.title
      content := trimmed? s.content } := by
  simp [trimmed, toFields, ofFields, Fields.text, Fields.get?]


end Entry

/-! ### Résumés -/

/-- A résumé with all its texts and dates trimmed. -/
def Resume.trimmed (r : Resume) : Resume where
  person := Entry.trimmed r.person
  summary := trimmed? r.summary
  jobs := r.jobs.map Entry.trimmed
  studies := r.studies.map Entry.trimmed
  skills := r.skills.map Entry.trimmed
  projects := r.projects.map Entry.trimmed
  certificates := r.certificates.map Entry.trimmed
  languages := r.languages.map Entry.trimmed
  volunteering := r.volunteering.map Entry.trimmed
  awards := r.awards.map Entry.trimmed
  publications := r.publications.map Entry.trimmed
  referees := r.referees.map Entry.trimmed
  hobbies := r.hobbies.map Entry.trimmed
  extras := r.extras.map Entry.trimmed
  trackingUrl := trimmed? r.trackingUrl

end Vitae
