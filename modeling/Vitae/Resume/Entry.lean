import Vitae.Resume.Field

/-!
# Entries of a résumé

The parts of a résumé, each with the fields that it may have; all of them are optional.  `Entry`
says how a part is read from the fields of a record and how it is written back.
-/

namespace Vitae

open Calendar

/-- A part of a résumé that is read from the fields of a record. -/
class Entry (α : Type) where
  /-- What the part is called in messages. -/
  label : String
  /-- The part with the given fields. -/
  ofFields : Fields → α
  /-- The fields of a part, all of them, under their names. -/
  toFields : α → Fields
  /-- The part that has only a name, where parts of the kind have one. -/
  ofName? : Option (String → α) := none

/-- The person, and how to reach them.  The fields from the identity number on are shown by the
regional layout only. -/
structure Person where
  /-- The first name. -/
  firstName : Option String := none
  /-- The last name. -/
  lastName : Option String := none
  /-- The e-mail address. -/
  email : Option String := none
  /-- The phone number. -/
  phone : Option String := none
  /-- The place of residence. -/
  location : Option String := none
  /-- The address of a LinkedIn page. -/
  linkedinUrl : Option String := none
  /-- The address of a portfolio. -/
  portfolioUrl : Option String := none
  /-- The address of a GitHub page. -/
  githubUrl : Option String := none
  /-- The address of a web site. -/
  websiteUrl : Option String := none
  /-- The professional title. -/
  professionalTitle : Option String := none
  /-- The identity number. -/
  identityNumber : Option String := none
  /-- The date of birth. -/
  dateOfBirth : Option DateValue := none
  /-- The gender. -/
  gender : Option String := none
  /-- The nationality. -/
  nationality : Option String := none
  /-- The marital status. -/
  maritalStatus : Option String := none
  /-- The language spoken at home. -/
  homeLanguage : Option String := none
  /-- Other languages. -/
  otherLanguages : Option String := none
  /-- The residential address. -/
  residentialAddress : Option String := none
  deriving DecidableEq, Repr, Inhabited

instance : Entry Person where
  label := "PersonalInfo"
  ofFields fields :=
    { firstName := fields.text "first_name"
      lastName := fields.text "last_name"
      email := fields.text "email"
      phone := fields.text "phone"
      location := fields.text "location"
      linkedinUrl := fields.text "linkedin_url"
      portfolioUrl := fields.text "portfolio_url"
      githubUrl := fields.text "github_url"
      websiteUrl := fields.text "website_url"
      professionalTitle := fields.text "professional_title"
      identityNumber := fields.text "identity_number"
      dateOfBirth := fields.date "date_of_birth"
      gender := fields.text "gender"
      nationality := fields.text "nationality"
      maritalStatus := fields.text "marital_status"
      homeLanguage := fields.text "home_language"
      otherLanguages := fields.text "other_languages"
      residentialAddress := fields.text "residential_address" }
  toFields e :=
    [("first_name", .ofText? e.firstName),
     ("last_name", .ofText? e.lastName),
     ("email", .ofText? e.email),
     ("phone", .ofText? e.phone),
     ("location", .ofText? e.location),
     ("linkedin_url", .ofText? e.linkedinUrl),
     ("portfolio_url", .ofText? e.portfolioUrl),
     ("github_url", .ofText? e.githubUrl),
     ("website_url", .ofText? e.websiteUrl),
     ("professional_title", .ofText? e.professionalTitle),
     ("identity_number", .ofText? e.identityNumber),
     ("date_of_birth", .ofDate? e.dateOfBirth),
     ("gender", .ofText? e.gender),
     ("nationality", .ofText? e.nationality),
     ("marital_status", .ofText? e.maritalStatus),
     ("home_language", .ofText? e.homeLanguage),
     ("other_languages", .ofText? e.otherLanguages),
     ("residential_address", .ofText? e.residentialAddress)]

/-- A job.  One that goes on is shown up to the present, whatever its end date. -/
structure Job where
  /-- The position. -/
  jobTitle : Option String := none
  /-- The employer. -/
  company : Option String := none
  /-- The place of work. -/
  location : Option String := none
  /-- The first day. -/
  startDate : Option DateValue := none
  /-- The last day. -/
  endDate : Option DateValue := none
  /-- Whether the job goes on. -/
  isCurrent : Bool := false
  /-- What there was to do. -/
  responsibilities : List String := []
  /-- What was achieved. -/
  achievements : List String := []
  deriving DecidableEq, Repr, Inhabited

instance : Entry Job where
  label := "WorkExperienceEntry"
  ofFields fields :=
    { jobTitle := fields.text "job_title"
      company := fields.text "company"
      location := fields.text "location"
      startDate := fields.date "start_date"
      endDate := fields.date "end_date"
      isCurrent := fields.flag "is_current_job"
      responsibilities := fields.lines "responsibilities"
      achievements := fields.lines "achievements" }
  toFields e :=
    [("job_title", .ofText? e.jobTitle),
     ("company", .ofText? e.company),
     ("location", .ofText? e.location),
     ("start_date", .ofDate? e.startDate),
     ("end_date", .ofDate? e.endDate),
     ("is_current_job", .bool e.isCurrent),
     ("responsibilities", .ofLines e.responsibilities),
     ("achievements", .ofLines e.achievements)]

/-- A course of study. -/
structure Study where
  /-- The school or university. -/
  institution : Option String := none
  /-- The degree. -/
  degree : Option String := none
  /-- The field of study. -/
  fieldOfStudy : Option String := none
  /-- The graduation. -/
  graduationDate : Option DateValue := none
  /-- The first day. -/
  startDate : Option DateValue := none
  /-- The last day. -/
  endDate : Option DateValue := none
  /-- The place of study. -/
  location : Option String := none
  /-- The grade. -/
  gpa : Option String := none
  /-- The courses taken. -/
  coursework : List String := []
  deriving DecidableEq, Repr, Inhabited

instance : Entry Study where
  label := "EducationEntry"
  ofFields fields :=
    { institution := fields.text "institution"
      degree := fields.text "degree"
      fieldOfStudy := fields.text "field_of_study"
      graduationDate := fields.date "graduation_date"
      startDate := fields.date "start_date"
      endDate := fields.date "end_date"
      location := fields.text "location"
      gpa := fields.text "gpa"
      coursework := fields.lines "coursework" }
  toFields e :=
    [("institution", .ofText? e.institution),
     ("degree", .ofText? e.degree),
     ("field_of_study", .ofText? e.fieldOfStudy),
     ("graduation_date", .ofDate? e.graduationDate),
     ("start_date", .ofDate? e.startDate),
     ("end_date", .ofDate? e.endDate),
     ("location", .ofText? e.location),
     ("gpa", .ofText? e.gpa),
     ("coursework", .ofLines e.coursework)]

/-- A skill. -/
structure Skill where
  /-- The skill. -/
  name : Option String := none
  /-- The group that it is shown in. -/
  category : Option String := none
  /-- How well it is mastered. -/
  proficiencyLevel : Option String := none
  deriving DecidableEq, Repr, Inhabited

instance : Entry Skill where
  label := "SkillEntry"
  ofFields fields :=
    { name := fields.text "name"
      category := fields.text "category"
      proficiencyLevel := fields.text "proficiency_level" }
  toFields e :=
    [("name", .ofText? e.name),
     ("category", .ofText? e.category),
     ("proficiency_level", .ofText? e.proficiencyLevel)]
  ofName? := some fun name => { name := some name }

/-- A project.  The first line of its description that shows something is its headline. -/
structure Project where
  /-- The name. -/
  name : Option String := none
  /-- What it is about. -/
  description : List String := []
  /-- What it is made with. -/
  technologies : List String := []
  /-- Its address. -/
  url : Option String := none
  /-- The first day. -/
  startDate : Option DateValue := none
  /-- The last day. -/
  endDate : Option DateValue := none
  deriving DecidableEq, Repr, Inhabited

instance : Entry Project where
  label := "ProjectEntry"
  ofFields fields :=
    { name := fields.text "name"
      description := fields.lines "description"
      technologies := fields.lines "technologies"
      url := fields.text "url"
      startDate := fields.date "start_date"
      endDate := fields.date "end_date" }
  toFields e :=
    [("name", .ofText? e.name),
     ("description", .ofLines e.description),
     ("technologies", .ofLines e.technologies),
     ("url", .ofText? e.url),
     ("start_date", .ofDate? e.startDate),
     ("end_date", .ofDate? e.endDate)]
  ofName? := some fun name => { name := some name }

/-- A certificate. -/
structure Certificate where
  /-- The name. -/
  name : Option String := none
  /-- Who issued it. -/
  issuer : Option String := none
  /-- When it was issued. -/
  date : Option DateValue := none
  /-- When it expires. -/
  expirationDate : Option DateValue := none
  /-- Its number. -/
  credentialId : Option String := none
  /-- Its address. -/
  url : Option String := none
  /-- What it is about. -/
  description : Option String := none
  deriving DecidableEq, Repr, Inhabited

instance : Entry Certificate where
  label := "CertificationEntry"
  ofFields fields :=
    { name := fields.text "name"
      issuer := fields.text "issuer"
      date := fields.date "date"
      expirationDate := fields.date "expiration_date"
      credentialId := fields.text "credential_id"
      url := fields.text "url"
      description := fields.text "description" }
  toFields e :=
    [("name", .ofText? e.name),
     ("issuer", .ofText? e.issuer),
     ("date", .ofDate? e.date),
     ("expiration_date", .ofDate? e.expirationDate),
     ("credential_id", .ofText? e.credentialId),
     ("url", .ofText? e.url),
     ("description", .ofText? e.description)]
  ofName? := some fun name => { name := some name }

/-- A language. -/
structure Language where
  /-- The language. -/
  name : Option String := none
  /-- How well it is spoken. -/
  proficiency : Option String := none
  deriving DecidableEq, Repr, Inhabited

instance : Entry Language where
  label := "LanguageEntry"
  ofFields fields :=
    { name := fields.text "name"
      proficiency := fields.text "proficiency" }
  toFields e :=
    [("name", .ofText? e.name),
     ("proficiency", .ofText? e.proficiency)]
  ofName? := some fun name => { name := some name }

/-- A voluntary role.  One that goes on is shown up to the present. -/
structure VolunteerRole where
  /-- The organization. -/
  organization : Option String := none
  /-- The role. -/
  role : Option String := none
  /-- The place. -/
  location : Option String := none
  /-- The first day. -/
  startDate : Option DateValue := none
  /-- The last day. -/
  endDate : Option DateValue := none
  /-- Whether the role goes on. -/
  isCurrent : Bool := false
  /-- What it is about. -/
  description : Option String := none
  /-- What was achieved. -/
  achievements : List String := []
  deriving DecidableEq, Repr, Inhabited

instance : Entry VolunteerRole where
  label := "VolunteerEntry"
  ofFields fields :=
    { organization := fields.text "organization"
      role := fields.text "role"
      location := fields.text "location"
      startDate := fields.date "start_date"
      endDate := fields.date "end_date"
      isCurrent := fields.flag "is_current_role"
      description := fields.text "description"
      achievements := fields.lines "achievements" }
  toFields e :=
    [("organization", .ofText? e.organization),
     ("role", .ofText? e.role),
     ("location", .ofText? e.location),
     ("start_date", .ofDate? e.startDate),
     ("end_date", .ofDate? e.endDate),
     ("is_current_role", .bool e.isCurrent),
     ("description", .ofText? e.description),
     ("achievements", .ofLines e.achievements)]

/-- An award. -/
structure Award where
  /-- The award. -/
  title : Option String := none
  /-- Who gave it. -/
  issuer : Option String := none
  /-- When it was given. -/
  date : Option DateValue := none
  /-- What it is for. -/
  description : Option String := none
  deriving DecidableEq, Repr, Inhabited

instance : Entry Award where
  label := "AwardEntry"
  ofFields fields :=
    { title := fields.text "title"
      issuer := fields.text "issuer"
      date := fields.date "date"
      description := fields.text "description" }
  toFields e :=
    [("title", .ofText? e.title),
     ("issuer", .ofText? e.issuer),
     ("date", .ofDate? e.date),
     ("description", .ofText? e.description)]

/-- A publication. -/
structure Publication where
  /-- The title. -/
  title : Option String := none
  /-- The publisher. -/
  publisher : Option String := none
  /-- When it came out. -/
  publicationDate : Option DateValue := none
  /-- Its address. -/
  url : Option String := none
  /-- What it is about. -/
  description : Option String := none
  deriving DecidableEq, Repr, Inhabited

instance : Entry Publication where
  label := "PublicationEntry"
  ofFields fields :=
    { title := fields.text "title"
      publisher := fields.text "publisher"
      publicationDate := fields.date "publication_date"
      url := fields.text "url"
      description := fields.text "description" }
  toFields e :=
    [("title", .ofText? e.title),
     ("publisher", .ofText? e.publisher),
     ("publication_date", .ofDate? e.publicationDate),
     ("url", .ofText? e.url),
     ("description", .ofText? e.description)]

/-- A person who gives a reference. -/
structure Referee where
  /-- The name. -/
  name : Option String := none
  /-- The position. -/
  title : Option String := none
  /-- The employer. -/
  company : Option String := none
  /-- The e-mail address. -/
  email : Option String := none
  /-- The phone number. -/
  phone : Option String := none
  /-- The relationship to the applicant. -/
  relationship : Option String := none
  deriving DecidableEq, Repr, Inhabited

instance : Entry Referee where
  label := "ReferenceEntry"
  ofFields fields :=
    { name := fields.text "name"
      title := fields.text "title"
      company := fields.text "company"
      email := fields.text "email"
      phone := fields.text "phone"
      relationship := fields.text "relationship" }
  toFields e :=
    [("name", .ofText? e.name),
     ("title", .ofText? e.title),
     ("company", .ofText? e.company),
     ("email", .ofText? e.email),
     ("phone", .ofText? e.phone),
     ("relationship", .ofText? e.relationship)]
  ofName? := some fun name => { name := some name }

/-- A hobby. -/
structure Hobby where
  /-- The hobby. -/
  name : Option String := none
  /-- What it is about. -/
  description : Option String := none
  /-- Its kind. -/
  category : Option String := none
  deriving DecidableEq, Repr, Inhabited

instance : Entry Hobby where
  label := "HobbyEntry"
  ofFields fields :=
    { name := fields.text "name"
      description := fields.text "description"
      category := fields.text "category" }
  toFields e :=
    [("name", .ofText? e.name),
     ("description", .ofText? e.description),
     ("category", .ofText? e.category)]
  ofName? := some fun name => { name := some name }

/-- A section of free form. -/
structure ExtraSection where
  /-- The heading. -/
  title : Option String := none
  /-- The text. -/
  content : Option String := none
  deriving DecidableEq, Repr, Inhabited

instance : Entry ExtraSection where
  label := "AdditionalSection"
  ofFields fields :=
    { title := fields.text "title"
      content := fields.text "content" }
  toFields e :=
    [("title", .ofText? e.title),
     ("content", .ofText? e.content)]

end Vitae
