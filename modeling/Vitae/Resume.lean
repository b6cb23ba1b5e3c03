import Vitae.Log
import Vitae.Resume.Entry

/-!
# Résumés

A résumé as it is read from a record.  Only a record that is no mapping is refused; whatever else
does not fit is passed over.
-/

namespace Vitae

/-- Why a record cannot be read as a résumé or a part of one. -/
inductive RecordError where
  /-- A part of a résumé is given by something that is no mapping. -/
  | entryNotMapping (label kind : String)
  /-- The record is no mapping. -/
  | notMapping (kind : String)
  /-- The record file cannot be read. -/
  | unreadable (path reason : String)
  deriving DecidableEq, Repr

/-- The wording of an error. -/
def RecordError.message : RecordError → String
  | .entryNotMapping label kind => label ++ " expects a mapping, got " ++ kind
  | .notMapping kind => "Resume record must be a mapping, got " ++ kind
  | .unreadable path reason => "Could not parse resume record " ++ path ++ ": " ++ reason

namespace Entry

variable {α : Type} [Entry α]

/-- A part that is given by a mapping, or by nothing. -/
def ofDatum? (α : Type) [Entry α] : Datum → Except RecordError α
  | .null => .ok (ofFields [])
  | .map pairs => .ok (ofFields (Fields.ofPairs pairs))
  | d => .error (.entryNotMapping (label α) d.kind)

/-- The part that an item of a list stands for: a mapping, or a text that is the name of the part.
Any other item stands for none. -/
def ofItem? : Datum → Option α
  | .map pairs => some (ofFields (Fields.ofPairs pairs))
  | .text s => if Text.trim s = "" then none else (ofName? (α := α)).map fun f => f s
  | _ => none

/-- The parts that a list holds; a value that is no list holds none. -/
def ofList (α : Type) [Entry α] (d : Datum) : List α := (d.items?.getD []).filterMap ofItem?

/-- The names of the fields whose values are turned into texts: all that are no truth values. -/
def textNames (α : Type) [Entry α] : List String :=
  (toFields (ofFields [] : α)).filterMap fun p => match p.2 with
    | .bool _ => none
    | _ => some p.1

/-- Whether all keys of a part have a text, and all values that are turned into one. -/
def isReadable (α : Type) [Entry α] (pairs : List (Datum × Datum)) : Bool :=
  pairs.all fun p => p.1.isShown &&
    (!(textNames α).contains (snakeCase p.1.plain) || p.2.isShown)

/-- A part as a mapping. -/
def toDatum (e : α) : Datum := .map ((toFields e).map fun p => (.text p.1, p.2))

end Entry

/-- A résumé. -/
structure Resume where
  /-- The person. -/
  person : Person := {}
  /-- The professional summary. -/
  summary : Option String := none
  /-- The jobs. -/
  jobs : List Job := []
  /-- The courses of study. -/
  studies : List Study := []
  /-- The skills. -/
  skills : List Skill := []
  /-- The projects. -/
  projects : List Project := []
  /-- The certificates. -/
  certificates : List Certificate := []
  /-- The languages. -/
  languages : List Language := []
  /-- The voluntary roles. -/
  volunteering : List VolunteerRole := []
  /-- The awards. -/
  awards : List Award := []
  /-- The publications. -/
  publications : List Publication := []
  /-- The people who give a reference. -/
  referees : List Referee := []
  /-- The hobbies. -/
  hobbies : List Hobby := []
  /-- The sections of free form. -/
  extras : List ExtraSection := []
  /-- The address that is printed at the end. -/
  trackingUrl : Option String := none
  deriving DecidableEq, Repr, Inhabited

namespace Resume

/-- The entries of the section with the given name. -/
def entriesOf (α : Type) [Entry α] (fields : Fields) (name : String) : List α :=
  (fields.get? name).elim [] (Entry.ofList α)

/-- The person of a record, if it is given by a mapping. -/
def personOf (fields : Fields) : Person :=
  match fields.get? "personal_info" with
  | some (.map pairs) => Entry.ofFields (Fields.ofPairs pairs)
  | _ => {}

/-- The résumé with the given fields. -/
def ofFields (fields : Fields) : Resume where
  person := personOf fields
  summary := fields.text "professional_summary"
  jobs := entriesOf Job fields "work_experience"
  studies := entriesOf Study fields "education"
  skills := entriesOf Skill fields "skills"
  projects := entriesOf Project fields "projects"
  certificates := entriesOf Certificate fields "certifications"
  languages := entriesOf Language fields "languages"
  volunteering := entriesOf VolunteerRole fields "volunteer_experience"
  awards := entriesOf Award fields "awards"
  publications := entriesOf Publication fields "publications"
  referees := entriesOf Referee fields "references"
  hobbies := entriesOf Hobby fields "hobbies"
  extras := entriesOf ExtraSection fields "additional_sections"
  trackingUrl := fields.text "tracking_url"

/-- The warning about a person that is given by something else than a mapping. -/
def warnings (fields : Fields) : Log :=
  match fields.get? "personal_info" with
  | none | some .null | some (.map _) => []
  | some d => [.template .warning
      ("Ignoring personalInfo of type " ++ d.kind ++ "; expected a mapping")]

/-- The résumé of a record, and the warnings that come with it. -/
def ofDatum? : Datum → Except RecordError (Resume × Log)
  | .map pairs => .ok (ofFields (Fields.ofPairs pairs), warnings (Fields.ofPairs pairs))
  | d => .error (.notMapping d.kind)

/-! ### Numbers that are too long

A number may be too long to have a text.  In a field that is passed over, or that is a truth value,
it does no harm. -/

/-- Whether the keys of a record have a text. -/
def areKeysReadable : Datum → Bool
  | .map pairs => pairs.all fun p => p.1.isShown
  | _ => true

/-- Whether the parts of a kind that stand in a section can be read. -/
def isSectionReadable (α : Type) [Entry α] (fields : Fields) (name : String) : Bool :=
  (((fields.get? name).bind Datum.items?).getD []).all fun item => match item with
    | .map pairs => Entry.isReadable α pairs
    | _ => true

/-- Whether everything in a record can be read that a résumé takes from it. -/
def isReadable (fields : Fields) : Bool :=
  ((fields.get? "personal_info").bind Datum.pairs?).all (Entry.isReadable Person) &&
  (fields.get? "professional_summary").all Datum.isShown &&
  (fields.get? "tracking_url").all Datum.isShown &&
  isSectionReadable Job fields "work_experience" &&
  isSectionReadable Study fields "education" &&
  isSectionReadable Skill fields "skills" &&
  isSectionReadable Project fields "projects" &&
  isSectionReadable Certificate fields "certifications" &&
  isSectionReadable Language fields "languages" &&
  isSectionReadable VolunteerRole fields "volunteer_experience" &&
  isSectionReadable Award fields "awards" &&
  isSectionReadable Publication fields "publications" &&
  isSectionReadable Referee fields "references" &&
  isSectionReadable Hobby fields "hobbies" &&
  isSectionReadable ExtraSection fields "additional_sections"

/-! ### Writing -/

/-- A list of entries, written as mappings. -/
def sectionDatum {α : Type} [Entry α] (entries : List α) : Datum :=
  .list (entries.map Entry.toDatum)

/-- The fields of a résumé, all of them, under their names. -/
def toFields (r : Resume) : Fields :=
  [("personal_info", Entry.toDatum r.person),
   ("professional_summary", .ofText? r.summary),
   ("work_experience", sectionDatum r.jobs),
   ("education", sectionDatum r.studies),
   ("skills", sectionDatum r.skills),
   ("projects", sectionDatum r.projects),
   ("certifications", sectionDatum r.certificates),
   ("languages", sectionDatum r.languages),
   ("volunteer_experience", sectionDatum r.volunteering),
   ("awards", sectionDatum r.awards),
   ("publications", sectionDatum r.publications),
   ("references", sectionDatum r.referees),
   ("hobbies", sectionDatum r.hobbies),
   ("additional_sections", sectionDatum r.extras),
   ("tracking_url", .ofText? r.trackingUrl)]

end Resume

end Vitae
