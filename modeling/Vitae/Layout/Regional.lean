import Vitae.Calendar.Range
import Vitae.Resume
import Vitae.Section.Education
import Vitae.Section.Groups

/-!
# The regional layout

A curriculum vitae in the South African style: a table with name, address and identity number at its
head, a block of personal information, references, and a closing declaration.  Its commands take
their arguments by position, so a cell without a value is empty or holds a fixed wording.
-/

namespace Vitae.Regional

open Text Latex Calendar Section

/-- What stands for a value that is not given. -/
def unavailable : String := "Available upon request"

/-- The place that is shown for an entry without one. -/
def defaultLocation : String := "South Africa"

/-- A value if it shows something, and a fixed wording otherwise. -/
def orElse (value : Option String) (wording : String) : Option String :=
  if isVisible value then value else some wording

/-- Indented subheading with four cells, all of them already escaped. -/
def subheading (topLeft topRight bottomLeft bottomRight : String) : Block :=
  ["    \\resumeSubheading",
   "      " ++ braced topLeft ++ braced topRight,
   "      " ++ braced bottomLeft ++ braced bottomRight]

/-- A line with a label and a value. -/
def subItem (label : String) (value : Option String) : String :=
  "    \\resumeSubItem" ++ braced (escape label) ++ braced (escape? value)

/-- Items without a title, in a list of their own; no list without items. -/
def itemList (items : List String) : Block :=
  if items = [] then []
  else ["      \\resumeItemListStart"] ++
    items.map (fun item => "        \\resumeItemWithoutTitle" ++ braced item) ++
    ["      \\resumeItemListEnd"]

/-- A section with its body in a list; nothing without a body. -/
def listSection (title : String) (body : Block) : Block :=
  if body = [] then []
  else ["\\section" ++ braced title, "  \\resumeSubHeadingListStart"] ++ body ++
    ["  \\resumeSubHeadingListEnd", ""]

/-- The full name. -/
def fullName (r : Resume) : String := trimJoin " " [r.person.firstName, r.person.lastName]

/-- The lines of the address that show something, trimmed: of the residential address, or of the
place of residence when there is none. -/
def addressLines (p : Person) : List String :=
  let address := if isVisible p.residentialAddress then p.residentialAddress else p.location
  ((lines (address.getD "")).map trim).filter (· ≠ "")

/-- The table at the head: name and e-mail address, then the address beside phone and identity
number. -/
def header (r : Resume) : Block :=
  let p := r.person
  let address := addressLines p
  ["\\begin\x7btabular*\x7d\x7b\\textwidth\x7d\x7bl@\x7b\\extracolsep\x7b\\fill\x7d\x7dr\x7d",
   "  \\textbf" ++ braced ("\x7b\\LARGE " ++ escape (fullName r) ++ "\x7d") ++ " & Email: " ++
     escape? (orElse p.email unavailable) ++ "\\\\",
   "  " ++ escape (address.headD "") ++ " & Mobile: " ++
     escape? (orElse p.phone unavailable) ++ " \\\\",
   "  " ++ escape (", ".intercalate (address.drop 1)) ++ " & ID: " ++
     escape? (orElse p.identityNumber unavailable) ++ " \\\\",
   "\\end\x7btabular*\x7d",
   ""]

/-- The end of a course of study: the graduation, or the end date when it shows nothing. -/
def graduationOf (s : Study) : Option DateValue :=
  if display? s.graduationDate ≠ "" then s.graduationDate else s.endDate

/-- The field and the subjects of a course of study. -/
def studyDetails (s : Study) : List String :=
  let subjects := courseList s.coursework
  (if isVisible s.fieldOfStudy then
    ["\\textbf\x7bField:\x7d " ++ escape? s.fieldOfStudy] else []) ++
  (if subjects ≠ "" then ["\\textbf\x7bSubjects:\x7d " ++ escape subjects] else [])

/-- A course of study. -/
def study (s : Study) : Block :=
  subheading (escape? s.institution) (escape? (orElse s.location defaultLocation))
      (escape? s.degree) (escape (range s.startDate (graduationOf s) false)) ++
    itemList (if studyDetails s = [] then [] else [", ".intercalate (studyDetails s)])

/-- The courses of study. -/
def education (r : Resume) : Block := listSection "Education" (r.studies.flatMap study)

/-- The languages of the person. -/
def spokenLanguages (p : Person) : String := trimJoin ", " [p.homeLanguage, p.otherLanguages]

/-- The skills by category, and the languages of the person below them. -/
def skills (r : Resume) : Block :=
  let body := (skillGroups r.skills).map fun g => subItem g.1 (some (", ".intercalate g.2))
  let languages := spokenLanguages r.person
  listSection "Skills Summary"
    (body ++ (if body ≠ [] ∧ languages ≠ "" then [subItem "Languages" (some languages)] else []))

/-- The lines of the responsibilities that show something, escaped. -/
def dutyLines (j : Job) : List String :=
  ((j.responsibilities.flatMap lines).map escape).filter (· ≠ "")

/-- A job. -/
def job (j : Job) : Block :=
  subheading (escape? j.company) (escape? (orElse j.location defaultLocation))
      (escape? j.jobTitle) (escape (range j.startDate j.endDate j.isCurrent)) ++
    itemList (dutyLines j)

/-- The jobs. -/
def experience (r : Resume) : Block :=
  listSection "Professional Experience" (r.jobs.flatMap job)

/-- The personal information, as labels with their values. -/
def personalFields (p : Person) : List (String × Option String) :=
  [("Nationality", p.nationality),
   ("Gender", p.gender),
   ("Marital Status", p.maritalStatus),
   ("Date of Birth", some (display? p.dateOfBirth))]

/-- The personal information that is given. -/
def personalInformation (r : Resume) : Block :=
  listSection "Personal Information"
    (((personalFields r.person).filter fun f => isVisible f.2).map fun f => subItem f.1 f.2)

/-- How to reach a referee: by phone, or else by e-mail. -/
def contactOf (r : Referee) : Option String :=
  if isVisible r.phone then r.phone else orElse r.email unavailable

/-- A person who gives a reference; nothing without a name. -/
def referee (r : Referee) : Block :=
  if isVisible r.name then
    subheading (escape? r.name ++ " - " ++ escape? (orElse r.title "Reference"))
      (escape? r.company) ("Contact: " ++ escape? (contactOf r)) unavailable
  else []

/-- The people who give a reference. -/
def references (r : Resume) : Block := listSection "References" (r.referees.flatMap referee)

/-- The closing declaration; nothing without a name. -/
def declaration (r : Resume) : Block :=
  let name := escape (fullName r)
  if name = "" then []
  else
    ["\\section\x7bDeclaration\x7d",
     "\\small" ++ braced ("I, " ++ name ++ ", hereby declare that the above information is true " ++
       "and correct to the best of my knowledge.")]

/-- All blocks in document order. -/
def blocks (r : Resume) : List Block :=
  [header r, education r, skills r, experience r, personalInformation r, references r,
   declaration r]

end Vitae.Regional
