import Vitae.Resume.Entry
import Vitae.Section.Block

/-!
# Projects and what is shown like them

Projects, certificates, publications, awards and references: each entry has a title, a highlight,
and bullets below them.
-/

namespace Vitae.Section

open Text Latex Calendar

/-- An entry that is shown like a project. -/
def projectEntry (args : Candidates) (points : List (Option String)) : Block :=
  entry projectItem args (bullets (some projectGap) points)

/-- A section of entries that are shown like projects. -/
def projectSection (comment title : String) (body : Block) : Block :=
  wrap (banner comment) experienceSection title body

/-- The lines of a description that show something. -/
def descriptionLines (p : Project) : List String :=
  (p.description.map singleLine).filter (· ≠ "")

/-- The technologies of a project, trimmed, without those that show nothing. -/
def technologiesOf (p : Project) : List String :=
  (p.technologies.filter fun t => isVisible (some t)).map trim

/-- The bullets of a project: its description after the headline, and its technologies. -/
def projectPoints (p : Project) : List String :=
  (descriptionLines p).drop 1 ++
    (if technologiesOf p = [] then []
     else ["Technologies used: " ++ ", ".intercalate (technologiesOf p)])

/-- The arguments of a project. -/
def projectArgs (p : Project) : Candidates :=
  [("title", some (titleWithUrl p.name p.url)),
   ("duration", some (range p.startDate p.endDate false)),
   ("keyHighlight", (descriptionLines p).head?)]

/-- The projects. -/
def projects (entries : List Project) : Block :=
  projectSection "Projects" "Projects"
    (entries.flatMap fun p => projectEntry (projectArgs p) ((projectPoints p).map some))

/-- The arguments of a certificate. -/
def certificateArgs (c : Certificate) : Candidates :=
  [("title", some (titleWithUrl c.name c.url)),
   ("duration", some (range c.date none false)),
   ("keyHighlight", labelled "Issued by " c.issuer)]

/-- The certificates. -/
def certificates (entries : List Certificate) : Block :=
  projectSection "Certifications" "Certifications"
    (entries.flatMap fun c => projectEntry (certificateArgs c) [c.description])

/-- The arguments of a publication. -/
def publicationArgs (p : Publication) : Candidates :=
  [("title", some (titleWithUrl p.title p.url)),
   ("duration", some (range p.publicationDate none false)),
   ("keyHighlight", labelled "Published by " p.publisher)]

/-- The publications. -/
def publications (entries : List Publication) : Block :=
  projectSection "Publications" "Publications"
    (entries.flatMap fun p => projectEntry (publicationArgs p) [p.description])

/-- The arguments of an award. -/
def awardArgs (a : Award) : Candidates :=
  [("title", a.title),
   ("keyHighlight", labelled "Issued by " a.issuer),
   ("duration", some (range a.date none false))]

/-- The description of an award, unless it only repeats the title. -/
def awardDescription (a : Award) : Option String :=
  if singleLine? a.description = singleLine? a.title then none else a.description

/-- The awards. -/
def awards (entries : List Award) : Block :=
  projectSection "Activities" "Activities"
    (entries.flatMap fun a => projectEntry (awardArgs a) [awardDescription a])

/-- The arguments of a referee. -/
def refereeArgs (r : Referee) : Candidates :=
  [("title", r.name),
   ("keyHighlight", some (trimJoin ", " [r.title, r.company]))]

/-- A line that tells how to reach a referee, if there is something to tell. -/
def contactLine? (label : String) (value : Option String) : Option String :=
  if isVisible value then some (label ++ ": " ++ value.getD "") else none

/-- The lines that tell how to reach a referee. -/
def contactLines (r : Referee) : List String :=
  [contactLine? "Email" r.email, contactLine? "Phone" r.phone,
   contactLine? "Relationship" r.relationship].filterMap id

/-- The people who give a reference. -/
def references (entries : List Referee) : Block :=
  projectSection "References" "References"
    (entries.flatMap fun r => projectEntry (refereeArgs r) ((contactLines r).map some))

end Vitae.Section
