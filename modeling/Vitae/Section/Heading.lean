import Vitae.Resume.Entry
import Vitae.Section.Block

/-!
# The head of a document

The name of the person and how to reach them, and the professional summary.
-/

namespace Vitae.Section

open Text Latex

/-- The full name, with the professional title behind it. -/
def nameWithTitle (p : Person) : String :=
  trimJoin ", " [some (trimJoin " " [p.firstName, p.lastName]), p.professionalTitle]

/-- The web site that is shown: the portfolio, or else the web site. -/
def siteOf (p : Person) : String :=
  stripScheme? (if isVisible p.portfolioUrl then p.portfolioUrl else p.websiteUrl)

/-- The GitHub page and the web site, which share one argument. -/
def pagesOf (p : Person) : String :=
  let page := stripScheme? p.githubUrl
  let site := siteOf p
  if site = "" then page else if page = "" then site else page ++ " | " ++ site

/-- The arguments of the introduction. -/
def introductionArgs (p : Person) : Candidates :=
  [("fullname", some (nameWithTitle p)),
   ("email", p.email),
   ("phone", p.phone),
   ("linkedin", some (stripScheme? p.linkedinUrl)),
   ("github", some (pagesOf p))]

/-- The name and how to reach the person. -/
def contact (p : Person) : Block :=
  match (introductionArgs p).command? introduction with
  | none => []
  | some call => [banner "Contact Information", call, ""]

/-- The professional summary. -/
def summary (text : Option String) : Block :=
  if escape? text = "" then []
  else [banner "Summary", "\\summary" ++ braced (escape? text), ""]

end Vitae.Section
