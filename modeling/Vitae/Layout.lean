import Vitae.Layout.Regional
import Vitae.Section.Closing
import Vitae.Section.Heading
import Vitae.Section.Projects
import Vitae.Section.Work
import Vitae.Text.BlankLines

/-!
# Layouts

A layout puts the blocks of a document in order.  The standard layout shows a section only when it
has something to show, and a notice when no section has.
-/

namespace Vitae

open Text Calendar Section

/-- The layouts of a document. -/
inductive Layout where
  /-- Commands with keyed arguments, shared by the standard templates. -/
  | standard
  /-- The South African layout. -/
  | regional
  /-- No layout at all; a template that is given it cannot be used. -/
  | undefined
  deriving DecidableEq, Repr

namespace Layout

/-- The name of a layout. -/
def name : Layout → String
  | .standard => "standard"
  | .regional => "regional"
  | .undefined => "base"

/-- Why a document has no body. -/
inductive Failure where
  /-- A date of the résumé cannot be judged. -/
  | date (cause : FieldOverflow)
  /-- The layout is not defined. -/
  | undefined
  deriving DecidableEq, Repr

/-- The notice that a document shows when there is nothing else to show. -/
def emptyNotice : Block :=
  ["% (intentionally left blank, no resume fields provided)",
   "\\begin\x7bcenter\x7d",
   "  \\Large Resume Data Not Provided",
   "  \\\\ \\vspace\x7b1em\x7d",
   "  \\small Please fill in your details to generate a preview.",
   "\\end\x7bcenter\x7d"]

/-- The sections of the standard layout in document order. -/
def standardSections (r : Resume) (today : Date) : Except FieldOverflow (List Block) := do
  let education ← Section.education r.studies today
  return [contact r.person, Section.summary r.summary, education, Section.skills r.skills,
    experience r.jobs, Section.projects r.projects, Section.certificates r.certificates,
    Section.publications r.publications, Section.languages r.languages,
    Section.volunteering r.volunteering, Section.awards r.awards, Section.hobbies r.hobbies,
    references r.referees, Section.extras r.extras, footer r.trackingUrl]

/-- The blocks of the standard layout. -/
def standardBlocks (r : Resume) (today : Date) : Except FieldOverflow (List Block) := do
  let sections ← standardSections r today
  return if sections.all (· = []) then [emptyNotice] else sections

/-- The blocks of a document. -/
def blocks (layout : Layout) (r : Resume) (today : Date) : Except Failure (List Block) :=
  match layout with
  | .standard => (standardBlocks r today).mapError .date
  | .regional => .ok (Regional.blocks r)
  | .undefined => .error .undefined

/-- The body of a document: the lines of its blocks, with at most one blank line between two lines
that are not blank. -/
def body (layout : Layout) (r : Resume) (today : Date) : Except Failure String :=
  (layout.blocks r today).map fun blocks => limitBlankLines 1 ("\n".intercalate blocks.flatten)

end Layout

end Vitae
