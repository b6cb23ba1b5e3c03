import Vitae.Latex.Keyed
import Vitae.Text.Scheme

/-!
# Building blocks of sections

A section of a document is a block: its lines, none of which holds a line break, or no line at all
when there is nothing to show.  The blocks here are shared by the sections of the standard layout.
-/

namespace Vitae.Section

open Text Latex

/-- The lines of a part of a document. -/
abbrev Block := List String

/-- The indentation of an entry. -/
def entryIndent : String := "    "

/-- The indentation of the lines of a bullet list. -/
def bulletIndent : String := "        "

/-- The command that pulls the first bullet of a project up. -/
def projectGap : String := "\\vspace\x7b-0.5em\x7d"

/-- The command that pulls the first bullet of a voluntary role up. -/
def volunteerGap : String := "\\vspace\x7b-0.2em\x7d"

/-- The environments of the standard templates. -/
def educationSection : String := "educationSection"
@[inherit_doc educationSection] def skillsSection : String := "skillsSection"
@[inherit_doc educationSection] def experienceSection : String := "experienceSection"

/-- The commands of the standard templates that take keyed arguments. -/
def introduction : String := "introduction"
@[inherit_doc introduction] def educationItem : String := "educationItem"
@[inherit_doc introduction] def skillItem : String := "skillItem"
@[inherit_doc introduction] def experienceItem : String := "experienceItem"
@[inherit_doc introduction] def projectItem : String := "projectItem"

/-- The comment that opens a section. -/
def banner (name : String) : String := "% --------- " ++ name ++ " -----------"

/-- A bullet list of the texts that show something, with a command for the gap above it if one is
given; no list without bullets. -/
def bullets (gap : Option String) (texts : List (Option String)) : Block :=
  let items := (texts.map escape?).filter (· ≠ "")
  if items = [] then []
  else
    [entryIndent ++ "\\begin\x7bitemize\x7d"] ++
    ((gap.filter (· ≠ "")).map (bulletIndent ++ ·)).toList ++
    [bulletIndent ++ "\\itemsep -6pt \x7b\x7d"] ++
    items.map (bulletIndent ++ "\\item " ++ ·) ++
    [entryIndent ++ "\\end\x7bitemize\x7d"]

/-- A body within a section environment, under a comment; nothing without a body. -/
def wrap (comment environment title : String) (body : Block) : Block :=
  if body = [] then []
  else [comment, beginTitled environment (escape title)] ++ body ++ [endEnvironment environment, ""]

/-- A title with an address, shown without its scheme, in parentheses behind it. -/
def titleWithUrl (title url : Option String) : String :=
  let text := singleLine? title
  let link := stripScheme? url
  if link = "" then text else trim (text ++ " (" ++ link ++ ")")

/-- An entry: its command, then its bullets, then an empty line; nothing if the command has no
arguments. -/
def entry (name : String) (args : Candidates) (points : Block) : Block :=
  match args.command? name with
  | none => []
  | some call => (entryIndent ++ call) :: points ++ [""]

/-- A value shown behind a fixed text; nothing when the value shows nothing. -/
def labelled (label : String) (value : Option String) : Option String :=
  if isVisible value then some (label ++ trim (value.getD "")) else none

end Vitae.Section
