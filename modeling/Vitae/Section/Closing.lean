import Vitae.Resume.Entry
import Vitae.Section.Block
import Vitae.Text.Percent

/-!
# The end of a document

Sections of free form, and the footer with the address of the latest version.
-/

namespace Vitae.Section

open Text Latex

/-- The heading of a section of free form. -/
def extraTitle (s : ExtraSection) : String :=
  if escape? s.title = "" then "Additional Information" else escape? s.title

/-- A section of free form; nothing without text. -/
def extra (s : ExtraSection) : Block :=
  if escape? s.content = "" then []
  else
    [entryIndent ++ beginTitled experienceSection (extraTitle s),
     entryIndent ++ escape? s.content,
     entryIndent ++ endEnvironment experienceSection,
     ""]

/-- The sections of free form. -/
def extras (entries : List ExtraSection) : Block :=
  let body := entries.flatMap extra
  if body = [] then [] else [banner "Additional Sections"] ++ body ++ [""]

/-- An address without any white space. -/
def compactUrl (url : Option String) : String :=
  String.ofList ((singleLine? url).toList.filter (· ≠ ' '))

/-- The footer with the address of the latest version. -/
def footer (url : Option String) : Block :=
  let address := compactUrl url
  if address = "" then []
  else
    ["",
     banner "Tracking Footer",
     "\\vfill",
     "\\begin\x7bcenter\x7d",
     "\\footnotesize \\color\x7bgray\x7d View the latest version of this resume at \\href" ++
       braced (linkTarget address) ++ braced (escape address),
     "\\end\x7bcenter\x7d"]

end Vitae.Section
