import Vitae.Resume.Entry
import Vitae.Section.Block
import Vitae.Text.Case

/-!
# Groups of names

Skills are shown by category and languages by proficiency.  A group stands where its label comes up
first, and the names within it keep their order.
-/

namespace Vitae.Section

open Text Latex

/-- Labels, each with its names; no label stands twice. -/
abbrev Groups := List (String × List String)

/-- Adds a name to the group with the given label, which comes last if it is new. -/
def Groups.add (label name : String) : Groups → Groups
  | [] => [(label, [name])]
  | (l, names) :: groups =>
    if l = label then (l, names ++ [name]) :: groups else (l, names) :: Groups.add label name groups

/-- The label of a group: its name with the first character in upper case, or the given one when it
has no name. -/
def groupLabel (fallback : String) (name : Option String) : String :=
  if isVisible name then capitalize (trim (name.getD "")) else fallback

/-- The names with the given labels, grouped; names that show nothing are left out. -/
def groupNames (fallback : String) (items : List (Option String × Option String)) : Groups :=
  (items.filter fun item => isVisible item.2).foldl
    (fun groups item => groups.add (groupLabel fallback item.1) (trim (item.2.getD ""))) []

/-- The command for a group, if one of its names shows something. -/
def groupCall? (group : String × List String) : Option String :=
  let names := ", ".intercalate (group.2.filter fun name => isVisible (some name))
  if names = "" then none
  else Candidates.command? skillItem [("category", some group.1), ("skills", some names)]

/-- The lines for the commands of groups: a line break after each but the last. -/
def groupLines : List String → Block
  | [] => []
  | [call] => [entryIndent ++ call]
  | call :: calls => (entryIndent ++ call ++ " \\\\") :: groupLines calls

/-- The lines for groups. -/
def groupBlock (groups : Groups) : Block := groupLines (groups.filterMap groupCall?)

/-- The skills by category. -/
def skillGroups (skills : List Skill) : Groups :=
  groupNames "General" (skills.map fun s => (s.category, s.name))

/-- The languages by proficiency. -/
def languageGroups (languages : List Language) : Groups :=
  groupNames "Languages" (languages.map fun l => (l.proficiency, l.name))

/-- The skills. -/
def skills (entries : List Skill) : Block :=
  wrap (banner "Skills") skillsSection "Technical Skills" (groupBlock (skillGroups entries))

/-- The languages. -/
def languages (entries : List Language) : Block :=
  wrap (banner "Languages") skillsSection "Languages" (groupBlock (languageGroups entries))

/-- The names of the hobbies. -/
def hobbyNames (entries : List Hobby) : List String :=
  (entries.filter fun h => isVisible h.name).map fun h => trim (h.name.getD "")

/-- The hobbies, as one group. -/
def hobbies (entries : List Hobby) : Block :=
  if hobbyNames entries = [] then []
  else wrap (banner "Hobbies") skillsSection "Interests"
    (groupBlock [("Hobbies", hobbyNames entries)])

end Vitae.Section
