import Vitae.Text.Blank
import Vitae.Text.Case
import Vitae.Text.Search

/-!
# Program names

Degree and field of study often repeat each other.  Of several names for a program, those that are
part of another are left out; case does not matter for that.
-/

namespace Vitae.Section

open Text

/-- Whether a name is part of another one, in any case. -/
def isCoveredBy (a b : String) : Bool := occursIn (lowerChars a.toList) (lowerChars b.toList)

/-- The names with one more: it is left out if one of them covers it, it takes the place of the
first that it covers, and it comes last otherwise.  Whichever of these happens first, from the front
of the list, counts. -/
def addName (name : String) : List String → List String
  | [] => [name]
  | other :: others =>
    if isCoveredBy name other then other :: others
    else if isCoveredBy other name then name :: others
    else other :: addName name others

/-- The names without those that are empty or part of another. -/
def distinctNames (names : List (Option String)) : List String :=
  ((names.filterMap (·.map Text.trim)).filter (· ≠ "")).foldl (fun acc name => addName name acc) []

/-- The names as one text. -/
def programName (separator : String) (names : List (Option String)) : String :=
  separator.intercalate (distinctNames names)

/-- What stands between two names of a program. -/
def programMark : String := ", "

end Vitae.Section
