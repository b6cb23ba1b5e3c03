import Vitae.Datum
import Vitae.Text.Case
import Vitae.Text.Lines

/-!
# Fields of a record

Records come from a document store, with keys in camel case or snake case and values of any kind.  A
field is looked up under its snake case name, and its value is turned into what the field holds:
text, a date, a truth value, or a list of lines.
-/

namespace Vitae

open Text Calendar

/-- An underscore in front of every capital of ASCII. -/
def markCapitals : List Char → List Char
  | [] => []
  | c :: rest => if c.isUpper then '_' :: c :: markCapitals rest else c :: markCapitals rest

/-- The snake case form of a key: an underscore in front of every capital of ASCII but the first
character, and all in lower case. -/
def snakeCaseChars : List Char → List Char
  | [] => []
  | c :: rest => lowerChars (c :: markCapitals rest)

/-- The snake case form of a key. -/
def snakeCase (key : String) : String := String.ofList (snakeCaseChars key.toList)

namespace Datum

/-- The words for truth. -/
def trueWords : List String := ["true", "yes", "1"]

/-- The value as a truth value: a text by its word, any other value by whether it counts as true. -/
def toBool : Datum → Bool
  | .text s => trueWords.contains (lower (trim s))
  | d => d.isTrue

/-- The value as a list of lines.  A list keeps its items, and a text is split into its lines that
are not blank. -/
def toLines : Datum → List String
  | .null => []
  | .text s => (lines s).filter fun line => trim line ≠ ""
  | .list items => items.filterMap plain?
  | .tuple items => items.filterMap plain?
  | d => [d.plain]

/-- The pairs of a mapping. -/
def pairs? : Datum → Option (List (Datum × Datum))
  | .map pairs => some pairs
  | _ => none

/-- The items of a list. -/
def items? : Datum → Option (List Datum)
  | .list items => some items
  | .tuple items => some items
  | _ => none

end Datum

/-- Values under names, in order. -/
abbrev Fields := List (String × Datum)

namespace Fields

/-- The values of a mapping under the snake case forms of its keys. -/
def ofPairs (pairs : List (Datum × Datum)) : Fields :=
  pairs.map fun p => (snakeCase p.1.plain, p.2)

/-- The value under a name; of several the last. -/
def get? : Fields → String → Option Datum
  | [], _ => none
  | (key, value) :: rest, name => (get? rest name).or (if key = name then some value else none)

/-- The text of a field. -/
def text (fields : Fields) (name : String) : Option String := (fields.get? name).bind Datum.toText?

/-- The content of a date field. -/
def date (fields : Fields) (name : String) : Option DateValue :=
  (fields.get? name).bind Datum.toDate?

/-- The truth value of a field; false when it is missing. -/
def flag (fields : Fields) (name : String) : Bool := (fields.get? name).elim false Datum.toBool

/-- The lines of a field; none when it is missing. -/
def lines (fields : Fields) (name : String) : List String :=
  (fields.get? name).elim [] Datum.toLines

end Fields

/-! ### Writing fields -/

namespace Datum

/-- The value of a text field. -/
def ofText? : Option String → Datum
  | none => .null
  | some s => .text s

/-- The value of a date field. -/
def ofDate? : Option DateValue → Datum
  | none => .null
  | some (.text s) => .text s
  | some (.date d) => .date d
  | some (.moment t) => .moment t

/-- The value of a field of lines. -/
def ofLines (ls : List String) : Datum := .list (ls.map .text)

end Datum

end Vitae
