import Vitae.Yaml.Reference

/-!
# What documents may hold

Not every value can be kept as a document.  Keys are texts, numbers, truth values or bytes, and an
integer does not stand beside its own text as a key.  References in texts are well formed, and
values are not nested too deep.
-/

namespace Vitae.Yaml

/-! ### Keys -/

/-- Whether a value can be a key of a mapping. -/
def isKey : Datum → Bool
  | .bool _ | .int _ | .float _ | .text _ | .binary _ => true
  | _ => false

/-- The texts among keys. -/
def keyTexts (keys : List Datum) : List String :=
  keys.filterMap fun key => match key with
    | .text s => some s
    | _ => none

/-- The texts of the integers among keys. -/
def integerTexts (keys : List Datum) : List String :=
  keys.filterMap fun key => match key with
    | .int n => some (Datum.intText n)
    | _ => none

/-- Checks the keys of a mapping. -/
def checkKeys (keys : List Datum) : Except Fault Unit :=
  if !keys.all isKey then .error .key
  else
    let texts := keyTexts keys
    match (integerTexts keys).find? texts.contains with
    | some s => .error (.duplicate s)
    | none => .ok ()

mutual

/-- Checks the keys and the texts of a value. -/
def checkValue : Datum → Except Fault Unit
  | .text s => if isWellFormed s then .ok () else .error (.reference s)
  | .list items => checkItems items
  | .tuple items => checkItems items
  | .map pairs => do
    checkKeys (pairs.map Prod.fst)
    checkPairs pairs
  | _ => .ok ()

/-- Checks the items of a list. -/
def checkItems : List Datum → Except Fault Unit
  | [] => .ok ()
  | item :: items => do
    checkValue item
    checkItems items

/-- Checks the values of a mapping. -/
def checkPairs : List (Datum × Datum) → Except Fault Unit
  | [] => .ok ()
  | (_, value) :: pairs => do
    checkValue value
    checkPairs pairs

end

/-! ### Nesting -/

/-- What a mapping counts for in nesting. -/
def mappingWeight : Nat := 9

/-- What a list counts for in nesting. -/
def listWeight : Nat := 6

/-- How much nested lists and mappings may count for. -/
def nestingLimit : Nat := 950

mutual

/-- What the lists and mappings that are nested in a value count for. -/
def nesting : Datum → Nat
  | .list items => listWeight + itemNesting items
  | .tuple items => listWeight + itemNesting items
  | .map pairs => mappingWeight + pairNesting pairs
  | _ => 0

/-- What is nested in the items of a list counts for. -/
def itemNesting : List Datum → Nat
  | [] => 0
  | item :: items => max (nesting item) (itemNesting items)

/-- What is nested in the values of a mapping counts for. -/
def pairNesting : List (Datum × Datum) → Nat
  | [] => 0
  | (_, value) :: pairs => max (nesting value) (pairNesting pairs)

end

/-- A value that can be kept as a document. -/
def admitted (d : Datum) : Except Fault Datum := do
  if nestingLimit < nesting d then throw .depth
  checkValue d
  return d

/-! ### Missing values -/

/-- The text that marks a value which is still to be given. -/
def absentMark : String := "???"

/-- The text that is meant by a text: a backslash in front of the mark for missing values, which
may have others in front, is dropped. -/
def dropMark (s : String) : String :=
  match s.toList with
  | '\\' :: rest =>
    if rest.dropWhile (· = '\\') = absentMark.toList then String.ofList rest else s
  | _ => s

mutual

/-- The value that is meant by a document. -/
def meant : Datum → Datum
  | .text s => .text (dropMark s)
  | .list items => .list (meantItems items)
  | .tuple items => .tuple (meantItems items)
  | .map pairs => .map (meantPairs pairs)
  | d => d

/-- The values that are meant by the items of a list. -/
def meantItems : List Datum → List Datum
  | [] => []
  | item :: items => meant item :: meantItems items

/-- The pairs that are meant by those of a mapping; keys are taken as they are. -/
def meantPairs : List (Datum × Datum) → List (Datum × Datum)
  | [] => []
  | (key, value) :: pairs => (key, meant value) :: meantPairs pairs

end

example : ["\\???", "\\\\???", "x\\???", "\\????"].map dropMark =
    ["???", "\\???", "x\\???", "\\????"] := by decide +kernel

end Vitae.Yaml
