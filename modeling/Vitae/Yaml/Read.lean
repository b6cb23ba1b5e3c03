import Vitae.Yaml.Resolve

/-!
# Reading documents

A YAML text as a list or a mapping.  A text without a document is an empty mapping, and a document
that is a text is read once more.
-/

namespace Vitae.Yaml

/-- The list or mapping that a document stands for; `text` says what a document does that is a text.
-/
def container (text : String → Except Fault Datum) : Option Datum → Except Fault Datum
  | none | some .null => .ok (.map [])
  | some (.list items) => .ok (.list items)
  | some (.map pairs) => .ok (.map pairs)
  | some (.text s) => text s
  | some _ => .error .shape

/-- The list or mapping that a text spells, with its marks and references as they are. -/
def load (s : String) : Except Fault Datum := do
  let once ← document? s
  let d ← container (fun t => do
    let twice ← document? t
    container (fun u => .ok (.map [(.text u, .null)])) twice) once
  admitted d

/-- The list or mapping that a text spells, with its references as they are. -/
def read (s : String) : Except Fault Datum := do return meant (← load s)

/-- The list or mapping that a text spells, with all references resolved in an environment. -/
def readResolved (environment : Environment) (s : String) : Except Fault Datum := do
  resolve environment (← load s)

end Vitae.Yaml
