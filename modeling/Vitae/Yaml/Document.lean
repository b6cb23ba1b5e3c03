import Vitae.Yaml.Merge

/-!
# Documents in a text

The value of the only document of a YAML text.  JSON texts are read the same way.
-/

namespace Vitae.Yaml

/-- The value of the only document of a text; none if there is no document. -/
def document? (s : String) : Except Fault (Option Datum) := do
  match ← Graph.ofTokens? (← Token.ofText? s) with
  | none => return none
  | some g => return some (← (← g.merged).value)

end Vitae.Yaml
