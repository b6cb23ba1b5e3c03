/-!
# Environments

The variables that a run is given, each of them a text under a name.
-/

namespace Vitae

/-- The value of a variable, if it is set. -/
abbrev Environment := String → Option String

end Vitae
