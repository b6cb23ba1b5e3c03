import Vitae.Environment
import Vitae.Path
import Vitae.Template.Shell

/-!
# Settings

What the environment says about the templates and the log files.  A variable that is empty counts as
one that is not set.
-/

namespace Vitae

/-- The settings of a run. -/
structure Settings where
  /-- The templates directory. -/
  templates : Path
  /-- The id of the default template. -/
  defaultTemplate : String
  /-- The directory of the log files. -/
  logs : Path
  deriving DecidableEq, Repr, Inhabited

namespace Settings

/-- The value of a variable, if it is set and not empty. -/
def valueOf (environment : Environment) (name : String) : Option String :=
  (environment name).filter (· ≠ "")

/-- The settings in an environment; `packaged` is the directory of the packaged templates. -/
def ofEnvironment (packaged : Path) (environment : Environment) : Settings where
  templates := ((valueOf environment "QUILLCV_TEMPLATES_PATH").map Path.ofText).getD packaged
  defaultTemplate := (valueOf environment "QUILLCV_DEFAULT_TEMPLATE").getD Template.usualDefault
  logs := .ofText ((valueOf environment "LOGS_PATH").getD "outs/logs")

end Settings

end Vitae
