import Vitae.Template.Shell

/-!
# The template library

The templates of a directory.  A shell is read when it is first asked for and kept from then on.
For a template whose shell cannot be read the default template takes its place; such a failure is
not kept, so the file is tried again the next time.
-/

namespace Vitae

open Text

/-- The templates of a directory, with the shells that were read so far. -/
structure Library where
  /-- The templates directory. -/
  root : Path
  /-- The id of the default template. -/
  defaultId : String
  /-- The shells that were read, each under its id. -/
  cache : List (String × Shell) := []
  deriving DecidableEq, Repr, Inhabited

/-- Why a template cannot be loaded. -/
inductive LoadCause where
  /-- Its shell cannot be read. -/
  | unread (failure : Template.ReadFailure)
  /-- Something else, in words. -/
  | other (wording : String)
  deriving DecidableEq, Repr

/-- The wording of a cause. -/
def LoadCause.wording : LoadCause → String
  | .unread failure => failure.wording
  | .other wording => wording

/-- The default template cannot be read. -/
structure LoadError where
  /-- What went wrong. -/
  description : String
  /-- The id of the template. -/
  id : Option String := none
  /-- Where its shell should be. -/
  path : Option Path := none
  /-- The cause. -/
  cause : Option LoadCause := none
  deriving DecidableEq, Repr

/-- The wording of an error: what went wrong, where the shell should be if that is known, the cause
if it is known, and what to check. -/
def LoadError.message (e : LoadError) : String :=
  let place := match e.id, e.path with
    | some id, some path =>
      if id ≠ "" then ["\nTemplate: " ++ id, "Expected shell at: " ++ path.text] else []
    | _, _ => []
  let cause := match e.cause with
    | some cause => ["\nOriginal error: " ++ cause.wording]
    | none => []
  "\n".intercalate ([e.description] ++ place ++ cause ++
    ["\nCheck QUILLCV_TEMPLATES_PATH and QUILLCV_DEFAULT_TEMPLATE."])

namespace Library

/-- Where the shell of a template should be. -/
def shellPath (lib : Library) (id : String) : Path := lib.root.child (Template.nameOf id)

/-- The shell that is kept for an id. -/
def cached? (lib : Library) (id : String) : Option Shell := lib.cache.lookup id

/-- Whether a shell is kept for an id. -/
def isCached (lib : Library) (id : String) : Bool := (lib.cached? id).isSome

/-- The library without the shells that were read. -/
def clear (lib : Library) : Library := { lib with cache := [] }

/-- The library that also keeps a shell. -/
def keep (lib : Library) (shell : Shell) : Library :=
  { lib with cache := (shell.id, shell) :: lib.cache }

/-- The text of a file of the templates directory. -/
def readSource (lib : Library) (files : Files) (name : String) :
    Except Template.ReadFailure String :=
  (Template.readFile files lib.root name).map Prod.fst

/-- The shell of a template itself: the one that is kept, or else the one in its file, which is kept
from then on. -/
def loadOwn (lib : Library) (files : Files) (id : String) :
    Outcome Library (Except Template.ReadFailure Shell) :=
  match lib.cached? id with
  | some shell => ⟨.ok shell, lib, []⟩
  | none =>
    match Template.readShell files lib.root id with
    | .ok (shell, log) => ⟨.ok shell, lib.keep shell, log⟩
    | .error failure => ⟨.error failure, lib, []⟩

/-- The error of a default template that cannot be read. -/
def loadError (lib : Library) (failure : Template.ReadFailure) : LoadError where
  description := "Default template could not be loaded"
  id := some lib.defaultId
  path := some (lib.shellPath lib.defaultId)
  cause := some (.unread failure)

/-- The warning that the default template takes the place of another one. -/
def fallbackWarning (lib : Library) (id : String) : Message :=
  .template .warning ("Template " ++ quoted id ++
    " not found or failed to load; falling back to " ++ quoted lib.defaultId)

/-- The shell for a template: its own, or that of the default template when its own cannot be read.
-/
def load (lib : Library) (files : Files) (id : String) : Outcome Library (Except LoadError Shell) :=
  match lib.loadOwn files id with
  | ⟨.ok shell, lib, log⟩ => ⟨.ok shell, lib, log⟩
  | ⟨.error failure, lib, log⟩ =>
    if id = lib.defaultId then ⟨.error (lib.loadError failure), lib, log⟩
    else
      match lib.loadOwn files lib.defaultId with
      | ⟨.ok shell, lib', log'⟩ => ⟨.ok shell, lib', log ++ lib.fallbackWarning id :: log'⟩
      | ⟨.error failure, lib', log'⟩ =>
        ⟨.error (lib.loadError failure), lib', log ++ lib.fallbackWarning id :: log'⟩

end Library

end Vitae
