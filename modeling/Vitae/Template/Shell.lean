import Vitae.Files
import Vitae.Log
import Vitae.Text.Search

/-!
# Template shells

A shell is a LaTeX document with a placeholder where the body of a résumé belongs.  It stands in the
templates directory under `<id>/<id>-standardized.tex`.
-/

namespace Vitae

open Text

/-- What stands for the body in a shell. -/
def placeholder : String := "\x7b\x7bTEMPLATE_CONTENT\x7d\x7d"

/-- The text of a template, and where it comes from. -/
structure Shell where
  /-- The id under which the shell was loaded. -/
  id : String
  /-- The text. -/
  source : String
  /-- The file. -/
  path : Path
  deriving DecidableEq, Repr, Inhabited

/-- Whether a shell has a place for the body. -/
def Shell.hasPlaceholder (s : Shell) : Bool := occursIn placeholder.toList s.source.toList

namespace Template

/-- The ending of the file of a shell. -/
def shellEnding : String := "-standardized.tex"

/-- The ending of the file that describes a template. -/
def configEnding : String := "-config.json"

/-- The file of the command definitions that the templates share. -/
def definitionsName : String := "structure/command_definitions.tex"

/-- The id of the default template where nothing else is said. -/
def usualDefault : String := "template01"

/-- The name of a shell within the templates directory. -/
def nameOf (id : String) : String := id ++ "/" ++ id ++ shellEnding

/-- Why a file of the templates directory cannot be read. -/
inductive ReadFailure where
  /-- There is no such file. -/
  | notFound
  /-- Its bytes are no text in UTF-8. -/
  | notText
  deriving DecidableEq, Repr

/-- The wording of a failure. -/
def ReadFailure.wording : ReadFailure → String
  | .notFound => "the template file does not exist"
  | .notText => "the template file is not a text in UTF-8"

/-- The segments of a name within the templates directory: empty ones and single dots are dropped,
and a name with two dots as a segment has none. -/
def segments? (name : String) : Option (List String) :=
  let segments := split '/' name
  if segments.contains ".." then none
  else some (segments.filter fun s => s ≠ "" && s ≠ ".")

/-- The text of a file of the templates directory, and its path. -/
def readFile (files : Files) (root : Path) (name : String) : Except ReadFailure (String × Path) :=
  match segments? name with
  | none => .error .notFound
  | some segments =>
    let path : Path := { root with segments := root.segments ++ segments }
    match files.bytes? path with
    | none => .error .notFound
    | some content =>
      match Files.decode? content with
      | none => .error .notText
      | some source => .ok (source, path.collapse)

/-- The shell of a template, with what is told about it. -/
def readShell (files : Files) (root : Path) (id : String) : Except ReadFailure (Shell × Log) := do
  let (source, path) ← readFile files root (nameOf id)
  let shell : Shell := ⟨id, source, path⟩
  let loaded : Message := .template .debug
    ("Loaded template " ++ id ++ " (" ++ Nat.repr source.length ++ " chars) from " ++ path.text)
  let bare : Message := .template .warning ("Template " ++ id ++ " has no " ++ placeholder ++
    " placeholder")
  return (shell, loaded :: if shell.hasPlaceholder then [] else [bare])

end Template

end Vitae
