import Vitae.Decimal.Integer
import Vitae.Template.Library
import Vitae.Yaml.Read

/-!
# The catalogue of templates

What there is to know about the templates of a directory.  A template may have a file that describes
it; what that file leaves open, or all if it cannot be read, has a usual value.
-/

namespace Vitae

open Text Decimal

/-- What there is to know about a template.  Its description may hold values of any kind. -/
structure TemplateInfo where
  /-- The id. -/
  id : String
  /-- The name. -/
  name : Datum
  /-- What the template looks like. -/
  description : Datum
  /-- The kind of template. -/
  category : Datum := .text "professional"
  /-- Whether the template is offered. -/
  enabled : Bool := true
  deriving Repr, Inhabited

namespace Template

/-! ### Order -/

/-- The place of a template in the catalogue: by the number that the digits of its id spell, and
templates without digits last. -/
structure SortKey where
  /-- Whether the id has no digits. -/
  unnumbered : Bool
  /-- The number; zero without digits. -/
  number : Int
  /-- The id. -/
  id : String
  deriving DecidableEq, Repr

/-- Whether a key comes before another one or is the same. -/
def SortKey.le (a b : SortKey) : Bool :=
  if a.unnumbered ≠ b.unnumbered then b.unnumbered
  else if a.number ≠ b.number then a.number < b.number
  else a.id ≤ b.id

/-- The place of a template with the given id; none if its digits spell no number. -/
def sortKey? (id : String) : Option SortKey :=
  let digits := id.toList.filter isDigit
  if digits.isEmpty then some ⟨true, 0, id⟩ else (integer? digits).map fun n => ⟨false, n, id⟩

/-- Things with ids in the order of the catalogue. -/
def sorted? {α : Type} (idOf : α → String) (things : List α) : Option (List α) :=
  (things.mapM fun x => (sortKey? (idOf x)).map fun k => (k, x)).map fun keyed =>
    (keyed.mergeSort fun a b => SortKey.le a.1 b.1).map Prod.snd

/-! ### Descriptions -/

/-- The value of a field of a description. -/
def fieldOf (fields : List (Datum × Datum)) (name : String) : Option Datum :=
  (fields.find? fun p => Datum.sameKey p.1 (.text name)).map Prod.snd

/-- The first of several values that counts as true. -/
def firstTrue (values : List (Option Datum)) (usual : String) : Datum :=
  ((values.filterMap id).find? Datum.isTrue).getD (.text usual)

/-- The name of a template whose description gives none. -/
def usualName (id : String) : String :=
  "Template " ++ String.ofList (removeAll "template".toList id.toList)

/-- A template with the fields of its description. -/
def describe (id : String) (fields : List (Datum × Datum)) : TemplateInfo where
  id
  name := firstTrue [fieldOf fields "templateName", fieldOf fields "name"] (usualName id)
  description := firstTrue [fieldOf fields "description"] "Professional resume template."
  category := firstTrue [fieldOf fields "category"] "professional"
  enabled := ((fieldOf fields "enabled").map Datum.isTrue).getD true

/-- The value of a description file, whose references may name variables of the environment. -/
def readDescription (environment : Environment) (content : ByteArray) : Except String Datum :=
  match Files.decode? content with
  | none => .error "the file is not a text in UTF-8"
  | some s => (Yaml.readResolved environment s).mapError Yaml.Fault.message

/-- What there is to know about the template with the given id, whose description file belongs at a
path. -/
def infoOf (files : Files) (environment : Environment) (id : String) (path : Path) :
    TemplateInfo × Log :=
  match files.bytes? path with
  | none => (describe id [], [])
  | some content =>
    match readDescription environment content with
    | .ok (.map fields) => (describe id fields, [])
    | .ok _ => (describe id [], [])
    | .error reason => (describe id [], [.template .warning
        ("Ignoring unreadable template config " ++ path.text ++ ": " ++ reason)])

end Template

/-- Why there is no catalogue. -/
inductive CatalogueError where
  /-- The digits of an id spell no number. -/
  | numbering
  /-- The directory or the shell of a template cannot be looked for. -/
  | file (e : FileError)
  deriving DecidableEq, Repr

/-- The wording of an error. -/
def CatalogueError.message : CatalogueError → String
  | .numbering => "the digits of a template id spell no number"
  | .file e => e.message

namespace Library

/-- The only entry of a catalogue whose directory cannot be read. -/
def defaultInfo (lib : Library) : TemplateInfo where
  id := lib.defaultId
  name := .text "Default Resume"
  description := .text "Default single-column resume template."

/-- The names of the sub-directories of the templates directory; none if the directory cannot be read
or one of its members cannot be looked at. -/
def directories? (lib : Library) (files : Files) : Except FileError (Option (List String)) :=
  match files.node? lib.root with
  | .ok (.dir members) => .ok ((members.map Prod.fst).filterM fun name =>
      files.lookForDir (lib.root.child name)).toOption
  | .error .nullCharacter => .error ⟨.nullCharacter, lib.root⟩
  | _ => .ok none

/-- The ids of the templates: the sub-directories that hold a shell of their name. -/
def ids (lib : Library) (files : Files) (names : List String) : Except FileError (List String) :=
  names.filterM fun id => do return (← files.lookFor (lib.shellPath id)).isSome

/-- What there is to know about the template with the given id. -/
def info (lib : Library) (files : Files) (environment : Environment) (id : String) :
    TemplateInfo × Log :=
  Template.infoOf files environment id ((lib.root.child id).child (id ++ Template.configEnding))

/-- The catalogue, with what is told about it. -/
def catalogue (lib : Library) (files : Files) (environment : Environment) :
    Except CatalogueError (List TemplateInfo) × Log :=
  match lib.directories? files with
  | .error e => (.error (.file e), [])
  | .ok none => (.ok [lib.defaultInfo], [.template .warning
      ("Cannot list templates in " ++ lib.root.text ++ ": the directory cannot be read")])
  | .ok (some names) =>
    match lib.ids files names with
    | .error e => (.error (.file e), [])
    | .ok ids =>
      let infos := ids.map (lib.info files environment)
      let log := infos.flatMap Prod.snd
      match Template.sorted? TemplateInfo.id (infos.map Prod.fst) with
      | some infos => (.ok infos, log)
      | none => (.error .numbering, log)

end Library

end Vitae
