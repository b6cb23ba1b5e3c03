import Vitae.Layout
import Vitae.Resume.Record
import Vitae.Template.Library

/-!
# Documents

A document is a template shell with the body of a résumé in the place of its placeholder.  Shells
other than the default one are given the shared command definitions right after their first line
with `\documentclass`, or in front when they have none.
-/

namespace Vitae

open Text Calendar

/-- Why there is no document. -/
inductive DocumentError where
  /-- The record is not a résumé, or a number in it is too long. -/
  | record (e : ReadError)
  /-- There is no shell. -/
  | shell (e : LoadError)
  /-- There is no body. -/
  | body (e : Layout.Failure)
  /-- The command definitions are no text in UTF-8. -/
  | definitions
  deriving DecidableEq, Repr

/-- What makes documents: a template library, the layouts of the templates, and the command
definitions once they have been looked for. -/
structure Assembler where
  /-- The templates. -/
  library : Library
  /-- The layouts of some templates. -/
  layouts : List (String × Layout) := [("basic_sa", .regional)]
  /-- The layout of all other templates. -/
  defaultLayout : Layout := .standard
  /-- The command definitions, empty when there are none, once they have been looked for. -/
  definitions : Option String := none
  deriving DecidableEq, Repr, Inhabited

namespace Assembler

/-- The layout of a template. -/
def layoutFor (a : Assembler) (id : String) : Layout := (a.layouts.lookup id).getD a.defaultLayout

/-- The body of a document, with what is told about it. -/
def renderBody (a : Assembler) (id : String) (r : Resume) (today : Date) :
    Except Layout.Failure String × Log :=
  let layout := a.layoutFor id
  (layout.body r today, [.template .debug ("Rendering with " ++ layout.name ++ " layout")])

/-- The command definitions.  A missing file is remembered as empty definitions; one that is no text
is an error every time. -/
def commandDefinitions (a : Assembler) (files : Files) :
    Outcome Assembler (Except DocumentError String) :=
  match a.definitions with
  | some text => ⟨.ok text, a, []⟩
  | none =>
    match a.library.readSource files Template.definitionsName with
    | .ok text => ⟨.ok text, { a with definitions := some text }, []⟩
    | .error .notFound =>
      ⟨.ok "", { a with definitions := some "" },
        [.template .warning ("Command definitions unavailable, shells used as-is: " ++
          Template.ReadFailure.notFound.wording)]⟩
    | .error .notText => ⟨.error .definitions, a, []⟩

/-- The text with more text inserted after the first line that holds `\documentclass`, or rather
after the rest of the line from there on; in front of all when there is no such line. -/
def insertDefinitions (definitions source : List Char) : List Char :=
  match breakAt? "\\documentclass".toList source with
  | some (before, after) =>
    before ++ "\\documentclass".toList ++ after.takeWhile (· ≠ '\n') ++ '\n' :: definitions ++
      after.dropWhile (· ≠ '\n')
  | none => definitions ++ '\n' :: source

/-- The text of a shell with the command definitions; that of the default shell stays as it is. -/
def prepare (a : Assembler) (files : Files) (shell : Shell) :
    Outcome Assembler (Except DocumentError String) :=
  if shell.id = a.library.defaultId then ⟨.ok shell.source, a, []⟩
  else
    match a.commandDefinitions files with
    | ⟨.ok definitions, a, log⟩ =>
      if definitions = "" then ⟨.ok shell.source, a, log⟩
      else ⟨.ok (String.ofList (insertDefinitions definitions.toList shell.source.toList)), a, log⟩
    | ⟨.error e, a, log⟩ => ⟨.error e, a, log⟩

/-- The shell for a template. -/
def loadShell (a : Assembler) (files : Files) (id : String) :
    Outcome Assembler (Except DocumentError Shell) :=
  match a.library.load files id with
  | ⟨.ok shell, library, log⟩ => ⟨.ok shell, { a with library }, log⟩
  | ⟨.error e, library, log⟩ => ⟨.error (.shell e), { a with library }, log⟩

/-- The warning about a shell that has no place for the body. -/
def bareShellWarning (shell : Shell) : Log :=
  if shell.hasPlaceholder then []
  else [.template .warning
    ("Shell " ++ shell.path.text ++ " has no content placeholder; body not inserted")]

/-- The text of a shell with the body in the place of the first placeholder. -/
def insertBody (source body : String) : String :=
  String.ofList (replaceFirst placeholder.toList body.toList source.toList)

/-- The document of a résumé in a template. -/
def compileResume (a : Assembler) (files : Files) (id : String) (r : Resume) (today : Date) :
    Outcome Assembler (Except DocumentError String) :=
  match a.loadShell files id with
  | ⟨.error e, a, log⟩ => ⟨.error e, a, log⟩
  | ⟨.ok shell, a, log⟩ =>
    match a.renderBody id r today with
    | (.error e, log') => ⟨.error (.body e), a, log ++ log'⟩
    | (.ok body, log') =>
      match a.prepare files shell with
      | ⟨.error e, a, log''⟩ => ⟨.error e, a, log ++ log' ++ bareShellWarning shell ++ log''⟩
      | ⟨.ok source, a, log''⟩ =>
        ⟨.ok (insertBody source body), a, log ++ log' ++ bareShellWarning shell ++ log''⟩

/-- The document of a record in a template. -/
def compile (a : Assembler) (files : Files) (id : String) (record : Datum) (today : Date) :
    Outcome Assembler (Except DocumentError String) :=
  match Resume.ofRecord record with
  | (.error e, log) => ⟨.error (.record e), a, log⟩
  | (.ok r, log) =>
    let out := a.compileResume files id r today
    { out with log := log ++ out.log }

end Assembler

end Vitae
