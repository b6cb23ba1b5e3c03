import Vitae.CommandLine.Arguments
import Vitae.Compilation
import Vitae.Settings
import Vitae.Template.Catalogue
import Vitae.Text.Unstyled

/-!
# The command line

What a run of the program does: it prints, it writes a log file and perhaps a document, and it ends
with an exit code.  The surroundings of a run, the files among them, are values here.
-/

namespace Vitae.CommandLine

open Calendar

/-- The surroundings of a run. -/
structure Surroundings where
  /-- The files. -/
  files : Files
  /-- The settings. -/
  settings : Settings
  /-- The environment, whose variables template descriptions may refer to. -/
  environment : Environment := fun _ => none
  /-- The current date. -/
  today : Date
  /-- The current time, for the name of the log directory. -/
  stamp : String
  /-- The time that the work takes. -/
  elapsed : String
  /-- What the program runs on. -/
  platform : String
  /-- The command line as it was written. -/
  invocation : String
  deriving Inhabited

/-- Something that is printed. -/
inductive Printed where
  /-- A text of the program itself. -/
  | text (s : String)
  /-- A message of the log that is shown too. -/
  | message (m : Message)
  deriving DecidableEq, Repr

/-- Why a run breaks off. -/
inductive Crash where
  /-- The document breaks the run off. -/
  | compilation (e : CompilationError)
  /-- The log file cannot be written. -/
  | logFile (e : FileError)
  /-- There is no catalogue of templates. -/
  | catalogue (e : CatalogueError)
  /-- A number in the description of a template is too long to be written. -/
  | numberTooLong
  deriving DecidableEq, Repr

/-- The wording of a crash. -/
def Crash.message : Crash → String
  | .compilation e => e.message
  | .logFile e => e.message
  | .catalogue e => e.message
  | .numberTooLong => "a number is too long to be written"

/-- The end of a run. -/
structure Run where
  /-- The exit code. -/
  exitCode : Nat
  /-- What was printed, in order. -/
  printed : List Printed := []
  /-- The messages of the log file. -/
  log : Log := []
  /-- The log file. -/
  logFile : Option Path := none
  /-- The files afterwards. -/
  files : Files
  /-- Why the run broke off. -/
  crash : Option Crash := none
  deriving Inhabited

/-- The lines of a text, each with its line feed. -/
def linesText (lines : List String) : String := String.join (lines.map (· ++ "\n"))

/-- Text that is printed; it holds no terminal sequences. -/
def Printed.plain (s : String) : Printed := .text (Text.unstyled s)

/-- The name and the version of the program. -/
def programVersion : String := "quillcv 0.1.0"

/-- The line that opens and closes the head of the log. -/
def rule : String := String.ofList (List.replicate 60 '-')

/-- The head of the log: what runs, how it was called, and the template that is asked for. -/
def logHead (s : Surroundings) (template : String) : Log :=
  [rule, programVersion ++ " | " ++ s.platform, "Invoked as: " ++ s.invocation,
    "Template: " ++ template, rule].map fun line => ⟨.info, line⟩

/-- What is printed before the work begins. -/
def announcement (record : Path) (template : String) : String :=
  linesText ["", "Compiling: " ++ record.text, "Template: " ++ template, ""]

/-- What is printed about the end of the work. -/
def verdict : Ending → List String
  | .success output => ["✓ Compilation succeeded", "  LaTeX: " ++ output.getD ""]
  | .failure reason => ["✗ Compilation failed", "  " ++ reason.getD ""]

/-- What is printed after the work. -/
def closing (s : Surroundings) (ending : Ending) (logFile : Path) : String :=
  linesText ("" :: verdict ending ++ ["  Time: " ++ s.elapsed, "  Log: " ++ logFile.text, ""])

/-- The exit code after the work. -/
def exitCodeOf : Ending → Nat
  | .success _ => 0
  | .failure _ => 1

/-- The library of the templates that the settings name. -/
def libraryOf (settings : Settings) : Library := ⟨settings.templates, settings.defaultTemplate, []⟩

/-- Makes a document. -/
def runCompile (s : Surroundings) (record : Path) (template : String) (output : Option Path)
    (verbose : Bool) : Run :=
  let start := Printed.plain (announcement record template)
  let directory := s.settings.logs.child ("compile_" ++ s.stamp)
  match s.files.makeDirs directory with
  | ⟨.error e, files, _⟩ => { exitCode := 1, printed := [start], files, crash := some (.logFile e) }
  | ⟨.ok (), files, _⟩ =>
    let logFile := directory.child "template.log"
    let assembler : Assembler := { library := libraryOf s.settings }
    let out := Compilation.run { record, output, template } assembler files s.today s.elapsed
    let log := logHead s template ++ out.log
    let shown := (log.filter fun m => verbose || m.level.isShown).map Printed.message
    match out.answer with
    | .ok ending =>
      { exitCode := exitCodeOf ending
        printed := start :: shown ++ [.plain (closing s ending logFile)]
        log, logFile := some logFile, files := out.state }
    | .error e =>
      { exitCode := 1, printed := start :: shown, log, logFile := some logFile, files := out.state
        crash := some (.compilation e) }

/-! ### Lists -/

/-- A text filled up with spaces to a width. -/
def padRight (width : Nat) (s : String) : String :=
  s ++ String.ofList (List.replicate (width - s.length) ' ')

/-- What is printed about the id of a template.  The default template is marked with a star. -/
def infoStart (defaultId : String) (info : TemplateInfo) : String :=
  " " ++ (if info.id = defaultId then "*" else " ") ++ " " ++ padRight 14 info.id

/-- What is printed about the name and the kind of a template. -/
def infoRest (info : TemplateInfo) : String :=
  " " ++ info.name.plain ++ " [" ++ info.category.plain ++ "]" ++
    (if info.enabled then "" else " (disabled)") ++ "\n"

/-- What is printed about how a template looks. -/
def infoDescription (info : TemplateInfo) : String :=
  "   " ++ padRight 14 "" ++ " " ++ info.description.plain ++ "\n"

/-- What is printed about templates, and whether it ends before a number that is too long. -/
def infoText (defaultId : String) : List TemplateInfo → String × Bool
  | [] => ("", false)
  | info :: infos =>
    let start := infoStart defaultId info
    if !(info.name.isShown && info.category.isShown) then (start, true)
    else if !info.description.isShown then (start ++ infoRest info, true)
    else
      let (text, isCut) := infoText defaultId infos
      (start ++ infoRest info ++ infoDescription info ++ text, isCut)

/-- A message as a line of the log, with the time in front. -/
def messageLine (time : String) (m : Message) : String :=
  time ++ " | " ++ padRight 7 m.level.name ++ " | " ++ m.text

/-- The list of templates as it is printed, and whether it ends before a number that is too long. -/
def listing (lib : Library) (infos : List TemplateInfo) : String × Bool :=
  let head := linesText ["", "Templates in " ++ lib.root.text, ""]
  if infos.isEmpty then (head ++ linesText ["  No templates found", ""], false)
  else
    let (text, isCut) := infoText lib.defaultId infos
    (head ++ text ++ if isCut then "" else "\n", isCut)

/-- Lists the templates. -/
def runTemplates (s : Surroundings) (all : Bool) : Run :=
  let lib := libraryOf s.settings
  match (lib.catalogue s.files s.environment).1 with
  | .error e => { exitCode := 1, files := s.files, crash := some (.catalogue e) }
  | .ok infos =>
    let (text, isCut) := listing lib (infos.filter fun info => all || info.enabled)
    { exitCode := if isCut then 1 else 0
      printed := [.plain text]
      files := s.files
      crash := if isCut then some .numberTooLong else none }

/-! ### Runs -/

/-- The help text. -/
def helpText : String :=
  linesText
    ["Compile structured resume records into LaTeX documents", "",
     "  compile RECORD [--template ID] [--output FILE] [--verbose]", "  templates [--all]"]

/-- Does what a request asks for. -/
def Request.run (s : Surroundings) : Request → Run
  | .help => { exitCode := 0, printed := [.plain helpText], files := s.files }
  | .compile record template output verbose =>
    runCompile s (.ofText record) (template.getD s.settings.defaultTemplate)
      (output.map Path.ofText) verbose
  | .templates all => runTemplates s all

/-- A run of the program with the given arguments. -/
def run (s : Surroundings) (arguments : List String) : Run :=
  match Request.ofArguments arguments with
  | .ok request => request.run s
  | .error e => { exitCode := 2, printed := [.plain (e.message ++ "\n")], files := s.files }

end Vitae.CommandLine
