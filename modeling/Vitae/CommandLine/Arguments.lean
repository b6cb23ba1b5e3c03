import Vitae.Text.Search

/-!
# Arguments of the command line

Options have a long name behind two dashes and may have a letter behind one dash.  The value of an
option follows it as the next argument, whatever that looks like, or stands in the same argument:
behind an equals sign for a long name, and directly for a letter.  Letters may share one dash.  All
that follows two dashes alone is no option.  Arguments that are paths hold no null characters.
-/

namespace Vitae.CommandLine

open Text

/-- Why arguments cannot be understood. -/
inductive UsageError where
  /-- There is no such option. -/
  | unknownOption (name : String)
  /-- The option needs a value. -/
  | missingValue (name : String)
  /-- The option has no value. -/
  | unwantedValue (name : String)
  /-- There is no such command. -/
  | unknownCommand (name : String)
  /-- The command needs an argument. -/
  | missingArgument
  /-- The command has no such argument. -/
  | extraArgument (argument : String)
  /-- A path holds a null character. -/
  | unusablePath (path : String)
  deriving DecidableEq, Repr

/-- The wording of an error. -/
def UsageError.message : UsageError → String
  | .unknownOption name => "No such option: " ++ name
  | .missingValue name => "Option " ++ name ++ " requires an argument."
  | .unwantedValue name => "Option " ++ name ++ " does not take a value."
  | .unknownCommand name => "No such command: " ++ name
  | .missingArgument => "Missing argument."
  | .extraArgument argument => "Got unexpected extra argument: " ++ argument
  | .unusablePath path => "Not the path of a file: " ++ path

/-- An option of a command. -/
structure Flag where
  /-- Its long name, without dashes. -/
  name : String
  /-- Its letter. -/
  letter : Option Char := none
  /-- Whether it has a value. -/
  takesValue : Bool := false
  deriving DecidableEq, Repr

/-- The options that were given, each with its value, and the other arguments. -/
structure Given where
  /-- The options under their long names, in order. -/
  options : List (String × String) := []
  /-- The other arguments. -/
  arguments : List String := []
  deriving DecidableEq, Repr

namespace Given

/-- Whether an option was given. -/
def has (g : Given) (name : String) : Bool := g.options.any fun o => o.1 = name

/-- The value of an option; the last one if there are several. -/
def value? (g : Given) (name : String) : Option String := g.options.reverse.lookup name

end Given

/-- What one argument of options gives: options with their values, and the option whose value is
still to come. -/
abbrev Partial := List (String × String) × Option String

/-- Reads the letters behind a dash. -/
def readLetters (flags : List Flag) : List Char → Except UsageError Partial
  | [] => .ok ([], none)
  | c :: rest =>
    match flags.find? fun f => f.letter = some c with
    | none => .error (.unknownOption (String.ofList ['-', c]))
    | some f =>
      if f.takesValue then
        if rest.isEmpty then .ok ([], some f.name) else .ok ([(f.name, String.ofList rest)], none)
      else (readLetters flags rest).map fun p => ((f.name, "") :: p.1, p.2)

/-- Reads an option with a long name. -/
def readLong (flags : List Flag) (argument : List Char) : Except UsageError Partial :=
  let (name, value) := match breakAt? ['='] argument with
    | some (name, value) => (String.ofList name, some (String.ofList value))
    | none => (String.ofList argument, none)
  match flags.find? fun f => f.name = name, value with
  | none, _ => .error (.unknownOption name)
  | some f, none => if f.takesValue then .ok ([], some f.name) else .ok ([(f.name, "")], none)
  | some f, some v =>
    if f.takesValue then .ok ([(f.name, v)], none) else .error (.unwantedValue f.name)

/-- Reads arguments.  `awaited` is the option whose value comes next.  Where options and other
arguments are not `mixed`, the first that is no option ends the options. -/
def readArguments (flags : List Flag) (mixed : Bool) :
    (awaited : Option String) → List String → Except UsageError Given
  | none, [] => .ok {}
  | some name, [] => .error (.missingValue name)
  | some name, value :: rest =>
    (readArguments flags mixed none rest).map fun g =>
      { g with options := (name, value) :: g.options }
  | none, argument :: rest =>
    let go (read : Partial) : Except UsageError Given :=
      (readArguments flags mixed read.2 rest).map fun g =>
        { g with options := read.1 ++ g.options }
    match argument.toList with
    | ['-', '-'] => .ok { arguments := rest }
    | '-' :: '-' :: cs => (readLong flags cs).bind go
    | '-' :: c :: cs => (readLetters flags (c :: cs)).bind go
    | _ =>
      if mixed then
        (readArguments flags mixed none rest).map fun g =>
          { g with arguments := argument :: g.arguments }
      else .ok { arguments := argument :: rest }

/-! ### Requests -/

/-- What the command line asks for. -/
inductive Request where
  /-- The help text. -/
  | help
  /-- A document from a record file. -/
  | compile (record : String) (template output : Option String) (verbose : Bool)
  /-- The list of the templates, with those that are not offered if `all` is set. -/
  | templates (all : Bool)
  deriving DecidableEq, Repr

/-- The option that every command has. -/
def helpFlag : Flag := { name := "help" }

/-- The options for making a document. -/
def compileFlags : List Flag :=
  [{ name := "template", letter := some 't', takesValue := true },
   { name := "output", letter := some 'o', takesValue := true },
   { name := "verbose", letter := some 'v' }, helpFlag]

/-- The options for listing the templates. -/
def templatesFlags : List Flag := [{ name := "all", letter := some 'a' }, helpFlag]

/-- A path that is given as an argument. -/
def readPath (path : String) : Except UsageError String :=
  if path.toList.contains '\x00' then .error (.unusablePath path) else .ok path

/-- Reads the arguments for making a document. -/
def readCompile (arguments : List String) : Except UsageError Request := do
  let g ← readArguments compileFlags true none arguments
  if g.has "help" then return .help
  else
    match g.arguments with
    | [] => throw .missingArgument
    | [record] =>
      let record ← readPath record
      let output ← (g.value? "output").mapM readPath
      return .compile record (g.value? "template") output (g.has "verbose")
    | _ :: extra :: _ => throw (.extraArgument extra)

/-- Reads the arguments for listing the templates. -/
def readTemplates (arguments : List String) : Except UsageError Request := do
  let g ← readArguments templatesFlags true none arguments
  if g.has "help" then return .help
  else
    match g.arguments with
    | [] => return .templates (g.has "all")
    | extra :: _ => throw (.extraArgument extra)

/-- What the given arguments ask for.  Without arguments that is the help text. -/
def Request.ofArguments (arguments : List String) : Except UsageError Request := do
  let g ← readArguments [helpFlag] false none arguments
  if g.has "help" then return .help
  else
    match g.arguments with
    | [] => return .help
    | command :: rest =>
      if command = "compile" then readCompile rest
      else if command = "templates" then readTemplates rest
      else throw (.unknownCommand command)

example : (Request.ofArguments ["compile", "-vto", "a.yaml", "--output=x=y"]).toOption =
    some (.compile "a.yaml" (some "o") (some "x=y") true) := by decide +kernel

end Vitae.CommandLine
