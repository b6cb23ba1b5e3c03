import Std.Time
import Vitae.CommandLine
import Vitae.Template.Packaged

/-!
# The program

The outer layer of the command line: it reads the files that a run may look at, lets the run take
place on them, prints what the run prints, and writes the files that the run has made.
-/

namespace Vitae.Program

open CommandLine Calendar

/-- What stands at a path of the file system, with all that is below it. -/
partial def loadNode (path : String) : IO Node := do
  let place ← IO.FS.realPath path
  if ← place.isDir then
    let entries ← place.readDir
    return .dir (← entries.toList.mapM fun e => do
      return (e.fileName, ← loadNode (path ++ "/" ++ e.fileName)))
  else return .file (← IO.FS.readBinFile path)

/-- The place of a path in the tree of files. -/
def placeOf (files : Files) (path : Path) : List String :=
  match path.anchor with
  | .here => (Path.collapse ⟨.root, files.current ++ path.segments⟩).segments
  | _ => path.collapse.segments

/-- Adds the directories on the way to a path, and what stands there, to the files.  A directory at
the path is read with all that is below it only if it is asked for. -/
def observe (deep : Bool) (path : Path) (files : Files) : IO Files := do
  let mut files := files
  for n in List.range path.segments.length do
    let step : Path := { path with segments := path.segments.take (n + 1) }
    match ← (IO.FS.realPath step.text).toBaseIO with
    | .error _ => pure ()
    | .ok place =>
      if (files.node? step).toOption.isNone then
        let whole := deep && n + 1 = path.segments.length
        let node ← if (← place.isDir) && !whole then pure (.dir []) else loadNode step.text
        files := files.putAt (placeOf files step) node
  return files

/-- The file that a request is going to write. -/
def outputOf : Request → Option Path
  | .compile record _ output _ =>
    (output.map Path.ofText).or ((Path.ofText record).withEnding? ".tex")
  | _ => none

/-- The files that a run may look at. -/
def observeAll (packaged : Path) (settings : Settings) (request : Request) : IO Files := do
  let here ← IO.currentDir
  let current := (Path.ofText here.toString).segments
  let start : Files := { current }
  let mut files := start.putAt current (.dir [])
  if settings.templates = packaged then
    files := files.putAt (placeOf files packaged) Template.Packaged.directory
  else files ← observe true settings.templates files
  match request with
  | .compile record _ _ _ =>
    files ← observe false (.ofText record) files
    files ← observe false settings.logs files
  | _ => pure ()
  match outputOf request with
  | some output => files ← observe false output files
  | none => pure ()
  return files

/-- Writes bytes to a file; the directories above it are made. -/
def store (path : Path) (content : ByteArray) : IO Unit := do
  IO.FS.createDirAll path.parent.text
  IO.FS.writeBinFile path.text content

/-- A number with two digits. -/
def twoDigits (n : Nat) : String := padded 2 n

/-- Seconds with two decimal places, from thousandths of a second. -/
def secondsOf (millis : Nat) : String :=
  Nat.repr (millis / 1000) ++ "." ++ twoDigits (millis % 1000 / 10) ++ "s"

/-- Prints, writes and answers what a run has come to.  The times in front of the messages are given
for the screen and for the log file. -/
def finish (screenTime fileTime : String) (output : Option Path) (before : Files) (run : Run) :
    IO UInt32 := do
  for p in run.printed do
    match p with
    | .text t => IO.print t
    | .message m => IO.println (messageLine screenTime m)
  match run.logFile with
  | some path => store path (linesText (run.log.map (messageLine fileTime))).toUTF8
  | none => pure ()
  match output with
  | some path =>
    match run.files.bytes? path with
    | some content =>
      if (before.bytes? path).map (·.data) ≠ some content.data then store path content
    | none => pure ()
  | none => pure ()
  match run.crash with
  | some crash => IO.eprintln crash.message
  | none => pure ()
  return UInt32.ofNat run.exitCode

/-- A variable of an environment that is written as a name, an equals sign and a value. -/
def variableOf (s : String) : String × String :=
  let (name, value) := s.toList.span (· ≠ '=')
  (String.ofList name, String.ofList value.tail)

/-- All variables of the environment, where the system shows them. -/
def allVariables : IO (List (String × String)) := do
  match ← (IO.FS.readBinFile "/proc/self/environ").toBaseIO with
  | .error _ => return []
  | .ok content =>
    return (String.fromUTF8? content).elim [] fun s =>
      ((Text.split '\x00' s).filter (· ≠ "")).map variableOf

/-- Runs the program with the given arguments. -/
def runWith (arguments : List String) : IO UInt32 := do
  let started ← IO.monoMsNow
  let now ← Std.Time.PlainDateTime.now
  let clock := [now.time.hour.val, now.time.minute.val, now.time.second.val].map
    fun n => twoDigits n.toNat
  let day := now.date
  let today := (Date.mk? day.year.toInt.toNat day.month.val.toNat day.day.val.toNat).getD default
  let app ← IO.appPath
  let packaged := (Path.ofText app.toString).parent.child "templates"
  let names := ["QUILLCV_TEMPLATES_PATH", "QUILLCV_DEFAULT_TEMPLATE", "LOGS_PATH"]
  let named ← names.filterMapM fun name => do
    return (← IO.getEnv name).map fun value => (name, value)
  let known := named ++ (← allVariables)
  let environment : Environment := fun name => known.lookup name
  let settings := Settings.ofEnvironment packaged environment
  let request := ((Request.ofArguments arguments).toOption).getD .help
  let files ← observeAll packaged settings request
  let surroundings : Surroundings :=
    { files, settings, environment, today
      stamp := today.text.replace "-" "" ++ "_" ++ String.join clock
      elapsed := secondsOf ((← IO.monoMsNow) - started)
      platform := "Lean"
      invocation := " ".intercalate (app.toString :: arguments) }
  let time := ":".intercalate clock
  finish time (today.text ++ " " ++ time) (outputOf request) files
    (CommandLine.run surroundings arguments)

end Vitae.Program

/-- Runs the program. -/
def main (arguments : List String) : IO UInt32 := Vitae.Program.runWith arguments
