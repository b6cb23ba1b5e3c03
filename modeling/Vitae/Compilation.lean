import Vitae.Document

/-!
# Compilations

A compilation makes a document from a record file and writes it to a file.  What goes wrong with the
files, the record or the templates is reported; a date that cannot be judged, a number that is too
long, a path with a null character, and command definitions that are no text break the compilation
off.
-/

namespace Vitae

open Calendar

/-- A document to be made. -/
structure Compilation where
  /-- The record file. -/
  record : Path
  /-- The file to be written; next to the record file if none is given. -/
  output : Option Path := none
  /-- The id of the template. -/
  template : String
  deriving DecidableEq, Repr, Inhabited

/-- How a compilation ended. -/
inductive Ending where
  /-- The document was made, and where it was written. -/
  | success (output : Option String)
  /-- There is no document, and why. -/
  | failure (reason : Option String)
  deriving DecidableEq, Repr

/-- What goes wrong in a compilation. -/
inductive CompilationError where
  /-- The record file has no name to be used for the output. -/
  | unnamed
  /-- The record file cannot be read. -/
  | read (e : ReadError)
  /-- The document cannot be made. -/
  | document (e : DocumentError)
  /-- The document cannot be written. -/
  | write (e : FileError)
  deriving DecidableEq, Repr

/-- The wording of an error. -/
def CompilationError.message : CompilationError → String
  | .unnamed => "the record file has no name"
  | .read e => e.message
  | .document (.record e) => e.message
  | .document (.shell e) => e.message
  | .document (.body (.date _)) => "a year or month of a date is out of range"
  | .document (.body .undefined) => "the layout is not defined"
  | .document .definitions => "the command definitions are not a text in UTF-8"
  | .write e => e.message

/-- Whether an error is reported; any other one breaks the compilation off. -/
def CompilationError.isReported : CompilationError → Bool
  | .unnamed => false
  | .read .numberTooLong => false
  | .document (.record .numberTooLong) => false
  | .document (.body _) => false
  | .document .definitions => false
  | .write e => e.cause ≠ .nullCharacter
  | _ => true

/-- What is told at the end of a compilation, which took the given time. -/
def Ending.log (name time : String) : Ending → Log
  | .success output =>
    .template .success (name ++ ": compile succeeded (" ++ time ++ ")") ::
      (output.toList.filter (· ≠ "")).map fun path => .template .info ("  Output: " ++ path)
  | .failure reason =>
    .template .error ("Failed to compile " ++ name ++ " (" ++ time ++ ")") ::
      (reason.toList.filter (· ≠ "")).map fun why => .template .error ("  Error: " ++ why)

namespace Compilation

/-- The file to be written; the record file has to have a name if no other file is given. -/
def output? (c : Compilation) : Option Path := c.output.or (c.record.withEnding? ".tex")

/-- What is told at the beginning of a compilation. -/
def beginning (c : Compilation) : Log :=
  [.template .info ("Compiling " ++ c.record.stem ++ " with template " ++ c.template),
   .template .debug ("Source: " ++ c.record.text)]

/-- Writes a document; the directories above its file are made. -/
def write (files : Files) (output : Path) (document : String) :
    Outcome Files (Except FileError Unit) :=
  match files.makeDirs output.parent with
  | ⟨.error e, files, _⟩ => ⟨.error e, files, []⟩
  | ⟨.ok (), files, _⟩ =>
    match files.writeText output document with
    | .error e => ⟨.error e, files, []⟩
    | .ok files =>
      ⟨.ok (), files, [.template .debug
        ("Wrote " ++ Nat.repr document.length ++ " chars to " ++ output.text)]⟩

/-- Reads the record, makes the document and writes it. -/
def make (c : Compilation) (a : Assembler) (files : Files) (output : Path) (today : Date) :
    Outcome Files (Except CompilationError Unit) :=
  match Resume.ofFile files c.record with
  | (.error e, warnings) => ⟨.error (.read e), files, warnings⟩
  | (.ok resume, warnings) =>
    match a.compileResume files c.template resume today with
    | ⟨.error e, _, log⟩ => ⟨.error (.document e), files, warnings ++ log⟩
    | ⟨.ok document, _, log⟩ =>
      let out := write files output document
      ⟨out.answer.mapError .write, out.state, warnings ++ log ++ out.log⟩

/-- Does the work, where `time` is the time that it takes. -/
def run (c : Compilation) (a : Assembler) (files : Files) (today : Date) (time : String) :
    Outcome Files (Except CompilationError Ending) :=
  match c.output? with
  | none => ⟨.error .unnamed, files, []⟩
  | some output =>
    let out := c.make a files output today
    let log := c.beginning ++ out.log
    let close (ending : Ending) : Outcome Files (Except CompilationError Ending) :=
      ⟨.ok ending, out.state, log ++ ending.log c.record.stem time⟩
    match out.answer with
    | .ok () => close (.success (some output.text))
    | .error e =>
      if e.isReported then close (.failure (some e.message)) else ⟨.error e, out.state, log⟩

end Compilation

end Vitae
