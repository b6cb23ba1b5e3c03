import Vitae.Files
import Vitae.Resume
import Vitae.Yaml.Read

/-!
# Record files

A résumé is kept in a record file, which is a YAML or JSON text.
-/

namespace Vitae

/-- Why there is no résumé to be read. -/
inductive ReadError where
  /-- There is no file at the path. -/
  | missing (path : Path)
  /-- The file cannot be looked for. -/
  | file (e : FileError)
  /-- The record is not a résumé. -/
  | record (e : RecordError)
  /-- A number that belongs into a text is too long to be written. -/
  | numberTooLong
  deriving DecidableEq, Repr

/-- The wording of an error. -/
def ReadError.message : ReadError → String
  | .missing path => "Resume record not found: " ++ path.text
  | .file e => e.message
  | .record e => e.message
  | .numberTooLong => "a number is too long to be written"

namespace Resume

/-- The value of a record file. -/
def readRecord (content : ByteArray) : Except String Datum :=
  match Files.decode? content with
  | none => .error "the file is not a text in UTF-8"
  | some s => (Yaml.read s).mapError Yaml.Fault.message

/-- The résumé of a record whose numbers may be too long, with the warnings.  Keys are read first of
all, so a warning about the person comes before a number is found too long, unless that is a key. -/
def ofRecord (d : Datum) : Except ReadError Resume × Log :=
  if !areKeysReadable d then (.error .numberTooLong, [])
  else
    match ofDatum? d with
    | .error e => (.error (.record e), [])
    | .ok (resume, log) =>
      if isReadable (Fields.ofPairs (d.pairs?.getD [])) then (.ok resume, log)
      else (.error .numberTooLong, log)

/-- The résumé in the record file at a path, with the warnings. -/
def ofFile (files : Files) (path : Path) : Except ReadError Resume × Log :=
  match files.lookFor path with
  | .error e => (.error (.file e), [])
  | .ok none => (.error (.missing path), [])
  | .ok (some content) =>
    match readRecord content with
    | .error reason => (.error (.record (.unreadable path.text reason)), [])
    | .ok d => ofRecord d

end Resume

end Vitae
