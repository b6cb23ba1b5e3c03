import Vitae.Log
import Vitae.Path
import Vitae.Text.Quoted

/-!
# Files

A tree of directories and files, and the directory from which paths are seen.  Looking up a path
walks the tree: a segment of two dots goes back to the directory before, and every segment but the
last has to be a directory.  Paths and their segments are limited in length, and no path holds a
null character.
-/

namespace Vitae

open Text

/-- A file or a directory. -/
inductive Node where
  /-- A file with its bytes. -/
  | file (content : ByteArray)
  /-- A directory with its members under their names. -/
  | dir (members : List (String × Node))
  deriving Inhabited

/-- Why something cannot be done with a path. -/
inductive PathError where
  /-- There is nothing at the path. -/
  | missing
  /-- A file stands where the path needs a directory. -/
  | notDirectory
  /-- A directory stands where a file is needed. -/
  | isDirectory
  /-- A file stands where a directory is to be made. -/
  | occupied
  /-- The path or one of its segments is too long. -/
  | tooLong
  /-- The path holds a null character. -/
  | nullCharacter
  deriving DecidableEq, Repr

/-- A failed operation with the path that it was about. -/
structure FileError where
  /-- What is wrong. -/
  cause : PathError
  /-- The path. -/
  path : Path
  deriving DecidableEq, Repr

/-- The wording of a cause, with its number where it has one. -/
def PathError.wording : PathError → String
  | .missing => "[Errno 2] No such file or directory"
  | .notDirectory => "[Errno 20] Not a directory"
  | .isDirectory => "[Errno 21] Is a directory"
  | .occupied => "[Errno 17] File exists"
  | .tooLong => "[Errno 36] File name too long"
  | .nullCharacter => "the path holds a null character"

/-- The wording of an error. -/
def FileError.message (e : FileError) : String := e.cause.wording ++ ": " ++ quoted e.path.text

namespace Node

/-- The member of a directory with the given name. -/
def member? : Node → String → Option Node
  | .file _, _ => none
  | .dir members, name => members.lookup name

/-- Whether the node is a directory. -/
def isDir : Node → Bool
  | .dir _ => true
  | .file _ => false

/-- Puts something under a name: the name keeps its place if it is there, and comes last if it is
new. -/
def putMember (name : String) (node : Node) : List (String × Node) → List (String × Node)
  | [] => [(name, node)]
  | (n, old) :: members =>
    if n = name then (n, node) :: members else (n, old) :: putMember name node members

/-- The node with something put at a place below it; directories on the way are made where they are
missing. -/
def put (node : Node) : List String → Node → Node
  | [], _ => node
  | name :: names, .dir members =>
    .dir (putMember name (node.put names ((members.lookup name).getD (.dir []))) members)
  | name :: names, .file _ => .dir [(name, node.put names (.dir []))]

end Node

/-- A tree of files and the directory from which paths are seen. -/
structure Files where
  /-- The root of the tree. -/
  root : Node := .dir []
  /-- The place of the current directory. -/
  current : List String := []
  deriving Inhabited

namespace Files

/-- How many bytes a segment of a path may have. -/
def segmentLimit : Nat := 255

/-- How many bytes a path may have. -/
def pathLimit : Nat := 4095

/-- Follows segments from a place in the tree, which is given by the way to it, innermost directory
first: each step holds its name and what stands there.  The answer is the way to the end. -/
def walk (root : Node) (way : List (String × Node)) :
    List String → Except PathError (List (String × Node))
  | [] => .ok way
  | segment :: segments =>
    let here := (way.head?.map Prod.snd).getD root
    if !here.isDir then .error .notDirectory
    else if segment = ".." then walk root way.tail segments
    else if segmentLimit < segment.utf8ByteSize then .error .tooLong
    else match here.member? segment with
      | none => .error .missing
      | some node => walk root ((segment, node) :: way) segments

/-- The way to what stands at a path. -/
def way? (files : Files) (p : Path) : Except PathError (List (String × Node)) :=
  if p.segments.any fun segment => segment.toList.contains '\x00' then .error .nullCharacter
  else if pathLimit < p.text.utf8ByteSize then .error .tooLong
  else match p.anchor with
    | .here => walk files.root [] (files.current ++ p.segments)
    | _ => walk files.root [] p.segments

/-- What stands at a path. -/
def node? (files : Files) (p : Path) : Except PathError Node :=
  (files.way? p).map fun way => (way.head?.map Prod.snd).getD files.root

/-- The place of what stands at a path: the names on the way to it. -/
def place? (files : Files) (p : Path) : Except PathError (List String) :=
  (files.way? p).map fun way => (way.map Prod.fst).reverse

/-- The bytes of the file at a path. -/
def bytes? (files : Files) (p : Path) : Option ByteArray :=
  match files.node? p with
  | .ok (.file content) => some content
  | _ => none

/-- The bytes of the file at a path, if there is one; a path that is too long is an error. -/
def lookFor (files : Files) (p : Path) : Except FileError (Option ByteArray) :=
  match files.node? p with
  | .ok (.file content) => .ok (some content)
  | .error .tooLong => .error ⟨.tooLong, p⟩
  | _ => .ok none

/-- Whether a directory stands at a path; a path that is too long is an error. -/
def lookForDir (files : Files) (p : Path) : Except FileError Bool :=
  match files.node? p with
  | .ok node => .ok node.isDir
  | .error .tooLong => .error ⟨.tooLong, p⟩
  | .error _ => .ok false

/-- Whether a file stands at a path. -/
def isFile (files : Files) (p : Path) : Bool := (files.bytes? p).isSome

/-- The tree with something put at a place. -/
def putAt (files : Files) (place : List String) (node : Node) : Files :=
  { files with root := node.put place files.root }

/-- Makes the directory at a path, unless it is there.  The directory above it has to be there. -/
def makeDir (files : Files) (p : Path) : Outcome Files (Except FileError Unit) :=
  match files.node? p with
  | .ok (.dir _) => ⟨.ok (), files, []⟩
  | .ok (.file _) => ⟨.error ⟨.occupied, p⟩, files, []⟩
  | .error .missing =>
    match files.place? p.parent with
    | .ok place => ⟨.ok (), files.putAt (place ++ [p.name]) (.dir []), []⟩
    | .error cause => ⟨.error ⟨cause, p⟩, files, []⟩
  | .error cause => ⟨.error ⟨cause, p⟩, files, []⟩

/-- Makes the directory at a path, and those above it that are missing.  `up` holds the segments
from the last to the first.  Directories that are made stay when a later one cannot be made. -/
def makeDirsAt (files : Files) (anchor : Anchor) :
    (up : List String) → Outcome Files (Except FileError Unit)
  | [] => ⟨.ok (), files, []⟩
  | segment :: up =>
    let path : Path := ⟨anchor, (segment :: up).reverse⟩
    match files.node? path with
    | .error .missing =>
      match makeDirsAt files anchor up with
      | ⟨.ok (), files, _⟩ => files.makeDir path
      | failed => failed
    | _ => files.makeDir path

/-- Makes the directory at a path, and those above it that are missing. -/
def makeDirs (files : Files) (p : Path) : Outcome Files (Except FileError Unit) :=
  files.makeDirsAt p.anchor p.segments.reverse

/-- Writes a text to the file at a path, whose directory has to be there. -/
def writeText (files : Files) (p : Path) (content : String) : Except FileError Files :=
  match files.node? p with
  | .ok (.dir _) => .error ⟨.isDirectory, p⟩
  | .ok (.file _) =>
    match files.place? p with
    | .ok place => .ok (files.putAt place (.file content.toUTF8))
    | .error cause => .error ⟨cause, p⟩
  | .error .missing =>
    match files.node? p.parent, files.place? p.parent with
    | .ok (.dir _), .ok place => .ok (files.putAt (place ++ [p.name]) (.file content.toUTF8))
    | .ok _, _ => .error ⟨.notDirectory, p⟩
    | .error cause, _ => .error ⟨cause, p⟩
  | .error cause => .error ⟨cause, p⟩

/-- The text of the file at a path, if its bytes are one in UTF-8.  Line ends of all three kinds are
read as line feeds. -/
def decode? (content : ByteArray) : Option String :=
  (String.fromUTF8? content).map fun s => String.ofList (unifyBreaks s.toList)

end Files

end Vitae
