import Vitae.Text.Lines

/-!
# Paths

The path of a file as its segments.  Empty segments and those of a single dot are dropped when a
path is read; those of two dots stay.
-/

namespace Vitae

open Text

/-- Where a path begins. -/
inductive Anchor where
  /-- At the current directory. -/
  | here
  /-- At the root. -/
  | root
  /-- At the root, written with exactly two slashes. -/
  | doubleRoot
  deriving DecidableEq, Repr, Inhabited

/-- A path. -/
structure Path where
  /-- Where it begins. -/
  anchor : Anchor := .here
  /-- Its segments. -/
  segments : List String := []
  deriving DecidableEq, Repr, Inhabited

namespace Path

/-- Where a written path begins. -/
def anchorOf : List Char → Anchor
  | '/' :: '/' :: '/' :: _ => .root
  | '/' :: '/' :: _ => .doubleRoot
  | '/' :: _ => .root
  | _ => .here

/-- The path that a text spells. -/
def ofText (s : String) : Path where
  anchor := anchorOf s.toList
  segments := (split '/' s).filter fun segment => segment ≠ "" && segment ≠ "."

/-- The written form of a path; a single dot for the current directory. -/
def text (p : Path) : String :=
  let body := "/".intercalate p.segments
  match p.anchor with
  | .root => "/" ++ body
  | .doubleRoot => "//" ++ body
  | .here => if p.segments = [] then "." else body

/-- The second path seen from the first; one that begins at the root stands for itself. -/
def join (p q : Path) : Path :=
  match q.anchor with
  | .here => { p with segments := p.segments ++ q.segments }
  | _ => q

/-- The path that a text spells, seen from the given one. -/
def child (p : Path) (s : String) : Path := p.join (ofText s)

/-- Segments, innermost first, with one more: two dots take the last one away, unless there is none
to take away; at the root they are dropped. -/
def collapseStep (rooted : Bool) : List String → String → List String
  | [], segment => if segment = ".." && rooted then [] else [segment]
  | last :: before, segment =>
    if segment ≠ ".." then segment :: last :: before
    else if last = ".." then segment :: last :: before else before

/-- The path with every segment of two dots taken together with the segment before it. -/
def collapse (p : Path) : Path :=
  { p with segments :=
      (p.segments.foldl (collapseStep (p.anchor ≠ .here)) []).reverse }

/-- The last segment; empty when there is none. -/
def name (p : Path) : String := (p.segments.getLast?).getD ""

/-- The path without its last segment. -/
def parent (p : Path) : Path := { p with segments := p.segments.dropLast }

/-- A name cut in two at its last dot, which goes with the second part.  A dot at either end of the
name cuts nothing. -/
def splitName (name : String) : String × String :=
  let cs := name.toList
  let tail := (cs.reverse.takeWhile (· ≠ '.')).reverse
  let head := cs.take (cs.length - tail.length - 1)
  if tail = [] || head = [] then (name, "")
  else (String.ofList head, String.ofList ('.' :: tail))

/-- The last segment without its ending. -/
def stem (p : Path) : String := (splitName p.name).1

/-- The path with another ending; a path without segments has none. -/
def withEnding? (ending : String) (p : Path) : Option Path :=
  if p.name = "" then none
  else some { p with segments := p.segments.dropLast ++ [p.stem ++ ending] }

example : (ofText "a//./b/").text = "a/b" := by decide +kernel
example : (ofText "a/../../b/c/..").collapse.text = "../b" := by decide +kernel
example : (ofText ".hidden").stem = ".hidden" := by decide +kernel
example : ((ofText "a.v1.json").withEnding? ".tex").map text = some "a.v1.tex" := by decide +kernel

end Path

end Vitae
