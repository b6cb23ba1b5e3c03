import Vitae.Environment
import Vitae.Yaml.Admission
import Vitae.Yaml.Document

/-!
# Resolving references

The value of a document with all references replaced by what they refer to.  A text that is nothing
but a reference becomes the value itself; inside other text a value becomes its plain text, in which
the references of its members stay as they are.  The functions that can be called look up values,
read variables of the environment, and make values from texts.
-/

namespace Vitae.Yaml

open Decimal

/-! ### Places -/

/-- A value with the lists and mappings around it, innermost first. -/
structure Place where
  /-- The value. -/
  here : Datum
  /-- What is around it. -/
  around : List Datum := []
  /-- The way to it: the numbers of the members that lead there, the last one first. -/
  way : List Nat := []
  deriving Repr, Inhabited

namespace Place

/-- The place of a member of a value. -/
def below (p : Place) (index : Nat) (d : Datum) : Place :=
  ⟨d, p.here :: p.around, index :: p.way⟩

/-- Whether the value is a list or a mapping. -/
def hasMembers (p : Place) : Bool :=
  match p.here with
  | .list _ | .tuple _ | .map _ => true
  | _ => false

/-- Whether the value is still to be given. -/
def isAbsent (p : Place) : Bool :=
  match p.here with
  | .text s => s = absentMark
  | _ => false

/-- Whether a place is around another one. -/
def isAround (p q : Place) : Bool := p.way.isSuffixOf q.way.tail

/-- The number of an item of a list with an index; negative ones count from its end. -/
def itemNumber? (length : Nat) (index : Int) : Option Nat :=
  if 0 ≤ index then some index.toNat
  else if index.natAbs ≤ length then some (length - index.natAbs) else none

/-- The place of the value under a key of a mapping. -/
def under? (p : Place) (pairs : List (Datum × Datum)) (key : Datum) : Option Place :=
  (pairs.zipIdx.find? fun q => q.1.1.sameKey key).map fun q => p.below q.2 q.1.2

/-- The place below another one that a name leads to.  In a mapping that is a key, or the integer
that the name spells; in a list the name has to spell an index. -/
def enter (p : Place) (name : String) : Except Fault (Option Place) :=
  match p.here with
  | .map pairs =>
    .ok ((p.under? pairs (.text name)).or
      ((integer? name.toList).bind fun n => p.under? pairs (.int n)))
  | .list items | .tuple items =>
    match integer? name.toList with
    | none => .error (.reference name)
    | some n => .ok ((itemNumber? items.length n).bind fun i => items[i]?.map (p.below i))
  | _ => .ok none

/-- Where the names of a reference begin: at the root of the document, or at as many steps out as
the reference has dots. -/
def start? (p : Place) (dots : Nat) : Option Place :=
  if dots = 0 then some ⟨p.around.getLast?.getD p.here, [], []⟩
  else
    match p.around.drop (dots - 1) with
    | d :: around => some ⟨d, around, p.way.drop dots⟩
    | [] => none

end Place

/-! ### Names -/

/-- Cuts a text at the first character that passes a test and has no backslash in front.  In the
first part a backslash gives way to the mark behind it. -/
def takeSegment (stop : Char → Bool) : List Char → List Char × List Char
  | '\\' :: c :: rest =>
    if Piece.isKeyMark c then
      let (name, rest) := takeSegment stop rest
      (c :: name, rest)
    else
      let (name, rest) := takeSegment stop (c :: rest)
      ('\\' :: name, rest)
  | c :: rest =>
    if stop c then ([], c :: rest)
    else
      let (name, rest) := takeSegment stop rest
      (c :: name, rest)
  | [] => ([], [])

/-- Whether a character ends a name. -/
def endsName (c : Char) : Bool := c = '.' || c = '['

/-- The names behind the first: each with a dot in front, or in brackets. -/
def otherNames : Nat → List Char → List String
  | 0, _ => []
  | _, [] => []
  | fuel + 1, '.' :: rest =>
    let (name, rest) := takeSegment endsName rest
    String.ofList name :: otherNames fuel rest
  | fuel + 1, '[' :: rest =>
    let (name, rest) := takeSegment (· = ']') rest
    String.ofList name :: otherNames fuel rest.tail
  | fuel + 1, _ :: rest => otherNames fuel rest

/-- The names that a text holds with dots and brackets between them. -/
def namesOf (cs : List Char) : List String :=
  let (name, rest) := takeSegment endsName cs
  if name.isEmpty && rest.head? = some '[' then otherNames cs.length rest
  else String.ofList name :: otherNames cs.length rest

example : namesOf "a.b[c].d".toList = ["a", "b", "c", "d"] := by decide +kernel
example : namesOf "[a]..b\\.c".toList = ["a", "", "b.c"] := by decide +kernel

/-! ### What references stand for -/

/-- What an expression stands for. -/
inductive Found where
  /-- A value of a document, with the references of its members as they are. -/
  | place (p : Place)
  /-- A value that is taken as it is. -/
  | plain (d : Datum)
  deriving Repr, Inhabited

namespace Found

/-- The value, with the references of its members as they are. -/
def here : Found → Datum
  | .place p => p.here
  | .plain d => d

/-- The plain text of the value. -/
def text (f : Found) : Except Fault String :=
  if f.here.isShown then .ok f.here.plain else .error (.value Tag.text.name)

/-- The value as a name: a text, or the text of an integer. -/
def name (f : Found) : Except Fault String :=
  match f.here with
  | .text s => .ok s
  | .int _ => f.text
  | _ => .error (.reference "")

end Found

/-- A value as a document inside of what is around a place. -/
def makeDocument (p : Place) (d : Datum) : Except Fault Found := do
  return .place { p with here := ← admitted d }

/-- The document that is made from a value: a text is read, a list or mapping is taken as it is. -/
def documentFrom (p : Place) : Datum → Except Fault Found
  | .null => .ok (.plain .null)
  | .text s => do
    match ← document? s with
    | none | some .null => makeDocument p (.map [])
    | some (.text t) => makeDocument p (.map [(.text t, .null)])
    | some (.list items) => makeDocument p (.list items)
    | some (.map pairs) => makeDocument p (.map pairs)
    | some _ => throw .shape
  | .list items => makeDocument p (.list items)
  | .tuple items => makeDocument p (.tuple items)
  | .map pairs => makeDocument p (.map pairs)
  | _ => .error .shape

/-- A list of references to the values of a mapping, whose own reference is given. -/
def valueReferences (reference : String) (pairs : List (Datum × Datum)) : Datum :=
  let outer := if reference.startsWith "." then "." ++ reference else reference
  .list (pairs.map fun q => .text ("$\x7b" ++ outer ++ "." ++ q.1.plain ++ "\x7d"))

/-- The pairs of the mapping that was found. -/
def needPairs : Option Found → Except Fault (List (Datum × Datum))
  | some (.place p) =>
    match p.here with
    | .map pairs => .ok pairs
    | _ => .error (.reference "")
  | _ => .error (.reference "")

section

variable (environment : Environment)

/-- A variable of the environment, or what stands in for it. -/
def variableOr (name : String) (usual : Option Datum) : Except Fault Found :=
  match environment name, usual with
  | some s, _ => .ok (.plain (.text s))
  | none, some .null => .ok (.plain .null)
  | none, some d => (Found.plain d).text.map fun s => .plain (.text s)
  | none, none => .error (.reference name)

mutual

/-- What the value at a place stands for. -/
def follow : Nat → Place → Except Fault Found
  | fuel + 2, p =>
    match p.here with
    | .text s =>
      if !mayRefer s then .ok (.place { p with here := .text (dropMark s) })
      else
        match Piece.ofText? s with
        | none => .error (.reference s)
        | some [piece] => evaluate fuel p piece
        | some pieces => evaluate (fuel + 1) p (.joined pieces)
    | _ => .ok (.place p)
  | _, _ => .error .depth

/-- What a piece of a text at a place stands for. -/
def evaluate : Nat → Place → Piece → Except Fault Found
  | 0, _, _ => .error .depth
  | fuel + 1, p, piece =>
    match piece with
    | .value d => .ok (.plain d)
    | .reference key => do
      let names ← key.mapM fun k => do (← evaluate fuel p k).name
      match ← select fuel p (String.join names) with
      | some (.place q) => if q.isAround p then throw .depth else return .place q
      | some f => return f
      | none => throw (.reference (String.join names))
    | .call name arguments => do
      let names ← name.mapM fun k => do (← evaluate fuel p k).name
      let values ← arguments.mapM fun a => do return (← evaluate fuel p a).here
      apply fuel p (String.join names) values
    | .joined parts => do
      let texts ← parts.mapM fun part => do (← evaluate fuel p part).text
      return .plain (.text (String.join texts))
    | .list items => do
      return .plain (.list (← items.mapM fun item => do return (← evaluate fuel p item).here))
    | .map pairs => do
      let members ← pairs.mapM fun q => do
        return ((← evaluate fuel p q.1).here, (← evaluate fuel p q.2).here)
      return .plain (.ofPairs members)

/-- What a text of names refers to from a place, if there is something. -/
def select : Nat → Place → String → Except Fault (Option Found)
  | 0, _, _ => .error .depth
  | fuel + 1, p, reference => do
    let dots := reference.toList.takeWhile (· = '.')
    let rest := reference.toList.drop dots.length
    match p.start? dots.length with
    | none => throw (.reference reference)
    | some start =>
      if rest.isEmpty then return some (.place start)
      else
        let names := namesOf rest
        let owner ← names.dropLast.foldlM (fun (q : Option Place) name => do
          match q with
          | none => return none
          | some q =>
            match ← q.enter name with
            | none => return none
            | some q =>
              if q.isAbsent then return none
              else
                match ← follow fuel q with
                | .place q => return if q.hasMembers then some q else none
                | .plain _ => return none) (some start)
        match owner with
        | none => return none
        | some owner =>
          match ← owner.enter (names.getLastD "") with
          | none => return none
          | some q => if q.isAbsent then return none else return some (← follow fuel q)

/-- What a function gives for arguments in a text at a place. -/
def apply : Nat → Place → String → List Datum → Except Fault Found
  | 0, _, _, _ => .error .depth
  | fuel + 1, p, name, arguments =>
    match name, arguments with
    | "oc.env", [.text s] => variableOr environment s none
    | "oc.env", [.text s, usual] => variableOr environment s (some usual)
    | "oc.create", [d] => documentFrom p d
    | "oc.decode", [.null] => .ok (.plain .null)
    | "oc.decode", [.text s] =>
      match Piece.ofArgument? s with
      | some piece => evaluate fuel p piece
      | none => .error (.reference s)
    | "oc.select", [.text s] => do return (← select fuel p s).getD (.plain .null)
    | "oc.select", [.text s, usual] => do return (← select fuel p s).getD (.plain usual)
    | "oc.dict.keys", [.text s] => do
      makeDocument p (.list ((← needPairs (← select fuel p s)).map Prod.fst))
    | "oc.dict.values", [.text s] => do
      makeDocument p (valueReferences s (← needPairs (← select fuel p s)))
    | "oc.deprecated", [.text s] | "oc.deprecated", [.text s, .text _] => do
      match ← select fuel p s with
      | some f => return f
      | none => throw (.reference s)
    | _, _ => .error (.reference name)

end

/-- How far expressions may be nested in each other, whether they are written so or reached by
references. -/
def expressionDepth : Nat := 232

mutual

/-- The value at a place with all references resolved, down to a depth. -/
def resolvedWithin : Nat → Place → Except Fault Datum
  | 0, _ => .error .depth
  | fuel + 1, p =>
    match p.here with
    | .text s =>
      if s = absentMark then .ok p.here
      else do
        match ← follow environment expressionDepth p with
        | .plain d => return d
        | .place q => if q.hasMembers then membersWithin fuel q else return q.here
    | _ => membersWithin fuel p

/-- The value at a place with the references in the members of lists and mappings resolved, down to
a depth. -/
def membersWithin : Nat → Place → Except Fault Datum
  | 0, _ => .error .depth
  | fuel + 1, p =>
    let items (ds : List Datum) : Except Fault (List Datum) :=
      ds.zipIdx.mapM fun q => resolvedWithin fuel (p.below q.2 q.1)
    match p.here with
    | .list ds => do return .list (← items ds)
    | .tuple ds => do return .tuple (← items ds)
    | .map pairs => do
      return .map (← pairs.zipIdx.mapM fun q => do
        return (q.1.1, ← resolvedWithin fuel (p.below q.2 q.1.2)))
    | d => .ok d

end

/-- How deep values may be nested in each other once references are resolved. -/
def resolvedDepth : Nat := 1000

/-- A document with all references resolved. -/
def resolve (d : Datum) : Except Fault Datum := resolvedWithin environment resolvedDepth ⟨d, [], []⟩

end

end Vitae.Yaml
