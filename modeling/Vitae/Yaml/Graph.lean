import Vitae.Yaml.Tag
import Vitae.Yaml.Token

/-!
# Node graphs

A document as numbered nodes, each with its tag.  A node names the nodes below it by their numbers,
and an alias is the number of the node that it refers to, so that a node may stand at several places
and even below itself.
-/

namespace Vitae.Yaml

/-- What a node is made of.  Other nodes are given by their numbers. -/
inductive Content where
  /-- A scalar with its text. -/
  | scalar (text : String)
  /-- A list of nodes. -/
  | sequence (items : List Nat)
  /-- A mapping, as its pairs in order. -/
  | mapping (pairs : List (Nat × Nat))
  deriving DecidableEq, Repr, Inhabited

/-- A node of a document. -/
structure Node where
  /-- What kind of value it stands for. -/
  tag : Tag
  /-- What it is made of. -/
  content : Content
  deriving DecidableEq, Repr, Inhabited

/-- A document as its nodes. -/
structure Graph where
  /-- The nodes, each at its number. -/
  nodes : Array Node
  /-- The node that is the document. -/
  root : Nat
  deriving Repr, Inhabited

/-! ### Building graphs -/

/-- How many aliases a document may have. -/
def aliasLimit : Nat := 1000

/-- The state of building a graph. -/
structure Build where
  /-- The tokens that are still to be used. -/
  rest : List Token
  /-- What the tag handles stand for. -/
  handles : List (String × String)
  /-- The nodes so far. -/
  nodes : Array Node := #[]
  /-- The anchors so far, with the nodes that they name. -/
  anchors : List (String × Nat) := []
  /-- How many aliases there were. -/
  aliases : Nat := 0

/-- A step in building a graph. -/
abbrev Builder := StateT Build (Except Fault)

namespace Builder

/-- The properties in front of a node. -/
structure Properties where
  /-- The name of the node. -/
  anchor : Option String := none
  /-- The full name of its tag. -/
  tag : Option String := none

/-- The next token. -/
def peek : Builder Token := do return (← get).rest.headD .streamEnd

/-- Passes over the next token. -/
def advance : Builder Unit := modify fun b => { b with rest := b.rest.tail }

/-- Passes over the next token if it is the given one, and says whether it was. -/
def skip (t : Token) : Builder Bool := do
  if (← peek) = t then
    advance
    return true
  else return false

/-- The full name of a tag.  The handle has to be known; a tag without handle is its own name. -/
def tagName (handle suffix : String) : Builder String := do
  if handle = "" then return suffix
  else
    match (← get).handles.lookup handle with
    | some meaning => return meaning ++ suffix
    | none => throw .parts

/-- Reads the properties in front of a node, in either order. -/
def properties : Builder Properties := do
  match ← peek with
  | .anchor name =>
    advance
    match ← peek with
    | .tag handle suffix =>
      advance
      return { anchor := some name, tag := some (← tagName handle suffix) }
    | _ => return { anchor := some name }
  | .tag handle suffix =>
    advance
    let tag ← tagName handle suffix
    match ← peek with
    | .anchor name =>
      advance
      return { anchor := some name, tag := some tag }
    | _ => return { tag := some tag }
  | _ => return {}

/-- Adds a node, which an anchor names from now on; the anchor must be a new one. -/
def add (anchor : Option String) (n : Node) : Builder Nat := do
  match anchor with
  | none => modifyGet fun b => (b.nodes.size, { b with nodes := b.nodes.push n })
  | some name =>
    if ((← get).anchors.lookup name).isSome then throw (.anchor name)
    else modifyGet fun b => (b.nodes.size,
      { b with nodes := b.nodes.push n, anchors := (name, b.nodes.size) :: b.anchors })

/-- Says what a node is made of that was added before. -/
def complete (id : Nat) (n : Node) : Builder Nat :=
  modifyGet fun b => (id, { b with nodes := b.nodes.setIfInBounds id n })

/-- The node that an alias refers to. -/
def aliased (name : String) : Builder Nat := do
  modify fun b => { b with aliases := b.aliases + 1 }
  if aliasLimit < (← get).aliases then throw .aliases
  else
    match (← get).anchors.lookup name with
    | some id => return id
    | none => throw (.anchor name)

/-- The tag that means no particular kind. -/
def plainMark : String := "!"

/-- The tag of a scalar. -/
def scalarTag (tag : Option String) (text : String) (plain : Bool) : Tag :=
  match tag with
  | none => if plain then .ofPlain text else .text
  | some name => if name = plainMark then .ofPlain text else .ofName name

/-- A scalar without text, which stands where a node is missing. -/
def missing (tag : Option String) : Node :=
  match tag with
  | none => ⟨.null, .scalar ""⟩
  | some name => ⟨if name = plainMark then .text else .ofName name, .scalar ""⟩

/-- Adds a scalar without text where a node is missing. -/
def addMissing : Builder Nat := add none (missing none)

/-- The tag of a list or mapping; the given one if none is stated. -/
def collectionTag (usual : Tag) (tag : Option String) : Tag :=
  match tag with
  | none => usual
  | some name => if name = plainMark then usual else .ofName name

/-- Adds a list whose items are read by a step. -/
def addSequence (p : Properties) (items : Builder (List Nat)) : Builder Nat := do
  let tag := collectionTag .sequence p.tag
  let id ← add p.anchor ⟨tag, .sequence []⟩
  complete id ⟨tag, .sequence (← items)⟩

/-- Adds a mapping whose pairs are read by a step. -/
def addMapping (p : Properties) (pairs : Builder (List (Nat × Nat))) : Builder Nat := do
  let tag := collectionTag .mapping p.tag
  let id ← add p.anchor ⟨tag, .mapping []⟩
  complete id ⟨tag, .mapping (← pairs)⟩

/-- Passes over the comma in front of an item, unless the item is the first. -/
def separate (first : Bool) : Builder Unit := do
  if first then return
  else if ← skip .flowEntry then return
  else throw .parts

mutual

/-- Reads a node.  A list or mapping by indentation may stand only in a `block`; the items of a list
may have no indentation of their own where `indentless` says so. -/
def node : Nat → Bool → Bool → Builder Nat
  | 0, _, _ => throw .parts
  | fuel + 1, block, indentless => do
    match ← peek with
    | .alias name =>
      advance
      aliased name
    | _ =>
      let p ← properties
      match ← peek with
      | .scalar text plain =>
        advance
        add p.anchor ⟨scalarTag p.tag text plain, .scalar text⟩
      | .flowSequenceStart =>
        advance
        addSequence p (flowItems fuel true)
      | .flowMappingStart =>
        advance
        addMapping p (flowPairs fuel true)
      | t =>
        if indentless && t = .blockEntry then
          addSequence p (indentlessItems fuel)
        else if block && t = .blockSequenceStart then do
          advance
          addSequence p (blockItems fuel)
        else if block && t = .blockMappingStart then do
          advance
          addMapping p (blockPairs fuel)
        else if p.anchor.isSome || p.tag.isSome then add p.anchor (missing p.tag)
        else throw .parts

/-- Reads a node, or nothing if the next token is one of those that follow a missing node. -/
def nodeUnless : Nat → List Token → Bool → Bool → Builder Nat
  | 0, _, _, _ => throw .parts
  | fuel + 1, stops, block, indentless => do
    if stops.contains (← peek) then addMissing else node fuel block indentless

/-- Reads the items of a list by indentation, up to the end of its block. -/
def blockItems : Nat → Builder (List Nat)
  | 0 => throw .parts
  | fuel + 1 => do
    if ← skip .blockEntry then
      let item ← nodeUnless fuel [.blockEntry, .blockEnd] true false
      return item :: (← blockItems fuel)
    else if ← skip .blockEnd then return []
    else throw .parts

/-- Reads the items of a list that has no indentation of its own. -/
def indentlessItems : Nat → Builder (List Nat)
  | 0 => throw .parts
  | fuel + 1 => do
    if ← skip .blockEntry then
      let item ← nodeUnless fuel [.blockEntry, .key, .value, .blockEnd] true false
      return item :: (← indentlessItems fuel)
    else return []

/-- Reads the pairs of a mapping by indentation, up to the end of its block. -/
def blockPairs : Nat → Builder (List (Nat × Nat))
  | 0 => throw .parts
  | fuel + 1 => do
    if ← skip .key then
      let stops : List Token := [.key, .value, .blockEnd]
      let key ← nodeUnless fuel stops true true
      let value ← if ← skip .value then nodeUnless fuel stops true true else addMissing
      return (key, value) :: (← blockPairs fuel)
    else if ← skip .blockEnd then return []
    else throw .parts

/-- Reads the items of a list in brackets, up to its closing bracket.  A comma stands between two
items and may stand behind the last. -/
def flowItems : Nat → Bool → Builder (List Nat)
  | 0, _ => throw .parts
  | fuel + 1, first => do
    if ← skip .flowSequenceEnd then return []
    else
      separate first
      if ← skip .flowSequenceEnd then return []
      else
        let item ←
          if ← skip .key then do
            let key ← node fuel false false
            let value ← flowValue fuel [.flowEntry, .flowSequenceEnd]
            add none ⟨.mapping, .mapping [(key, value)]⟩
          else node fuel false false
        return item :: (← flowItems fuel false)

/-- Reads the pairs of a mapping in braces, up to its closing brace. -/
def flowPairs : Nat → Bool → Builder (List (Nat × Nat))
  | 0, _ => throw .parts
  | fuel + 1, first => do
    if ← skip .flowMappingEnd then return []
    else
      separate first
      if ← skip .flowMappingEnd then return []
      else
        let pair ←
          if ← skip .key then do
            let key ← nodeUnless fuel [.value, .flowEntry, .flowMappingEnd] false false
            let value ← flowValue fuel [.flowEntry, .flowMappingEnd]
            pure (key, value)
          else do
            let key ← node fuel false false
            pure (key, ← addMissing)
        return pair :: (← flowPairs fuel false)

/-- Reads the value of a key inside brackets, if it has one. -/
def flowValue : Nat → List Token → Builder Nat
  | 0, _ => throw .parts
  | fuel + 1, stops => do
    if ← skip .value then nodeUnless fuel stops false false else addMissing

end

/-! ### Documents -/

/-- Reads the directives in front of a document: at most one version, which must be 1.1 or 1.2, and
the meanings of tag handles, each at most once.  The answer is the handles and the tokens behind. -/
def directives (versioned : Bool) (handles : List (String × String)) :
    List Token → Except Fault (List (String × String) × List Token)
  | .versionDirective major minor :: rest =>
    if versioned || major ≠ 1 || (minor ≠ 1 && minor ≠ 2) then .error .parts
    else directives true handles rest
  | .tagDirective handle meaning :: rest =>
    if (handles.lookup handle).isSome then .error .parts
    else directives versioned (handles ++ [(handle, meaning)]) rest
  | rest => .ok (handles, rest)

/-- The meanings that tag handles have when no directive says otherwise. -/
def usualHandles : List (String × String) := [("!", "!"), ("!!", Tag.family)]

/-- Whether a document without marker begins with a token. -/
def startsBare : Token → Bool
  | .versionDirective _ _ | .tagDirective _ _ | .documentStart | .streamEnd => false
  | _ => true

/-- Whether the document is empty if its marker is followed by a token. -/
def endsDocument : Token → Bool
  | .versionDirective _ _ | .tagDirective _ _ | .documentStart | .documentEnd | .streamEnd => true
  | _ => false

/-- The content of a document, and the tokens behind it. -/
def content (handles : List (String × String)) (tokens : List Token) :
    Except Fault (Graph × List Token) :=
  if endsDocument (tokens.headD .streamEnd) then .ok (⟨#[missing none], 0⟩, tokens)
  else
    let start : Build := { rest := tokens, handles := handles ++ usualHandles }
    (node (3 * tokens.length + 3) true false start).map fun r => (⟨r.2.nodes, r.1⟩, r.2.rest)

/-- The first document of a list of tokens, and the tokens behind it. -/
def document (tokens : List Token) : Except Fault (Graph × List Token) := do
  if startsBare (tokens.headD .streamEnd) then
    if tokens.head? = some .documentEnd then throw .parts
    else content [] tokens
  else
    match ← directives false [] tokens with
    | (handles, .documentStart :: rest) => content handles rest
    | _ => throw .parts

end Builder

/-- The only document of a list of tokens; none if there is no document at all. -/
def Graph.ofTokens? (tokens : List Token) : Except Fault (Option Graph) := do
  if tokens.head? = some .streamEnd then return none
  else
    let (graph, rest) ← Builder.document tokens
    match rest.dropWhile (· = .documentEnd) with
    | [.streamEnd] => return some graph
    | _ => throw .documents

end Vitae.Yaml
