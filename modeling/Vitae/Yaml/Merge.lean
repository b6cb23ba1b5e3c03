import Vitae.Yaml.Value

/-!
# Merging mappings

A mapping may merge others into itself.  Their pairs come in front of its own, save those under a
text that is a key of its own; of several mappings the last comes first.  A mapping is checked for
keys that stand twice whenever it is looked at, so also once it holds what was merged into it.  Only
the nodes that are left below the document afterwards need to have values.
-/

namespace Vitae.Yaml.Graph

/-- The texts of the keys that are texts. -/
def textKeys (g : Graph) (pairs : List (Nat × Nat)) : Except Fault (List String) :=
  (pairs.filter fun p => g.tag p.1 = .text).mapM fun p =>
    match (g.node p.1).content with
    | .scalar s => .ok s
    | _ => .error .key

/-- The first text that stands more than once in a list. -/
def repeated? : List String → Option String
  | [] => none
  | s :: rest => if rest.contains s then some s else repeated? rest

/-- The texts of the keys of a mapping that are texts, each of which must stand there once. -/
def checkedKeys (g : Graph) (pairs : List (Nat × Nat)) : Except Fault (List String) := do
  let texts ← g.textKeys pairs
  match repeated? texts with
  | some s => throw (.duplicate s)
  | none => return texts

/-- The graph with other pairs in a mapping. -/
def setPairs (g : Graph) (id : Nat) (pairs : List (Nat × Nat)) : Graph :=
  { g with nodes := g.nodes.setIfInBounds id ⟨g.tag id, .mapping pairs⟩ }

/-- The graph with the keys for default values taken as texts. -/
def nameDefaults (g : Graph) (pairs : List (Nat × Nat)) : Graph :=
  pairs.foldl (fun g p =>
    if g.tag p.1 = .default then
      { g with nodes := g.nodes.setIfInBounds p.1 ⟨.text, (g.node p.1).content⟩ }
    else g) g

/-- The pairs without those under one of the given texts. -/
def withoutKeys (g : Graph) (texts : List String) (pairs : List (Nat × Nat)) :
    List (Nat × Nat) :=
  pairs.filter fun p => !(g.tag p.1 = .text && (g.text? p.1).any texts.contains)

mutual

/-- Carries out the merges of a mapping and of those that it merges, down to a depth. -/
def mergeWithin : Nat → Nat → Graph → Except Fault Graph
  | 0, _, _ => .error .depth
  | fuel + 1, id, g => do
    let pairs := g.pairs id
    let texts ← g.checkedKeys pairs
    let own := pairs.filter fun p => g.tag p.1 ≠ .merge
    let sources := (pairs.filter fun p => g.tag p.1 = .merge).map Prod.snd
    if sources.isEmpty then return g.nameDefaults own
    let g := (g.nameDefaults own).setPairs id own
    let (merged, g) ← sources.foldlM (fun (acc : List (Nat × Nat) × Graph) source => do
      let (pairs, g) ← mergedPairs fuel source acc.2
      return (acc.1 ++ pairs, g)) ([], g)
    return g.setPairs id (g.withoutKeys texts merged ++ own)

/-- The pairs that the value of a merge key gives: those of a mapping, or of a list of mappings, of
which the last come first. -/
def mergedPairs : Nat → Nat → Graph → Except Fault (List (Nat × Nat) × Graph)
  | 0, _, _ => .error .depth
  | fuel + 1, id, g =>
    match (g.node id).content with
    | .mapping _ => do
      let g ← mergeWithin fuel id g
      return (g.pairs id, g)
    | .sequence items =>
      items.foldlM (fun (acc : List (Nat × Nat) × Graph) item => do
        match (acc.2.node item).content with
        | .mapping _ =>
          let g ← mergeWithin fuel item acc.2
          return (g.pairs item ++ acc.1, g)
        | _ => throw (.value Tag.merge.name)) ([], g)
    | .scalar _ => .error (.value Tag.merge.name)

end

/-- Carries out the merges of a mapping and of those that it merges. -/
def merge (id : Nat) (g : Graph) : Except Fault Graph := mergeWithin (2 * g.depth) id g

/-! ### The nodes of a document -/

/-- A graph with the nodes that were visited. -/
structure Visit where
  /-- The graph. -/
  graph : Graph
  /-- Which of its nodes were visited. -/
  seen : Array Bool

/-- A step of visiting nodes. -/
abbrev Visitor := StateT Visit (Except Fault)

/-- Whether a node stands for a value that can be a key: none that has members. -/
def canBeKey (n : Node) : Bool :=
  n.tag ≠ .sequence && n.tag ≠ .mapping && n.tag ≠ .pairs && n.tag ≠ .set

/-- Checks that a node of a kind without members has a value. -/
def checkScalar (g : Graph) (id : Nat) : Except Fault Unit := do
  if g.tag id = .timestamp && (g.text? id).any isTimestamp then return
  else discard (valueOf (g.tag id) (g.text? id))

/-- Visits a node and those below it that were not visited yet, down to a depth: carries out the
merges of mappings and checks that the nodes have values. -/
def visit : Nat → Nat → Visitor Unit
  | 0, _ => throw .depth
  | fuel + 1, id => do
    if (← get).seen.getD id false then return
    modify fun v => { v with seen := v.seen.setIfInBounds id true }
    let n := (← get).graph.node id
    match n.tag, n.content with
    | .sequence, .sequence items => items.forM (visit fuel)
    | .path, .sequence items =>
      items.forM (visit fuel)
      discard ((← get).graph.valueWithin (← get).graph.depth id)
    | .pairs, .sequence items => items.forM fun item => do
      match (← get).graph.pairs item with
      | [(key, value)] =>
        visit fuel key
        visit fuel value
      | _ => throw (.value Tag.pairs.name)
    | .mapping, .mapping _ | .set, .mapping _ =>
      let g ← merge id (← get).graph
      modify fun v => { v with graph := g }
      (g.pairs id).forM fun p => do
        visit fuel p.1
        if canBeKey ((← get).graph.node p.1) then visit fuel p.2 else throw .key
    | _, _ => checkScalar (← get).graph id

/-- The document with all merges carried out. -/
def merged (g : Graph) : Except Fault Graph := do
  let start : Visit := { graph := g, seen := Array.replicate g.nodes.size false }
  return (← (visit g.depth g.root).run start).2.graph

end Vitae.Yaml.Graph
