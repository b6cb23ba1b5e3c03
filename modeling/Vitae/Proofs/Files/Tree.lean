import Mathlib.Data.List.Infix
import Vitae.Files

/-!
# Places in a tree

A place of a tree is given by the names on the way there from the root (`Node.at?`). When something
is put at a place in a directory, what stands at the place is what was put there
(`at?_put_append`), and wherever the place is not on the way nothing changes but the members of
directories (`bytes?_at?_put`). A path is followed segment by segment (`Files.step`), and it leads to
the same place in every tree that has grown out of the one in which it was followed
(`exists_walk_of_grows`).
-/

namespace Vitae

namespace Node

/-- What stands at a place below a node. -/
def at? : Node → List String → Option Node
  | node, [] => some node
  | node, name :: names => (node.member? name).bind fun child => child.at? names

/-- The bytes of a file; a directory has none. -/
def bytes? : Node → Option ByteArray
  | .file content => some content
  | .dir _ => none

/-- Nothing stands below the node. -/
def IsLeaf (node : Node) : Prop := ∀ name, node.member? name = none

/-- The directory in which the place lies is there. -/
def IsOpenAt (root : Node) (p : List String) : Prop :=
  ∀ place name, p = place ++ [name] → ∃ members, root.at? place = some (.dir members)

/-- Whatever stands in the first tree stands in the second one too, a file as a file and a
directory as a directory. -/
def Grows (root root' : Node) : Prop :=
  ∀ q n, root.at? q = some n → ∃ n', root'.at? q = some n' ∧ n'.isDir = n.isDir

variable {root root' node : Node} {p q : List String} {name : String}

@[simp] theorem at?_nil (node : Node) : node.at? [] = some node := by cases node <;> rfl

@[simp] theorem at?_cons (node : Node) (name : String) (names : List String) :
    node.at? (name :: names) = (node.member? name).bind fun child => child.at? names := by
  cases node <;> rfl

theorem at?_append (root : Node) (p q : List String) :
    root.at? (p ++ q) = (root.at? p).bind fun node => node.at? q := by
  induction p generalizing root with
  | nil => rw [List.nil_append, at?_nil, Option.bind_some]
  | cons name p ih =>
    rw [List.cons_append, at?_cons, at?_cons, Option.bind_assoc]
    exact Option.bind_congr fun child _ => ih child

theorem isDir_eq_isNone (node : Node) : node.isDir = node.bytes?.isNone := by cases node <;> rfl

theorem isDir_iff : node.isDir = true ↔ ∃ members, node = .dir members := by
  cases node with
  | file content => exact iff_of_false nofun fun ⟨_, h⟩ => nomatch h
  | dir members => exact iff_of_true rfl ⟨members, rfl⟩

theorem isDir_of_member? (h : root.member? name = some node) : root.isDir = true := by
  cases root with
  | file content => cases h
  | dir members => rfl

theorem isLeaf_file (content : ByteArray) : (Node.file content).IsLeaf := fun _ => rfl

theorem isLeaf_emptyDir : (Node.dir []).IsLeaf := fun _ => rfl

theorem IsLeaf.at?_eq_none (h : node.IsLeaf) (hq : q ≠ []) : node.at? q = none := by
  cases q with
  | nil => exact absurd rfl hq
  | cons name names => rw [at?_cons, h name, Option.bind_none]

/-- What stands somewhere stands in a directory. -/
theorem isOpenAt_of_at? (h : root.at? p = some node) : root.IsOpenAt p := by
  rintro place name rfl
  rw [at?_append] at h
  obtain ⟨parent, hparent, hnode⟩ := Option.bind_eq_some_iff.mp h
  rw [at?_cons] at hnode
  obtain ⟨child, hchild, -⟩ := Option.bind_eq_some_iff.mp hnode
  obtain ⟨members, rfl⟩ := isDir_iff.mp (isDir_of_member? hchild)
  exact ⟨members, hparent⟩

theorem isOpenAt_append {members : List (String × Node)} (h : root.at? p = some (.dir members)) :
    root.IsOpenAt (p ++ [name]) := by
  intro place name' heq
  obtain ⟨rfl, -⟩ := List.append_inj' heq rfl
  exact ⟨members, h⟩

/-- The way to an open place begins at a directory. -/
theorem IsOpenAt.exists_members (h : root.IsOpenAt (name :: p)) : ∃ members, root = .dir members := by
  rcases List.eq_nil_or_concat' p with rfl | ⟨place, last, rfl⟩
  · obtain ⟨members, hmembers⟩ := h [] name rfl
    rw [at?_nil] at hmembers
    exact ⟨members, Option.some.inj hmembers⟩
  · obtain ⟨members, hmembers⟩ := h (name :: place) last rfl
    rw [at?_cons] at hmembers
    obtain ⟨child, hchild, -⟩ := Option.bind_eq_some_iff.mp hmembers
    exact isDir_iff.mp (isDir_of_member? hchild)

/-- It goes on in the directory of its first name, unless that is the last one. -/
theorem IsOpenAt.exists_child {members : List (String × Node)} (h : (Node.dir members).IsOpenAt (name :: p))
    (hp : p ≠ []) : ∃ child, members.lookup name = some child ∧ child.IsOpenAt p := by
  obtain ⟨place, last, rfl⟩ := (List.eq_nil_or_concat' p).resolve_left hp
  obtain ⟨inner, hinner⟩ := h (name :: place) last rfl
  rw [at?_cons] at hinner
  obtain ⟨child, hchild, -⟩ := Option.bind_eq_some_iff.mp hinner
  refine ⟨child, hchild, fun place' last' heq => ?_⟩
  obtain ⟨inner', hinner'⟩ := h (name :: place') last' (by rw [heq]; rfl)
  rw [at?_cons, hchild, Option.bind_some] at hinner'
  exact ⟨inner', hinner'⟩

/-! ### Putting something at a place -/

theorem lookup_putMember (name : String) (node : Node) (members : List (String × Node)) (n : String) :
    (putMember name node members).lookup n = if n = name then some node else members.lookup n := by
  have hcons : ∀ (m : String) (old : Node) (rest : List (String × Node)),
      ((m, old) :: rest).lookup n = if n = m then some old else rest.lookup n := by
    intro m old rest
    by_cases h : n = m
    · rw [if_pos h, h, List.lookup_cons_self]
    · rw [if_neg h, List.lookup_cons, beq_eq_false_iff_ne.mpr h]
  induction members with
  | nil => rw [putMember, hcons]
  | cons member members ih =>
    obtain ⟨m, old⟩ := member
    by_cases hm : m = name
    · rw [putMember, if_pos hm, hcons, hcons, hm]
      by_cases h : n = name
      · rw [if_pos h, if_pos h]
      · rw [if_neg h, if_neg h, if_neg h]
    · rw [putMember, if_neg hm, hcons, hcons, ih]
      by_cases h : n = m
      · rw [if_pos h, if_neg (h ▸ hm), if_pos h]
      · rw [if_neg h, if_neg h]

theorem at?_put_append (node root : Node) (p q : List String) :
    (node.put p root).at? (p ++ q) = node.at? q := by
  induction p generalizing root with
  | nil => rw [List.nil_append, put]
  | cons name p ih =>
    cases root with
    | dir members =>
      rw [put, List.cons_append, at?_cons, member?, lookup_putMember, if_pos rfl, Option.bind_some, ih]
    | file content =>
      rw [put, List.cons_append, at?_cons, member?, List.lookup_cons_self, Option.bind_some, ih]

/-- Where something is put into a directory, all else stays, but for members of directories. -/
theorem bytes?_at?_put (node : Node) (hopen : root.IsOpenAt p) (hq : ¬ p <+: q) :
    ((node.put p root).at? q).map bytes? = (root.at? q).map bytes? := by
  induction p generalizing root q with
  | nil => exact absurd List.nil_prefix hq
  | cons name p ih =>
    obtain ⟨members, rfl⟩ := hopen.exists_members
    rw [put]
    cases q with
    | nil =>
      rw [at?_nil, at?_nil]
      rfl
    | cons x q =>
      rw [at?_cons, at?_cons, member?, member?, lookup_putMember]
      by_cases hx : x = name
      · subst hx
        have hrest : ¬ p <+: q := fun hpre => hq (List.cons_prefix_cons.mpr ⟨rfl, hpre⟩)
        have hne : p ≠ [] := by
          rintro rfl
          exact hrest List.nil_prefix
        obtain ⟨child, hchild, hinner⟩ := hopen.exists_child hne
        rw [if_pos rfl, hchild, Option.getD_some, Option.bind_some, Option.bind_some]
        exact ih hinner hrest
      · rw [if_neg hx]

/-- What is put where nothing or a file stood makes the tree grow; a file is only replaced by a file. -/
theorem grows_put (hopen : root.IsOpenAt p)
    (hold : ∀ n, root.at? p = some n → n.IsLeaf ∧ n.isDir = node.isDir) : Grows root (node.put p root) := by
  intro q n hn
  by_cases hq : p <+: q
  · obtain ⟨rest, rfl⟩ := hq
    rw [at?_append] at hn
    obtain ⟨old, hat, hrest⟩ := Option.bind_eq_some_iff.mp hn
    obtain ⟨hleaf, hdir⟩ := hold old hat
    rcases eq_or_ne rest [] with rfl | hne
    · rw [at?_nil] at hrest
      rw [at?_put_append, at?_nil, ← Option.some.inj hrest]
      exact ⟨node, rfl, hdir.symm⟩
    · rw [hleaf.at?_eq_none hne] at hrest
      cases hrest
  · have hsame := bytes?_at?_put node hopen hq
    rw [hn, Option.map_some] at hsame
    obtain ⟨n', hn', hbytes⟩ := Option.map_eq_some_iff.mp hsame
    exact ⟨n', hn', by rw [isDir_eq_isNone, isDir_eq_isNone, hbytes]⟩

end Node

namespace Files

/-- The bytes of the file at a place. -/
def fileAt? (files : Files) (place : List String) : Option ByteArray := (files.root.at? place).bind Node.bytes?

/-- When a file or an empty directory takes the place of one, or of nothing, the files elsewhere stay
what they are. -/
theorem fileAt?_putAt {files : Files} {p q : List String} {node : Node} (hopen : files.root.IsOpenAt p)
    (hold : ∀ n, files.root.at? p = some n → n.IsLeaf) (hnew : node.IsLeaf) (hq : q ≠ p) :
    (files.putAt p node).fileAt? q = files.fileAt? q := by
  rw [fileAt?, fileAt?, putAt]
  by_cases hpre : p <+: q
  · obtain ⟨rest, rfl⟩ := hpre
    have hne : rest ≠ [] := fun h => hq (by rw [h, List.append_nil])
    have hnone : files.root.at? (p ++ rest) = none := by
      rw [Node.at?_append, Option.bind_eq_none_iff]
      exact fun n hn => (hold n hn).at?_eq_none hne
    rw [Node.at?_put_append, hnew.at?_eq_none hne, hnone]
  · have hsame := Node.bytes?_at?_put node hopen hpre
    simpa only [Option.bind_map, Function.id_comp] using congrArg (Option.bind · id) hsame

/-! ### Following a path -/

/-- What stands at the end of a way, whose last step comes first. -/
def endOf (root : Node) (way : List (String × Node)) : Node := (way.head?.map Prod.snd).getD root

/-- The place to which a way leads. -/
def placeOf (way : List (String × Node)) : List String := (way.map Prod.fst).reverse

/-- The ways that the tree has. -/
inductive IsWay (root : Node) : List (String × Node) → Prop where
  /-- The way that stays at the root. -/
  | nil : IsWay root []
  /-- A way goes on to a member of the directory at its end. -/
  | cons {way : List (String × Node)} {name : String} {node : Node} (h : IsWay root way)
    (hmember : (endOf root way).member? name = some node) : IsWay root ((name, node) :: way)

/-- One segment of a path is followed. -/
def step (root : Node) (way : List (String × Node)) (segment : String) :
    Except PathError (List (String × Node)) :=
  if !(endOf root way).isDir then .error .notDirectory
  else if segment = ".." then .ok way.tail
  else if segmentLimit < segment.utf8ByteSize then .error .tooLong
  else match (endOf root way).member? segment with
    | none => .error .missing
    | some node => .ok ((segment, node) :: way)

variable {root root' : Node} {way way' out : List (String × Node)} {segment : String}

theorem placeOf_cons (name : String) (node : Node) (way : List (String × Node)) :
    placeOf ((name, node) :: way) = placeOf way ++ [name] := by
  rw [placeOf, placeOf, List.map_cons, List.reverse_cons]

theorem placeOf_tail (way : List (String × Node)) : placeOf way.tail = (placeOf way).dropLast := by
  rw [placeOf, placeOf, List.map_tail, List.dropLast_reverse]

theorem IsWay.at? (h : IsWay root way) : root.at? (placeOf way) = some (endOf root way) := by
  induction h with
  | nil => exact Node.at?_nil root
  | cons _ hmember ih =>
    rw [placeOf_cons, Node.at?_append, ih, Option.bind_some, Node.at?_cons, hmember, Option.bind_some,
      Node.at?_nil]
    rfl

theorem walk_cons (root : Node) (way : List (String × Node)) (segment : String) (segments : List String) :
    walk root way (segment :: segments) = (step root way segment).bind fun way => walk root way segments := by
  rw [walk, step]
  unfold endOf
  split
  · rfl
  · split
    · rfl
    · split
      · rfl
      · cases ((way.head?.map Prod.snd).getD root).member? segment <;> rfl

theorem walk_append (root : Node) (way : List (String × Node)) (first second : List String) :
    walk root way (first ++ second) = (walk root way first).bind fun way => walk root way second := by
  induction first generalizing way with
  | nil => rfl
  | cons segment first ih =>
    rw [List.cons_append, walk_cons, walk_cons]
    cases step root way segment with
    | error cause => rfl
    | ok way => exact ih way

/-- A segment is followed back, or on to a member of the directory. -/
theorem step_cases (h : step root way segment = .ok out) :
    (endOf root way).isDir = true ∧ (segment = ".." ∧ out = way.tail ∨
      segment ≠ ".." ∧ segment.utf8ByteSize ≤ segmentLimit ∧
        ∃ node, (endOf root way).member? segment = some node ∧ out = (segment, node) :: way) := by
  rw [step] at h
  split at h
  · cases h
  · rename_i hdir
    refine ⟨by simpa using hdir, ?_⟩
    split at h
    · exact .inl ⟨‹_›, (Except.ok.inj h).symm⟩
    · split at h
      · cases h
      · split at h
        · cases h
        · exact .inr ⟨‹_›, Nat.le_of_not_lt ‹_›, _, ‹_›, (Except.ok.inj h).symm⟩

theorem step_missing (h : step root way segment = .error .missing) :
    (endOf root way).isDir = true ∧ segment ≠ ".." ∧ segment.utf8ByteSize ≤ segmentLimit ∧
      (endOf root way).member? segment = none := by
  rw [step] at h
  split at h
  · cases h
  · rename_i hdir
    refine ⟨by simpa using hdir, ?_⟩
    split at h
    · cases h
    · split at h
      · cases h
      · split at h
        · exact ⟨‹_›, Nat.le_of_not_lt ‹_›, ‹_›⟩
        · cases h

theorem step_member {node : Node} (hparent : segment ≠ "..") (hlength : segment.utf8ByteSize ≤ segmentLimit)
    (hmember : (endOf root way).member? segment = some node) :
    step root way segment = .ok ((segment, node) :: way) := by
  rw [step, Node.isDir_of_member? hmember, if_neg hparent, if_neg (Nat.not_lt.mpr hlength), hmember]
  rfl

theorem IsWay.of_step (h : IsWay root way) (hstep : step root way segment = .ok out) : IsWay root out := by
  obtain ⟨-, ⟨-, rfl⟩ | ⟨-, -, node, hnode, rfl⟩⟩ := step_cases hstep
  · cases h with
    | nil => exact .nil
    | cons h _ => exact h
  · exact .cons h hnode

theorem IsWay.of_walk {segments : List String} (h : IsWay root way) (hwalk : walk root way segments = .ok out) :
    IsWay root out := by
  induction segments generalizing way with
  | nil =>
    rw [← Except.ok.inj hwalk]
    exact h
  | cons segment segments ih =>
    rw [walk_cons] at hwalk
    cases hstep : step root way segment with
    | error cause =>
      rw [hstep] at hwalk
      cases hwalk
    | ok next =>
      rw [hstep] at hwalk
      exact ih (h.of_step hstep) hwalk

section Grown

variable (hgrows : Node.Grows root root')
include hgrows

/-- A step that can be taken can be taken in a tree that has grown, and leads to the same place. -/
theorem exists_step_of_grows (hway : IsWay root way) (hway' : IsWay root' way')
    (hplace : placeOf way' = placeOf way) (hstep : step root way segment = .ok out) :
    ∃ out', step root' way' segment = .ok out' ∧ placeOf out' = placeOf out := by
  obtain ⟨hdir, hcases⟩ := step_cases hstep
  obtain ⟨end', hend', hsame⟩ := hgrows _ _ hway.at?
  rw [← hplace, hway'.at?] at hend'
  obtain rfl := Option.some.inj hend'
  rcases hcases with ⟨rfl, rfl⟩ | ⟨hparent, hlength, node, hnode, rfl⟩
  · refine ⟨way'.tail, ?_, by rw [placeOf_tail, placeOf_tail, hplace]⟩
    rw [step, hsame, hdir]
    rfl
  · obtain ⟨node', hnode', -⟩ := hgrows _ _ (IsWay.cons hway hnode).at?
    rw [placeOf_cons, ← hplace, Node.at?_append, hway'.at?, Option.bind_some, Node.at?_cons] at hnode'
    obtain ⟨child, hchild, -⟩ := Option.bind_eq_some_iff.mp hnode'
    exact ⟨_, step_member hparent hlength hchild, by rw [placeOf_cons, placeOf_cons, hplace]⟩

/-- A path that leads somewhere leads to the same place in a tree that has grown. -/
theorem exists_walk_of_grows {segments : List String} (hway : IsWay root way) (hway' : IsWay root' way')
    (hplace : placeOf way' = placeOf way) (hwalk : walk root way segments = .ok out) :
    ∃ out', walk root' way' segments = .ok out' ∧ placeOf out' = placeOf out := by
  induction segments generalizing way way' with
  | nil => exact ⟨way', rfl, by rw [hplace, Except.ok.inj hwalk]⟩
  | cons segment segments ih =>
    rw [walk_cons] at hwalk ⊢
    cases hstep : step root way segment with
    | error cause =>
      rw [hstep] at hwalk
      cases hwalk
    | ok next =>
      rw [hstep] at hwalk
      obtain ⟨next', hnext', hsame⟩ := exists_step_of_grows hgrows hway hway' hplace hstep
      rw [hnext']
      exact ih (hway.of_step hstep) (hway'.of_step hnext') hsame hwalk

end Grown

end Files

end Vitae
