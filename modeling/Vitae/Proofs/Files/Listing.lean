import Vitae.Proofs.Except
import Vitae.Proofs.Files.Writing

/-!
# Trees that list their members in another order

A directory lists its members in no particular order. Two trees that differ in nothing else
(`Node.Relists`), such as a directory with its members in two orders (`relists_of_perm`), are
walked in the same way (`walk_of_relists`), so that at each path there stands the same in both,
but for the order in which a directory lists its members (`Relisted.node?_cases`).
-/

namespace Vitae

namespace Node

/-- Two nodes look alike: files with the same bytes, or directories with the same names in them. -/
inductive LooksLike : Node → Node → Prop where
  /-- A file looks like itself. -/
  | file (content : ByteArray) : LooksLike (.file content) (.file content)
  /-- A directory looks like one that lists the same names, in whatever order. -/
  | dir {members members' : List (String × Node)} (h : (members.map Prod.fst).Perm (members'.map Prod.fst)) :
      LooksLike (.dir members) (.dir members')

/-- At each place the nodes of two trees look alike, or nothing stands there in both. -/
def Relists (root root' : Node) : Prop := ∀ place, Option.Rel LooksLike (root.at? place) (root'.at? place)

theorem LooksLike.isDir_eq {node node' : Node} (h : node.LooksLike node') : node'.isDir = node.isDir := by
  cases h <;> rfl

theorem LooksLike.refl (node : Node) : node.LooksLike node := by
  cases node with
  | file content => exact .file content
  | dir members => exact .dir (.refl _)

theorem Relists.refl (root : Node) : root.Relists root := by
  intro place
  cases root.at? place with
  | none => exact .none
  | some node => exact .some (.refl node)

/-- In whatever order members with different names are listed, the same one has a given name. -/
theorem lookup_eq_of_perm {members members' : List (String × Node)} (hperm : members.Perm members')
    (hdistinct : (members.map Prod.fst).Nodup) (name : String) : members'.lookup name = members.lookup name := by
  induction hperm with
  | nil => rfl
  | cons m _ ih =>
    rw [List.map_cons, List.nodup_cons] at hdistinct
    rw [List.lookup_cons, List.lookup_cons, ih hdistinct.2]
  | swap m n rest =>
    rw [List.map_cons, List.map_cons, List.nodup_cons, List.mem_cons, not_or] at hdistinct
    rw [List.lookup_cons, List.lookup_cons, List.lookup_cons, List.lookup_cons]
    by_cases hm : name = m.1
    · have hn : name ≠ n.1 := fun h => hdistinct.1.1 (h.symm.trans hm)
      simp [hm, beq_eq_false_iff_ne.mpr (hm ▸ hn)]
    · simp [beq_eq_false_iff_ne.mpr hm]
  | trans hfirst _ ihfirst ihsecond =>
    rw [ihsecond ((hfirst.map Prod.fst).nodup_iff.mp hdistinct), ihfirst hdistinct]

/-- A directory relists one with the same members. -/
theorem relists_of_perm {members members' : List (String × Node)} (hperm : members.Perm members')
    (hdistinct : (members.map Prod.fst).Nodup) : (dir members).Relists (dir members') := by
  intro place
  cases place with
  | nil =>
    rw [at?_nil, at?_nil]
    exact .some (.dir (hperm.map Prod.fst))
  | cons name rest =>
    have hmember : (dir members').member? name = (dir members).member? name := lookup_eq_of_perm hperm hdistinct name
    rw [at?_cons, at?_cons, hmember, ← at?_cons]
    exact Relists.refl (dir members) (name :: rest)

/-- In a directory that is listed anew the same names are found. -/
theorem Relists.isSome_at? {root root' : Node} (h : root.Relists root') (place : List String) :
    (root'.at? place).isSome = (root.at? place).isSome := by
  have hplace := h place
  revert hplace
  cases root.at? place <;> cases root'.at? place <;> intro hplace <;> cases hplace <;> rfl

end Node

namespace Files

open Node

/-! ### Walking -/

section walking

variable {root root' : Node} {way way' : List (String × Node)} (h : root.Relists root')
include h

/-- Ways to the same place end at nodes that look alike. -/
theorem looksLike_endOf (hway : IsWay root way) (hway' : IsWay root' way') (hplace : placeOf way' = placeOf way) :
    (endOf root way).LooksLike (endOf root' way') := by
  have hends := h (placeOf way)
  rw [hway.at?, ← hplace, hway'.at?] at hends
  cases hends with
  | some hends => exact hends

/-- Ways to the same place go on to the same names. -/
theorem isSome_member?_endOf (hway : IsWay root way) (hway' : IsWay root' way')
    (hplace : placeOf way' = placeOf way) (name : String) :
    ((endOf root' way').member? name).isSome = ((endOf root way).member? name).isSome := by
  have hat : ∀ {r : Node} {w : List (String × Node)}, IsWay r w →
      r.at? (placeOf w ++ [name]) = (endOf r w).member? name := by
    intro r w hw
    rw [at?_append, hw.at?, Option.bind_some, at?_cons]
    simp only [at?_nil, Option.bind_fun_some]
  rw [← hat hway, ← hat hway', hplace, h.isSome_at?]

theorem step_of_relists (hway : IsWay root way) (hway' : IsWay root' way') (hplace : placeOf way' = placeOf way)
    (segment : String) : (step root' way' segment).map placeOf = (step root way segment).map placeOf := by
  have hdir := (looksLike_endOf h hway hway' hplace).isDir_eq
  have hmember := isSome_member?_endOf h hway hway' hplace segment
  rw [step, step, hdir]
  split
  · rfl
  · split
    · exact congrArg Except.ok (by rw [placeOf_tail, placeOf_tail, hplace])
    · split
      · rfl
      · cases hold : (endOf root way).member? segment with
        | none =>
          rw [hold, Option.isSome_none, Option.isSome_eq_false_iff, Option.isNone_iff_eq_none] at hmember
          rw [hmember]
        | some node =>
          rw [hold, Option.isSome_some, Option.isSome_iff_exists] at hmember
          obtain ⟨node', hnew⟩ := hmember
          rw [hnew]
          exact congrArg Except.ok (by rw [placeOf_cons, placeOf_cons, hplace])

/-- A path leads to the same place in both trees, or fails in the same way. -/
theorem walk_of_relists {segments : List String} (hway : IsWay root way) (hway' : IsWay root' way')
    (hplace : placeOf way' = placeOf way) :
    (walk root' way' segments).map placeOf = (walk root way segments).map placeOf := by
  induction segments generalizing way way' with
  | nil => exact congrArg Except.ok hplace
  | cons segment segments ih =>
    rw [walk_cons, walk_cons]
    rcases cases_of_map_eq (step_of_relists h hway hway' hplace segment) with ⟨cause, hold, hnew⟩ |
      ⟨next, next', hold, hnew, hsame⟩
    · rw [hold, hnew]
      rfl
    · rw [hold, hnew]
      exact ih (hway.of_step hold) (hway'.of_step hnew) hsame

end walking

/-! ### Looking up a path -/

/-- The same files, seen from the same place, though directories may list them in another order. -/
structure Relisted (files files' : Files) : Prop where
  /-- The trees hold the same. -/
  root : files.root.Relists files'.root
  /-- The current directory is the same. -/
  current : files'.current = files.current

namespace Relisted

variable {files files' : Files} (h : files.Relisted files')
include h

theorem way?_map_placeOf (p : Path) : (files'.way? p).map placeOf = (files.way? p).map placeOf := by
  have hsegments : files'.fromRoot p = files.fromRoot p := by rw [fromRoot, fromRoot, h.current]
  rw [way?_eq, way?_eq]
  cases refused? p with
  | some cause => rfl
  | none =>
    simp only [hsegments]
    exact walk_of_relists h.root .nil .nil rfl

/-- What stands at a path looks alike in both, or it cannot be looked up for the same reason. -/
theorem node?_cases (p : Path) :
    (∃ cause, files.node? p = .error cause ∧ files'.node? p = .error cause) ∨
      ∃ node node', files.node? p = .ok node ∧ files'.node? p = .ok node' ∧ node.LooksLike node' := by
  rw [node?, node?]
  rcases cases_of_map_eq (h.way?_map_placeOf p) with ⟨cause, hold, hnew⟩ | ⟨way, way', hold, hnew, hplace⟩
  · rw [hold, hnew]
    exact .inl ⟨cause, rfl, rfl⟩
  · rw [hold, hnew]
    exact .inr ⟨_, _, rfl, rfl, looksLike_endOf h.root (isWay_of_way? hold) (isWay_of_way? hnew) hplace⟩

/-- The same bytes are found at a path. -/
theorem bytes?_eq (p : Path) : files'.bytes? p = files.bytes? p := by
  rcases h.node?_cases p with ⟨cause, hold, hnew⟩ | ⟨node, node', hold, hnew, hlike⟩
  · rw [Files.bytes?, Files.bytes?, hold, hnew]
  · rw [Files.bytes?, Files.bytes?, hold, hnew]
    cases hlike <;> rfl

theorem lookForDir_eq (p : Path) : files'.lookForDir p = files.lookForDir p := by
  rcases h.node?_cases p with ⟨cause, hold, hnew⟩ | ⟨node, node', hold, hnew, hlike⟩
  · rw [lookForDir, lookForDir, hold, hnew]
  · rw [lookForDir, lookForDir, hold, hnew]
    exact congrArg Except.ok hlike.isDir_eq

end Relisted

end Files

end Vitae
