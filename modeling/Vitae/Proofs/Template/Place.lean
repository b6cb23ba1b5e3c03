import Vitae.Proofs.Except
import Vitae.Proofs.Files.Writing
import Vitae.Proofs.Text.Lines
import Vitae.Template.Library

/-!
# Where the shell of a template stands

For an id that is the name of a file (`IsSegment`) the path of the shell, which is written with a slash,
and the place where the shell is read, which is found segment by segment, are the same two segments below
the templates directory (`shellPath_eq`, `readFile_nameOf_iff`). Where a shell stands there, the templates
directory has a sub-directory of that name (`exists_member_of_bytes?`). The path of a shell that was read is
that path with its pairs of dots taken together, which only those of the templates directory can be
(`collapse_shellPath_eq_iff`).
-/

namespace Vitae

open Text

/-- The name of a file: one segment of a path. -/
structure IsSegment (name : String) : Prop where
  /-- It is not empty. -/
  ne_empty : name ≠ ""
  /-- It is not a single dot. -/
  ne_dot : name ≠ "."
  /-- It is not two dots. -/
  ne_dots : name ≠ ".."
  /-- It holds no slash. -/
  no_slash : '/' ∉ name.toList

namespace IsSegment

variable {name : String}

/-- A name stays one behind which the ending of a shell is put. -/
theorem append_shellEnding (h : IsSegment name) : IsSegment (name ++ Template.shellEnding) := by
  have hlength : (name ++ Template.shellEnding).length = name.length + 17 := by
    rw [String.length_append]
    rfl
  have hne : ∀ short : String, short.length < 17 → name ++ Template.shellEnding ≠ short := by
    rintro short hshort heq
    rw [heq] at hlength
    omega
  refine ⟨hne "" (by decide), hne "." (by decide), hne ".." (by decide), ?_⟩
  rw [String.toList_append, List.mem_append, not_or]
  exact ⟨h.no_slash, by decide⟩

end IsSegment

namespace Path

variable {p : Path}

theorem anchorOf_of_ne {c : Char} (h : c ≠ '/') (cs : List Char) : anchorOf (c :: cs) = .here := by
  unfold anchorOf
  split <;> simp_all

/-- Segments that are not two dots stay behind a path whose pairs of dots are taken together. -/
theorem collapse_append {segments : List String} (h : ".." ∉ segments) :
    collapse { p with segments := p.segments ++ segments } =
      { p.collapse with segments := p.collapse.segments ++ segments } := by
  have hfold : ∀ before : List String,
      segments.foldl (collapseStep (p.anchor ≠ .here)) before = segments.reverse ++ before := by
    induction segments with
    | nil => exact fun _ => rfl
    | cons segment segments ih =>
      intro before
      rw [List.mem_cons, not_or] at h
      have hstep : collapseStep (p.anchor ≠ .here) before segment = segment :: before := by
        have hne : segment ≠ ".." := Ne.symm h.1
        cases before <;> simp [collapseStep, hne]
      rw [List.foldl_cons, hstep, ih h.2, List.reverse_cons, List.append_assoc]
      rfl
  rw [collapse, collapse, List.foldl_append, hfold, List.reverse_append, List.reverse_reverse]

end Path

namespace Template

variable {id : String}

theorem toList_nameOf (id : String) : (nameOf id).toList = id.toList ++ '/' :: (id ++ shellEnding).toList := by
  rw [nameOf, String.append_assoc, String.append_assoc, String.toList_append, String.toList_append]
  rfl

section segment

variable (h : IsSegment id)
include h

theorem split_nameOf : split '/' (nameOf id) = [id, id ++ shellEnding] := by
  rw [split, toList_nameOf, splitChars_append_cons, splitChars_of_not_mem h.no_slash,
    splitChars_of_not_mem h.append_shellEnding.no_slash]
  simp

/-- Neither segment is two dots. -/
theorem not_mem_segments : ".." ∉ [id, id ++ shellEnding] := by
  simp [Ne.symm h.ne_dots, Ne.symm h.append_shellEnding.ne_dots]

/-- Neither segment is dropped. -/
theorem filter_segments :
    [id, id ++ shellEnding].filter (fun segment => segment ≠ "" && segment ≠ ".") = [id, id ++ shellEnding] := by
  have hending := h.append_shellEnding
  simp [h.ne_empty, h.ne_dot, hending.ne_empty, hending.ne_dot]

theorem ofText_nameOf : Path.ofText (nameOf id) = { segments := [id, id ++ shellEnding] } := by
  have hanchor : Path.anchorOf (nameOf id).toList = .here := by
    obtain ⟨c, cs, hcs⟩ := List.exists_cons_of_ne_nil (mt String.toList_eq_nil_iff.mp h.ne_empty)
    have hc : c ≠ '/' := by
      rintro rfl
      exact h.no_slash (hcs ▸ List.mem_cons_self)
    rw [toList_nameOf, hcs, List.cons_append]
    exact Path.anchorOf_of_ne hc _
  rw [Path.ofText, hanchor, split_nameOf h, filter_segments h]

theorem segments?_nameOf : segments? (nameOf id) = some [id, id ++ shellEnding] := by
  have hdots : [id, id ++ shellEnding].contains ".." = false := by
    rw [List.contains_eq_mem, decide_eq_false (not_mem_segments h)]
  simp only [segments?, split_nameOf h, hdots, filter_segments h, Bool.false_eq_true, if_false]

end segment

end Template

namespace Library

open Template

variable {lib : Library} {files : Files} {id : String} {members : List (String × Node)}

theorem shellPath_eq (h : IsSegment id) :
    lib.shellPath id = { lib.root with segments := lib.root.segments ++ [id, id ++ shellEnding] } := by
  rw [shellPath, Path.child, ofText_nameOf h]
  rfl

/-- What is read for a template is what stands at the path of its shell. -/
theorem readFile_nameOf_iff (h : IsSegment id) {source : String} {path : Path} :
    readFile files lib.root (Template.nameOf id) = .ok (source, path) ↔
      ∃ content, files.bytes? (lib.shellPath id) = some content ∧ Files.decode? content = some source ∧
        path = (lib.shellPath id).collapse := by
  rw [readFile, segments?_nameOf h]
  simp only [← shellPath_eq h]
  cases files.bytes? (lib.shellPath id) with
  | none => simp
  | some content =>
    cases hdecode : Files.decode? content with
    | none => simp [hdecode]
    | some text => simp [hdecode, eq_comm]

/-- The path of a shell has no pairs of dots but those of the templates directory. -/
theorem collapse_shellPath_eq_iff (h : IsSegment id) :
    (lib.shellPath id).collapse = lib.shellPath id ↔ lib.root.collapse = lib.root := by
  rw [shellPath_eq h, Path.collapse_append (not_mem_segments h)]
  constructor
  · intro heq
    have hsegments : lib.root.collapse.segments = lib.root.segments :=
      List.append_cancel_right (congrArg Path.segments heq)
    calc lib.root.collapse = { lib.root with segments := lib.root.collapse.segments } := rfl
      _ = { lib.root with segments := lib.root.segments } := by rw [hsegments]
      _ = lib.root := rfl
  · intro heq
    rw [heq]

/-! ### Following the path -/

/-- A longer path goes on from where a path leads. -/
theorem walk_of_way?_append {p : Path} {segments : List String} {way out : List (String × Node)}
    (hway : files.way? p = .ok way)
    (hout : files.way? { p with segments := p.segments ++ segments } = .ok out) :
    Files.walk files.root way segments = .ok out := by
  have hsegments : files.fromRoot { p with segments := p.segments ++ segments } = files.fromRoot p ++ segments :=
    (List.append_assoc ..).symm
  rw [Files.way?_eq_walk (Files.refused?_eq_none_of_ok hway)] at hway
  rw [Files.way?_eq_walk (Files.refused?_eq_none_of_ok hout), hsegments, Files.walk_append, hway] at hout
  exact hout

theorem mem_of_lookup {node : Node} (h : members.lookup id = some node) : (id, node) ∈ members := by
  obtain ⟨before, after, rfl, -⟩ := List.lookup_eq_some_iff.mp h
  exact List.mem_append_right _ List.mem_cons_self

/-- A shell stands in a sub-directory of its name, since the walk to it goes on in what has that name. -/
theorem exists_member_of_bytes? (h : IsSegment id) (hroot : files.node? lib.root = .ok (.dir members))
    {content : ByteArray} (hcontent : files.bytes? (lib.shellPath id) = some content) :
    id.utf8ByteSize ≤ Files.segmentLimit ∧ ∃ inner, (id, Node.dir inner) ∈ members := by
  rw [Files.node?] at hroot
  rw [Files.bytes?, Files.node?, shellPath_eq h] at hcontent
  cases hway : files.way? lib.root with
  | error cause =>
    rw [hway] at hroot
    cases hroot
  | ok way =>
    rw [hway] at hroot
    have hend : Files.endOf files.root way = .dir members := Except.ok.inj hroot
    cases hout : files.way? { lib.root with segments := lib.root.segments ++ [id, id ++ shellEnding] } with
    | error cause =>
      rw [hout] at hcontent
      cases hcontent
    | ok out =>
      have hwalk := walk_of_way?_append hway hout
      rw [Files.walk_cons] at hwalk
      obtain ⟨next, hnext, hwalk⟩ := exists_of_bind_eq_ok hwalk
      obtain ⟨-, ⟨hdots, -⟩ | ⟨-, hlength, node, hnode, rfl⟩⟩ := Files.step_cases hnext
      · exact absurd hdots h.ne_dots
      · rw [hend] at hnode
        rw [Files.walk_cons] at hwalk
        obtain ⟨last, hlast, -⟩ := exists_of_bind_eq_ok hwalk
        obtain ⟨inner, rfl⟩ := Node.isDir_iff.mp (Files.step_cases hlast).1
        exact ⟨hlength, inner, mem_of_lookup hnode⟩

end Library

end Vitae
