import Vitae.Proofs.Files.Tree

/-!
# Writing files

Making directories changes no file, whether it comes to an end or not (`sameFiles_makeDirs`). A text
that is written stands at its path, and the files at all other places stay what they are
(`hasWritten_writeText`).
-/

namespace Vitae.Files

open Node

variable {files files' : Files} {p : Path} {place : List String}

/-! ### Paths -/

/-- The segments of a path from the root on. -/
def fromRoot (files : Files) (p : Path) : List String :=
  (match p.anchor with
    | .here => files.current
    | _ => []) ++ p.segments

/-- Why a path is not followed at all. -/
def refused? (p : Path) : Option PathError :=
  if p.segments.any fun segment => segment.toList.contains '\x00' then some .nullCharacter
  else if pathLimit < p.text.utf8ByteSize then some .tooLong
  else none

theorem way?_eq (files : Files) (p : Path) : files.way? p =
    match refused? p with
    | some cause => .error cause
    | none => walk files.root [] (files.fromRoot p) := by
  rw [way?, refused?, fromRoot]
  split
  · rfl
  · split
    · rfl
    · cases p.anchor <;> rfl

/-- A path that leads somewhere, or to nothing, is followed in every tree. -/
theorem way?_eq_walk (h : refused? p = none) (files : Files) :
    files.way? p = walk files.root [] (files.fromRoot p) := by
  rw [way?_eq, h]

theorem refused?_eq_none_of_ok {way : List (String × Node)} (h : files.way? p = .ok way) : refused? p = none := by
  rw [way?_eq] at h
  cases hrefused : refused? p with
  | none => rfl
  | some cause =>
    rw [hrefused] at h
    cases h

theorem refused?_eq_none_of_missing (h : files.way? p = .error .missing) : refused? p = none := by
  rw [way?_eq] at h
  cases hrefused : refused? p with
  | none => rfl
  | some cause =>
    rw [hrefused] at h
    obtain rfl := Except.error.inj h
    rw [refused?] at hrefused
    split at hrefused
    · cases hrefused
    · split at hrefused <;> cases hrefused

theorem isWay_of_way? {way : List (String × Node)} (h : files.way? p = .ok way) : IsWay files.root way := by
  rw [way?_eq_walk (refused?_eq_none_of_ok h)] at h
  exact IsWay.nil.of_walk h

theorem way?_of_place? (h : files.place? p = .ok place) : ∃ way, files.way? p = .ok way ∧ placeOf way = place := by
  rw [place?] at h
  cases hway : files.way? p with
  | error cause =>
    rw [hway] at h
    cases h
  | ok way =>
    rw [hway] at h
    exact ⟨way, rfl, Except.ok.inj h⟩

theorem place?_of_way? {way : List (String × Node)} (h : files.way? p = .ok way) :
    files.place? p = .ok (placeOf way) := by
  rw [place?, h]
  rfl

theorem way?_of_missing (h : files.node? p = .error .missing) : files.way? p = .error .missing := by
  rw [node?] at h
  cases hway : files.way? p with
  | error cause =>
    rw [hway] at h
    rw [Except.error.inj h]
  | ok way =>
    rw [hway] at h
    cases h

/-- What stands at a path is what stands at its place. -/
theorem node?_of_place? (h : files.place? p = .ok place) :
    ∃ n, files.node? p = .ok n ∧ files.root.at? place = some n := by
  obtain ⟨way, hway, rfl⟩ := way?_of_place? h
  refine ⟨endOf files.root way, ?_, (isWay_of_way? hway).at?⟩
  rw [node?, hway]
  rfl

/-- A path that leads to a place leads there in a tree that has grown, too. -/
theorem place?_of_grows (h : files.place? p = .ok place) (hgrows : Grows files.root files'.root)
    (hcurrent : files'.current = files.current) : files'.place? p = .ok place := by
  obtain ⟨way, hway, rfl⟩ := way?_of_place? h
  have hrefused := refused?_eq_none_of_ok hway
  rw [way?_eq_walk hrefused] at hway
  obtain ⟨way', hway', hplace⟩ := exists_walk_of_grows hgrows .nil .nil rfl hway
  have hsegments : files'.fromRoot p = files.fromRoot p := by rw [fromRoot, fromRoot, hcurrent]
  rw [← hplace]
  exact place?_of_way? (by rw [way?_eq_walk hrefused, hsegments, hway'])

/-! ### Paths to nothing in a directory that is there -/

theorem at?_putAt (files : Files) (place : List String) (node : Node) :
    (files.putAt place node).root.at? place = some node := by
  have hput := at?_put_append node files.root place []
  rwa [List.append_nil, at?_nil] at hput

/-- Nothing stands at a path, but the directory above it is there. -/
structure IsFree (files : Files) (p : Path) (place : List String) : Prop where
  /-- Nothing stands at the path. -/
  missing : files.node? p = .error .missing
  /-- The place of the directory above it. -/
  parent : files.place? p.parent = .ok place

theorem segments_eq_parent (h : p.segments ≠ []) : p.segments = p.parent.segments ++ [p.name] := by
  rw [Path.parent, Path.name, List.getLast?_eq_some_getLast h, Option.getD_some, List.dropLast_append_getLast h]

namespace IsFree

variable (h : files.IsFree p place)
include h

theorem fromRoot_eq (files' : Files) : files'.fromRoot p = files'.fromRoot p.parent ++ [p.name] := by
  have hne : p.segments ≠ [] := by
    intro hnil
    have hself : p.parent = p := by
      rw [Path.parent, hnil, List.dropLast_nil]
      cases p
      cases hnil
      rfl
    obtain ⟨n, hn, -⟩ := node?_of_place? h.parent
    rw [hself, h.missing] at hn
    cases hn
  rw [fromRoot, fromRoot, segments_eq_parent hne]
  exact (List.append_assoc ..).symm

/-- The directory above the path does not have its name. -/
theorem step_eq : ∃ way, files.way? p.parent = .ok way ∧ placeOf way = place ∧
    step files.root way p.name = .error .missing := by
  obtain ⟨way, hway, hplace⟩ := way?_of_place? h.parent
  refine ⟨way, hway, hplace, ?_⟩
  have hmissing := way?_of_missing h.missing
  rw [way?_eq_walk (refused?_eq_none_of_missing hmissing), h.fromRoot_eq, walk_append,
    ← way?_eq_walk (refused?_eq_none_of_ok hway), hway] at hmissing
  change walk files.root way [p.name] = _ at hmissing
  rw [walk_cons] at hmissing
  cases hstep : step files.root way p.name with
  | error cause =>
    rw [hstep] at hmissing
    rw [Except.error.inj hmissing]
  | ok next =>
    rw [hstep] at hmissing
    cases hmissing

theorem exists_members : ∃ members, files.root.at? place = some (.dir members) := by
  obtain ⟨way, hway, rfl, hstep⟩ := h.step_eq
  obtain ⟨members, hmembers⟩ := isDir_iff.mp (step_missing hstep).1
  exact ⟨members, by rw [(isWay_of_way? hway).at?, hmembers]⟩

theorem at?_eq_none : files.root.at? (place ++ [p.name]) = none := by
  obtain ⟨way, hway, rfl, hstep⟩ := h.step_eq
  rw [at?_append, (isWay_of_way? hway).at?, Option.bind_some, at?_cons, (step_missing hstep).2.2.2, Option.bind_none]

theorem isOpenAt : files.root.IsOpenAt (place ++ [p.name]) := by
  obtain ⟨members, hmembers⟩ := h.exists_members
  exact isOpenAt_append hmembers

theorem grows (node : Node) : Grows files.root (files.putAt (place ++ [p.name]) node).root := by
  refine grows_put h.isOpenAt fun n hn => ?_
  rw [h.at?_eq_none] at hn
  cases hn

/-- What is put there is found at the path: the way to the directory ends at a node that has the name
by now. -/
theorem place?_putAt (node : Node) :
    (files.putAt (place ++ [p.name]) node).place? p = .ok (place ++ [p.name]) := by
  obtain ⟨_, _, _, hstep⟩ := h.step_eq
  obtain ⟨-, hparent, hlength, -⟩ := step_missing hstep
  obtain ⟨way, hway, hplace⟩ := way?_of_place? (place?_of_grows h.parent (h.grows node) rfl)
  have hend := (isWay_of_way? hway).at?
  have hput := at?_putAt files (place ++ [p.name]) node
  rw [hplace] at hend
  rw [at?_append, hend, Option.bind_some, at?_cons] at hput
  obtain ⟨child, hchild, -⟩ := Option.bind_eq_some_iff.mp hput
  have hfound : (files.putAt (place ++ [p.name]) node).way? p = .ok ((p.name, child) :: way) := by
    rw [way?_eq_walk (refused?_eq_none_of_missing (way?_of_missing h.missing)), h.fromRoot_eq, walk_append,
      ← way?_eq_walk (refused?_eq_none_of_ok hway), hway]
    change walk _ way [p.name] = _
    rw [walk_cons, step_member hparent hlength hchild]
    rfl
  rw [place?_of_way? hfound, placeOf_cons, hplace]

end IsFree

/-! ### What is changed -/

/-- The files at all places are the same in both. -/
def SameFiles (before after : Files) : Prop := ∀ q, after.fileAt? q = before.fileAt? q

/-- The file at a path holds the bytes afterwards, and the files at all other places are the same as before. -/
def HasWritten (before after : Files) (p : Path) (content : ByteArray) : Prop :=
  after.bytes? p = some content ∧
    ∃ place, after.place? p = .ok place ∧ ∀ q, q ≠ place → after.fileAt? q = before.fileAt? q

theorem SameFiles.refl (files : Files) : SameFiles files files := fun _ => rfl

theorem SameFiles.trans {before between after : Files} (h : SameFiles before between) (h' : SameFiles between after) :
    SameFiles before after := fun q => (h' q).trans (h q)

theorem SameFiles.hasWritten {before between after : Files} {content : ByteArray} (h : SameFiles before between)
    (h' : HasWritten between after p content) : HasWritten before after p content := by
  obtain ⟨hbytes, place, hplace, hothers⟩ := h'
  exact ⟨hbytes, place, hplace, fun q hq => (hothers q hq).trans (h q)⟩

theorem hasWritten_putAt {content : ByteArray} (hopen : files.root.IsOpenAt place)
    (hold : ∀ n, files.root.at? place = some n → n.IsLeaf)
    (hplace : (files.putAt place (.file content)).place? p = .ok place) :
    HasWritten files (files.putAt place (.file content)) p content := by
  refine ⟨?_, place, hplace, fun q => fileAt?_putAt hopen hold (isLeaf_file content)⟩
  obtain ⟨n, hnode, hn⟩ := node?_of_place? hplace
  rw [at?_putAt] at hn
  rw [bytes?, hnode, ← Option.some.inj hn]

/-- A directory is made: no file changes. -/
theorem sameFiles_makeDir (files : Files) (p : Path) : SameFiles files (files.makeDir p).state := by
  rw [makeDir]
  split
  · exact .refl files
  · exact .refl files
  · rename_i hmissing
    split
    · rename_i place hparent
      have hfree : files.IsFree p place := ⟨hmissing, hparent⟩
      intro q
      by_cases hq : q = place ++ [p.name]
      · rw [hq, fileAt?, fileAt?, at?_putAt, hfree.at?_eq_none]
        rfl
      · refine fileAt?_putAt hfree.isOpenAt (fun n hn => ?_) isLeaf_emptyDir hq
        rw [hfree.at?_eq_none] at hn
        cases hn
    · exact .refl files
  · exact .refl files

theorem sameFiles_makeDirsAt (files : Files) (anchor : Anchor) (up : List String) :
    SameFiles files (files.makeDirsAt anchor up).state := by
  induction up with
  | nil => exact .refl files
  | cons segment up ih =>
    rw [makeDirsAt]
    split
    · split
      · rename_i made _ hmade
        rw [hmade] at ih
        exact ih.trans (sameFiles_makeDir made _)
      · exact ih
    · exact sameFiles_makeDir files _

/-- Directories are made, as far as that goes: no file changes. -/
theorem sameFiles_makeDirs (files : Files) (p : Path) : SameFiles files (files.makeDirs p).state :=
  sameFiles_makeDirsAt files p.anchor _

/-- A text that is written stands at its path, and nowhere else. -/
theorem hasWritten_writeText {content : String} (h : files.writeText p content = .ok files') :
    HasWritten files files' p content.toUTF8 := by
  rw [writeText] at h
  split at h
  · cases h
  · rename_i old hnode
    split at h
    · rename_i place hplace
      obtain rfl := Except.ok.inj h
      obtain ⟨n, hn, hat⟩ := node?_of_place? hplace
      rw [hnode] at hn
      rw [← Except.ok.inj hn] at hat
      have hopen := isOpenAt_of_at? hat
      have hold : ∀ n, files.root.at? place = some n → n = .file old :=
        fun n hn => Option.some.inj (hn.symm.trans hat)
      refine hasWritten_putAt hopen (fun n hn => hold n hn ▸ isLeaf_file old) (place?_of_grows hplace ?_ rfl)
      exact grows_put hopen fun n hn => hold n hn ▸ ⟨isLeaf_file old, rfl⟩
    · cases h
  · rename_i hmissing
    split at h
    · rename_i members place _ hparent
      obtain rfl := Except.ok.inj h
      have hfree : files.IsFree p place := ⟨hmissing, hparent⟩
      refine hasWritten_putAt hfree.isOpenAt (fun n hn => ?_) (hfree.place?_putAt _)
      rw [hfree.at?_eq_none] at hn
      cases hn
    · cases h
    · cases h
  · cases h

/-! ### What can be written -/

/-- A file can be written at a path: its directory is there, and nothing but a file stands in its place. -/
structure IsWritable (files : Files) (p : Path) : Prop where
  /-- The directory above the path is there. -/
  parent : ∃ members, files.node? p.parent = .ok (.dir members)
  /-- A file or nothing stands at the path. -/
  target : (∃ content, files.node? p = .ok (.file content)) ∨ files.node? p = .error .missing

/-- Where the directory is there, there is nothing to be made. -/
theorem makeDirs_of_dir {members : List (String × Node)} (h : files.node? p = .ok (.dir members)) :
    files.makeDirs p = ⟨.ok (), files, []⟩ := by
  obtain ⟨anchor, segments⟩ := p
  rw [makeDirs]
  cases hup : segments.reverse with
  | nil => rfl
  | cons segment up =>
    have hpath : (segment :: up).reverse = segments := by rw [← hup, List.reverse_reverse]
    simp only [makeDirsAt, makeDir, hpath, h]

theorem place?_of_node? {n : Node} (h : files.node? p = .ok n) : ∃ place, files.place? p = .ok place := by
  rw [node?] at h
  cases hway : files.way? p with
  | error cause =>
    rw [hway] at h
    cases h
  | ok way => exact ⟨_, place?_of_way? hway⟩

theorem IsWritable.exists_writeText (h : files.IsWritable p) (content : String) :
    ∃ files', files.writeText p content = .ok files' := by
  rcases h.target with ⟨old, htarget⟩ | htarget
  · obtain ⟨place, hplace⟩ := place?_of_node? htarget
    exact ⟨files.putAt place (.file content.toUTF8), by simp only [writeText, htarget, hplace]⟩
  · obtain ⟨members, hparent⟩ := h.parent
    obtain ⟨place, hplace⟩ := place?_of_node? hparent
    exact ⟨files.putAt (place ++ [p.name]) (.file content.toUTF8),
      by simp only [writeText, htarget, hparent, hplace]⟩

end Vitae.Files
