import Vitae.Proofs.Files.Listing
import Vitae.Proofs.Template.Order
import Vitae.Proofs.Template.Place

/-!
# What the catalogue lists

Once the sub-directories of the templates directory are known, the catalogue has an entry for each of them
that holds its shell, unless the path of a shell is too long or the digits of a name spell no number
(`catalogue_eq_ok_iff`). So one name with a digit that is not a decimal one is enough for there to be no
catalogue at all; without such a name there is one, with one entry for each template
(`catalogue_lists_directories`). The order in which the directory lists its members makes no difference,
for ids are sorted by a strict total order (`catalogue_order_independent`).
-/

namespace Vitae

open Text

namespace Library

open Template

variable {lib : Library} {files files' : Files} {environment : Environment} {members : List (String × Node)}
  {name id : String}

/-- The templates directory can be read, and it has the given members. -/
structure IsReadable (lib : Library) (files : Files) (members : List (String × Node)) : Prop where
  /-- It is there, with its members. -/
  root : files.node? lib.root = .ok (.dir members)
  /-- Each of them is found at its path. -/
  found : ∀ m ∈ members, files.node? (lib.root.child m.1) = .ok m.2
  /-- They have names of files. -/
  named : ∀ m ∈ members, IsSegment m.1
  /-- No two of them have the same name. -/
  distinct : (members.map Prod.fst).Nodup

/-- The names of the directories among the members of a directory. -/
def subdirectories (members : List (String × Node)) : List String :=
  (members.filter fun m => m.2.isDir).map Prod.fst

/-- The shell of a template can be looked for: its path is not too long. -/
def InReach (lib : Library) (files : Files) (id : String) : Prop :=
  files.node? (lib.shellPath id) ≠ .error .tooLong

/-- A file stands where the shell of a template belongs. -/
def holdsShell (lib : Library) (files : Files) (id : String) : Bool := files.isFile (lib.shellPath id)

theorem mem_subdirectories_iff : name ∈ subdirectories members ↔ ∃ inner, (name, Node.dir inner) ∈ members := by
  rw [subdirectories, List.mem_map]
  constructor
  · rintro ⟨⟨n, node⟩, hmem, rfl⟩
    obtain ⟨hmem, hdir⟩ := List.mem_filter.mp hmem
    obtain ⟨inner, rfl⟩ := Node.isDir_iff.mp hdir
    exact ⟨inner, hmem⟩
  · rintro ⟨inner, hmem⟩
    exact ⟨_, List.mem_filter.mpr ⟨hmem, rfl⟩, rfl⟩

/-! ### Looking at the directory -/

theorem lookForDir_of_node? {p : Path} {node : Node} (h : files.node? p = .ok node) :
    files.lookForDir p = .ok node.isDir := by
  rw [Files.lookForDir, h]

theorem directories?_of_dir (h : files.node? lib.root = .ok (.dir members)) : lib.directories? files =
    .ok ((members.map Prod.fst).filterM fun name => files.lookForDir (lib.root.child name)).toOption := by
  rw [directories?, h]

/-- In a directory that can be read the sub-directories are found. -/
theorem directories?_eq (h : lib.IsReadable files members) :
    lib.directories? files = .ok (some (subdirectories members)) := by
  have hfilter : (members.map Prod.fst).filterM (fun name => files.lookForDir (lib.root.child name)) =
      .ok ((members.map Prod.fst).filter fun name =>
        (files.lookForDir (lib.root.child name)).toOption.getD false) := by
    refine filterM_eq_ok fun name hname => ?_
    obtain ⟨m, hm, rfl⟩ := List.mem_map.mp hname
    rw [lookForDir_of_node? (h.found m hm)]
    rfl
  have hnames : ((members.map Prod.fst).filter fun name =>
      (files.lookForDir (lib.root.child name)).toOption.getD false) = subdirectories members := by
    rw [List.filter_map, subdirectories]
    refine congrArg (List.map Prod.fst) (List.filter_congr fun m hm => ?_)
    rw [Function.comp_apply, lookForDir_of_node? (h.found m hm)]
    rfl
  rw [directories?_of_dir h.root, hfilter, hnames]
  rfl

theorem lookFor_of_ne_tooLong {p : Path} (h : files.node? p ≠ .error .tooLong) :
    files.lookFor p = .ok (files.bytes? p) := by
  rw [Files.lookFor, Files.bytes?]
  split
  · rename_i hnode
    rw [hnode]
  · rename_i hnode
    exact absurd hnode h
  · rename_i hfile _
    split
    · rename_i content hnode
      exact absurd hnode (hfile content)
    · rfl

theorem lookFor_of_tooLong {p : Path} (h : files.node? p = .error .tooLong) :
    files.lookFor p = .error ⟨.tooLong, p⟩ := by
  rw [Files.lookFor, h]

/-- Templates are found when each shell can be looked for. -/
theorem ids_eq_ok_iff {names found : List String} : lib.ids files names = .ok found ↔
    (∀ name ∈ names, lib.InReach files name) ∧ found = names.filter (lib.holdsShell files) := by
  have hjudged : ∀ name, lib.InReach files name →
      (do return (← files.lookFor (lib.shellPath name)).isSome : Except FileError Bool) =
        .ok (lib.holdsShell files name) := by
    intro name hreach
    rw [lookFor_of_ne_tooLong hreach]
    rfl
  rw [ids]
  constructor
  · intro h
    have hreach : ∀ name ∈ names, lib.InReach files name := by
      intro name hname htoolong
      obtain ⟨b, hb⟩ := forall_ok_of_filterM h name hname
      rw [lookFor_of_tooLong htoolong] at hb
      cases hb
    exact ⟨hreach, Except.ok.inj (h.symm.trans (filterM_eq_ok fun name hname => hjudged name (hreach name hname)))⟩
  · rintro ⟨hreach, rfl⟩
    exact filterM_eq_ok fun name hname => hjudged name (hreach name hname)

/-! ### The catalogue -/

theorem id_info (lib : Library) (files : Files) (environment : Environment) (id : String) :
    (lib.info files environment id).1.id = id := by
  rw [info, infoOf]
  split
  · rfl
  · split <;> rfl

/-- What there is to know about some templates. -/
def infosOf (lib : Library) (files : Files) (environment : Environment) (ids : List String) : List TemplateInfo :=
  (ids.map (lib.info files environment)).map Prod.fst

theorem map_id_infosOf (ids : List String) : (lib.infosOf files environment ids).map TemplateInfo.id = ids := by
  rw [infosOf, List.map_map, List.map_map]
  exact (List.map_congr_left fun id _ => id_info lib files environment id).trans (List.map_id ids)

theorem forall_mem_infosOf_iff {ids : List String} {P : String → Prop} :
    (∀ info ∈ lib.infosOf files environment ids, P info.id) ↔ ∀ id ∈ ids, P id := by
  rw [← List.forall_mem_map, map_id_infosOf]

/-- What is known about a template is known by its id. -/
theorem eq_of_mem_infosOf {ids : List String} {x y : TemplateInfo} (hx : x ∈ lib.infosOf files environment ids)
    (hy : y ∈ lib.infosOf files environment ids) (h : x.id = y.id) : x = y := by
  have hinfo : ∀ z ∈ lib.infosOf files environment ids, z = (lib.info files environment z.id).1 := by
    intro z hz
    rw [infosOf, List.map_map] at hz
    obtain ⟨id, -, rfl⟩ := List.mem_map.mp hz
    rw [Function.comp_apply, id_info]
  rw [hinfo x hx, hinfo y hy, h]

/-- What the catalogue is once the sub-directories are known. -/
theorem catalogue_eq_ok_iff {names : List String} {infos : List TemplateInfo}
    (h : lib.directories? files = .ok (some names)) :
    (lib.catalogue files environment).1 = .ok infos ↔
      (∀ name ∈ names, lib.InReach files name ∧ (lib.holdsShell files name = true → IsSortable name)) ∧
        infos = byId TemplateInfo.id (lib.infosOf files environment (names.filter (lib.holdsShell files))) := by
  constructor
  · intro hcatalogue
    rw [catalogue, h] at hcatalogue
    cases hids : lib.ids files names with
    | error e =>
      simp only [hids, reduceCtorEq] at hcatalogue
    | ok found =>
      obtain ⟨hreach, rfl⟩ := ids_eq_ok_iff.mp hids
      cases hsorted : sorted? TemplateInfo.id
          (lib.infosOf files environment (names.filter (lib.holdsShell files))) with
      | none =>
        rw [infosOf] at hsorted
        simp only [hids, hsorted, reduceCtorEq] at hcatalogue
      | some sorted =>
        obtain ⟨hplaces, rfl⟩ := sorted?_eq_some_iff.mp hsorted
        rw [infosOf] at hsorted
        simp only [hids, hsorted, Except.ok.injEq] at hcatalogue
        rw [forall_mem_infosOf_iff] at hplaces
        exact ⟨fun name hname => ⟨hreach name hname, fun hholds => hplaces name (List.mem_filter.mpr ⟨hname, hholds⟩)⟩,
          hcatalogue.symm⟩
  · rintro ⟨hall, rfl⟩
    have hids := ids_eq_ok_iff.mpr ⟨fun name hname => (hall name hname).1, rfl⟩
    have hplaces : ∀ info ∈ lib.infosOf files environment (names.filter (lib.holdsShell files)),
        IsSortable info.id := by
      rw [forall_mem_infosOf_iff]
      intro id hid
      obtain ⟨hname, hholds⟩ := List.mem_filter.mp hid
      exact (hall id hname).2 hholds
    have hsorted := sorted?_eq_some_iff.mpr ⟨hplaces, rfl⟩
    rw [infosOf] at hsorted
    rw [catalogue, h]
    simp only [hids, hsorted, infosOf]

/-- The ids of the catalogue. -/
theorem map_id_catalogue_perm {names : List String} {infos : List TemplateInfo}
    (h : lib.directories? files = .ok (some names)) (hcatalogue : (lib.catalogue files environment).1 = .ok infos) :
    (infos.map TemplateInfo.id).Perm (names.filter (lib.holdsShell files)) := by
  obtain ⟨-, rfl⟩ := (catalogue_eq_ok_iff h).mp hcatalogue
  have hperm := (byId_perm TemplateInfo.id
    (lib.infosOf files environment (names.filter (lib.holdsShell files)))).map TemplateInfo.id
  rwa [map_id_infosOf] at hperm

/-! ### Directories in another order -/

section relisted

variable (h : files.Relisted files')
include h

theorem inReach_of_relisted : lib.InReach files' id ↔ lib.InReach files id := by
  rw [InReach, InReach]
  rcases h.node?_cases (lib.shellPath id) with ⟨cause, hold, hnew⟩ | ⟨node, node', hold, hnew, -⟩
  · rw [hold, hnew]
  · rw [hold, hnew]
    simp

theorem holdsShell_of_relisted : lib.holdsShell files' = lib.holdsShell files := by
  funext id
  rw [holdsShell, holdsShell, Files.isFile, Files.isFile, h.bytes?_eq]

theorem info_of_relisted : lib.info files' environment = lib.info files environment := by
  funext id
  rw [info, info, infoOf, infoOf, h.bytes?_eq]

/-- The same sub-directories are found, in another order. -/
theorem directories?_of_relisted (lib : Library) : lib.directories? files' = lib.directories? files ∨
    ∃ names names', lib.directories? files = .ok (some names) ∧ lib.directories? files' = .ok (some names') ∧
      names.Perm names' := by
  rcases h.node?_cases lib.root with ⟨cause, hold, hnew⟩ | ⟨node, node', hold, hnew, hlike⟩
  · left
    rw [directories?, directories?, hold, hnew]
    cases cause <;> rfl
  · cases hlike with
    | file content =>
      left
      rw [directories?, directories?, hold, hnew]
    | @dir members members' hperm =>
      rw [directories?_of_dir hold, directories?_of_dir hnew]
      simp only [h.lookForDir_eq]
      cases hfound : (members.map Prod.fst).filterM fun name => files.lookForDir (lib.root.child name) with
      | ok names =>
        obtain ⟨names', hfound', hnames⟩ := exists_filterM_perm hperm hfound
        rw [hfound']
        exact .inr ⟨names, names', rfl, rfl, hnames⟩
      | error e =>
        cases hfound' : (members'.map Prod.fst).filterM fun name => files.lookForDir (lib.root.child name) with
        | error e' => exact .inl rfl
        | ok names' =>
          obtain ⟨names, hnames, -⟩ := exists_filterM_perm hperm.symm hfound'
          rw [hfound] at hnames
          cases hnames

/-- The catalogue is the same. -/
theorem catalogue_of_relisted (infos : List TemplateInfo) :
    (lib.catalogue files' environment).1 = .ok infos ↔ (lib.catalogue files environment).1 = .ok infos := by
  rcases directories?_of_relisted h lib with hsame | ⟨names, names', hold, hnew, hperm⟩
  · cases hdirectories : lib.directories? files with
    | error e =>
      rw [hdirectories] at hsame
      rw [catalogue, catalogue, hdirectories, hsame]
    | ok found =>
      rw [hdirectories] at hsame
      cases found with
      | none => rw [catalogue, catalogue, hdirectories, hsame]
      | some names =>
        rw [catalogue_eq_ok_iff hsame, catalogue_eq_ok_iff hdirectories, infosOf, infosOf, holdsShell_of_relisted h,
          info_of_relisted h]
        simp only [inReach_of_relisted h]
  · have hfilter := hperm.filter (lib.holdsShell files)
    have hinfos : (lib.infosOf files environment (names.filter (lib.holdsShell files))).Perm
        (lib.infosOf files environment (names'.filter (lib.holdsShell files))) :=
      (hfilter.map _).map _
    have hsorted : byId TemplateInfo.id _ = byId TemplateInfo.id _ :=
      byId_eq_of_perm hinfos fun x hx y hy => eq_of_mem_infosOf hx hy
    rw [catalogue_eq_ok_iff hnew, catalogue_eq_ok_iff hold, infosOf, holdsShell_of_relisted h, info_of_relisted h,
      ← infosOf, ← hsorted]
    simp only [inReach_of_relisted h, hperm.mem_iff]

end relisted

/-! ### One entry for each template -/

theorem length_le_utf8ByteSize (cs : List Char) : cs.length ≤ (String.ofList cs).utf8ByteSize := by
  induction cs with
  | nil => exact Nat.zero_le _
  | cons c cs ih =>
    have hpos := Char.utf8Size_pos c
    rw [String.ofList_cons, String.utf8ByteSize_append, String.utf8ByteSize_singleton, List.length_cons]
    omega

/-- The name of a directory is too short to have too many digits. -/
theorem length_digitsOf_le (h : id.utf8ByteSize ≤ Files.segmentLimit) :
    (digitsOf id).length ≤ Decimal.digitLimit := by
  have hbytes := length_le_utf8ByteSize id.toList
  rw [String.ofList_toList] at hbytes
  calc (digitsOf id).length ≤ id.toList.length := List.length_filter_le _ _
    _ ≤ id.utf8ByteSize := hbytes
    _ ≤ Files.segmentLimit := h
    _ ≤ Decimal.digitLimit := by decide

/-- A template whose name has decimal digits only has a place in the catalogue. -/
theorem isSortable_iff_of_holdsShell (h : lib.IsReadable files members) (hid : IsSegment id)
    (hholds : lib.holdsShell files id = true) : IsSortable id ↔ IsDecimal id := by
  obtain ⟨content, hcontent⟩ := Option.isSome_iff_exists.mp hholds
  obtain ⟨hlength, -⟩ := exists_member_of_bytes? hid h.root hcontent
  exact ⟨IsSortable.decimal, fun hdecimal => ⟨hdecimal, length_digitsOf_le hlength⟩⟩

/-- When there is a catalogue. -/
theorem exists_catalogue_iff (environment : Environment) (h : lib.IsReadable files members) :
    (∃ infos, (lib.catalogue files environment).1 = .ok infos) ↔
      ∀ name inner, (name, Node.dir inner) ∈ members →
        lib.InReach files name ∧ (lib.holdsShell files name = true → IsDecimal name) := by
  have hcatalogue : (∃ infos, (lib.catalogue files environment).1 = .ok infos) ↔
      ∀ name ∈ subdirectories members,
        lib.InReach files name ∧ (lib.holdsShell files name = true → IsSortable name) := by
    simp only [catalogue_eq_ok_iff (directories?_eq h), exists_and_left, exists_eq, and_true]
  have hplace : ∀ name inner, (name, Node.dir inner) ∈ members →
      ((lib.holdsShell files name = true → IsSortable name) ↔
        (lib.holdsShell files name = true → IsDecimal name)) := fun name inner hmem =>
    forall_congr' fun hholds => isSortable_iff_of_holdsShell h (h.named _ hmem) hholds
  rw [hcatalogue]
  constructor
  · intro hall name inner hmem
    obtain ⟨hreach, hsortable⟩ := hall name (mem_subdirectories_iff.mpr ⟨inner, hmem⟩)
    exact ⟨hreach, (hplace name inner hmem).mp hsortable⟩
  · intro hall name hname
    obtain ⟨inner, hmem⟩ := mem_subdirectories_iff.mp hname
    obtain ⟨hreach, hdecimal⟩ := hall name inner hmem
    exact ⟨hreach, (hplace name inner hmem).mpr hdecimal⟩

/-- The catalogue has an entry for each template, and one only. -/
theorem mem_map_id_catalogue_iff (h : lib.IsReadable files members) {infos : List TemplateInfo}
    (hinfos : (lib.catalogue files environment).1 = .ok infos) :
    (infos.map TemplateInfo.id).Nodup ∧ ∀ id, id ∈ infos.map TemplateInfo.id ↔
      (∃ inner, (id, Node.dir inner) ∈ members) ∧ lib.holdsShell files id = true := by
  have hperm := map_id_catalogue_perm (directories?_eq h) hinfos
  have hnames : (subdirectories members).Nodup := h.distinct.sublist (List.filter_sublist.map Prod.fst)
  refine ⟨hperm.nodup_iff.mpr (hnames.filter _), fun id => ?_⟩
  rw [hperm.mem_iff, List.mem_filter, mem_subdirectories_iff]

/-- **What the catalogue lists.** For a templates directory that can be read there is a catalogue exactly
when no path of a shell is too long and all digits in the names of the templates are decimal ones. If there
is one, it has exactly one entry for each sub-directory that holds its shell, whatever stands in the
descriptions. An id has a place in the catalogue exactly when its digits are decimal ones and not too many. -/
theorem catalogue_lists_directories (lib : Library) (files : Files) (environment : Environment)
    (members : List (String × Node)) (h : lib.IsReadable files members) :
    ((∃ infos, (lib.catalogue files environment).1 = .ok infos) ↔
      ∀ name inner, (name, Node.dir inner) ∈ members →
        lib.InReach files name ∧ (lib.holdsShell files name = true → IsDecimal name)) ∧
    (∀ infos, (lib.catalogue files environment).1 = .ok infos → (infos.map TemplateInfo.id).Nodup ∧
      ∀ id, id ∈ infos.map TemplateInfo.id ↔
        (∃ inner, (id, Node.dir inner) ∈ members) ∧ lib.holdsShell files id = true) ∧
    (∀ id, (sortKey? id).isSome ↔ IsDecimal id ∧ (digitsOf id).length ≤ Decimal.digitLimit) := by
  refine ⟨exists_catalogue_iff environment h, fun infos => mem_map_id_catalogue_iff h, fun id => ?_⟩
  rw [isSome_sortKey?_iff]
  exact ⟨fun hsortable => ⟨hsortable.decimal, hsortable.length⟩, fun ⟨hdecimal, hlength⟩ => ⟨hdecimal, hlength⟩⟩

/-! ### Directories with one template -/

/-- The members of a directory with one template, whose shell is its placeholder. -/
def loneMembers (id : String) : List (String × Node) :=
  [(id, .dir [(id ++ shellEnding, .file placeholder.toUTF8)])]

/-- The directory. -/
def loneFiles (id : String) : Files := { root := .dir (loneMembers id) }

/-- A library over the current directory. -/
def currentLibrary : Library := { root := {}, defaultId := usualDefault }

/-- It can be read where it is found. -/
theorem isReadable_lone (hroot : (loneFiles id).node? lib.root = .ok (.dir (loneMembers id)))
    (hfound : (loneFiles id).node? (lib.root.child id) =
      .ok (.dir [(id ++ shellEnding, .file placeholder.toUTF8)])) (hid : IsSegment id) :
    lib.IsReadable (loneFiles id) (loneMembers id) where
  root := hroot
  found := List.forall_mem_singleton.mpr hfound
  named := List.forall_mem_singleton.mpr hid
  distinct := List.pairwise_singleton _ _

/-- Where its shell is found and its digits are decimal ones, there is a catalogue. -/
theorem places_of_lone (hshell : (loneFiles id).node? (lib.shellPath id) = .ok (.file placeholder.toUTF8))
    (hdecimal : IsDecimal id) : ∀ name inner, (name, Node.dir inner) ∈ loneMembers id →
      lib.InReach (loneFiles id) name ∧ (lib.holdsShell (loneFiles id) name = true → IsDecimal name) := by
  intro name inner hmem
  obtain rfl : name = id := congrArg Prod.fst (List.mem_singleton.mp hmem)
  refine ⟨fun htoolong => ?_, fun _ => hdecimal⟩
  rw [hshell] at htoolong
  cases htoolong

theorem isSegment_template02 : IsSegment "template02" := ⟨by decide, by decide, by decide, by decide⟩

theorem isReadable_template02 : currentLibrary.IsReadable (loneFiles "template02") (loneMembers "template02") :=
  isReadable_lone rfl rfl isSegment_template02

theorem catalogue_lists_directories_template02 :
    ∃ infos, (currentLibrary.catalogue (loneFiles "template02") fun _ => none).1 = .ok infos ∧
      "template02" ∈ infos.map TemplateInfo.id := by
  obtain ⟨hreturns, hlists, -⟩ := catalogue_lists_directories currentLibrary (loneFiles "template02") (fun _ => none)
    (loneMembers "template02") isReadable_template02
  obtain ⟨infos, hinfos⟩ := hreturns.mpr (places_of_lone rfl (by decide))
  exact ⟨infos, hinfos, ((hlists infos hinfos).2 _).mpr ⟨⟨_, List.mem_cons_self⟩, by decide⟩⟩

/-- A name with a superscript two leaves a directory that can be read without a catalogue. -/
theorem catalogue_superscript :
    currentLibrary.IsReadable (loneFiles "a²") (loneMembers "a²") ∧
      currentLibrary.holdsShell (loneFiles "a²") "a²" = true ∧
      (currentLibrary.catalogue (loneFiles "a²") fun _ => none).1 = .error .numbering ∧ sortKey? "a²" = none := by
  have hid : IsSegment "a²" := ⟨by decide, by decide, by decide, by decide⟩
  exact ⟨isReadable_lone rfl rfl hid, by decide, rfl, by decide⟩

/-! ### The order of the catalogue -/

/-- **The order of the catalogue.** Let the digits of different ids be decimal ones and not too many. Sorted
in whatever order they are given, the ids come out in the same order, in which each precedes those behind
it. Their keys are different, and ordered as the ids are: by a strict total order, in which ids with digits
come first, by the number that the digits spell, whatever zeros stand in front, and ids with the same number
or without digits are ordered by name. So the catalogue is the same for every order in which the directories
list their members, and it is there when the names of the sub-directories hold decimal digits only and no
path of a shell is too long. -/
theorem catalogue_order_independent (ids : List String) (hdistinct : ids.Nodup)
    (hdecimal : ∀ id ∈ ids, IsDecimal id) (hlength : ∀ id ∈ ids, (digitsOf id).length ≤ Decimal.digitLimit) :
    (∃ sorted, sorted.Perm ids ∧ sorted.Pairwise Precedes ∧
      ∀ ids' : List String, ids'.Perm ids → sorted? (fun id => id) ids' = some sorted) ∧
    (∀ a ∈ ids, ∀ b ∈ ids, ∃ j k, sortKey? a = some j ∧ sortKey? b = some k ∧ (j = k → a = b) ∧
      (j.le k = true ↔ a = b ∨ Precedes a b)) ∧
    IsStrictTotalOrder String Precedes ∧
    (∀ n ds, Decimal.ofDigits (List.replicate n 0 ++ ds) = Decimal.ofDigits ds) ∧
    ∀ (lib : Library) (files files' : Files) (environment : Environment), files.Relisted files' →
      (∀ infos, (lib.catalogue files' environment).1 = .ok infos ↔ (lib.catalogue files environment).1 = .ok infos) ∧
      ∀ members, lib.IsReadable files members →
        (∀ name inner, (name, Node.dir inner) ∈ members → lib.InReach files name ∧ IsDecimal name) →
        ∃ infos, (lib.catalogue files environment).1 = .ok infos := by
  have hsortable : ∀ id ∈ ids, IsSortable id := fun id hid => ⟨hdecimal id hid, hlength id hid⟩
  refine ⟨⟨byId (fun id => id) ids, byId_perm _ ids, ?_, fun ids' hperm => ?_⟩, fun a ha b hb => ?_, ?_,
    ofDigits_replicate_append, fun lib files files' environment h => ⟨fun infos => catalogue_of_relisted h infos, ?_⟩⟩
  · have hnodup : (byId (fun id => id) ids).Nodup := (byId_perm _ ids).nodup_iff.mpr hdistinct
    exact ((pairwise_byId (fun id => id) ids).and hnodup).imp fun h => h.1.resolve_left h.2
  · refine sorted?_eq_some_iff.mpr ⟨fun id hid => hsortable id (hperm.mem_iff.mp hid), ?_⟩
    exact (byId_eq_of_perm hperm fun x _ y _ hxy => hxy).symm
  · refine ⟨keyOf a, keyOf b, sortKey?_eq_some_iff.mpr ⟨hsortable a ha, rfl⟩,
      sortKey?_eq_some_iff.mpr ⟨hsortable b hb, rfl⟩, fun h => congrArg SortKey.id h, le_keyOf_iff⟩
  · exact isStrictTotalOrder_precedes
  · intro members hreadable hnames
    refine (exists_catalogue_iff environment hreadable).mpr fun name inner hmem => ?_
    obtain ⟨hreach, hname⟩ := hnames name inner hmem
    exact ⟨hreach, fun _ => hname⟩

/-- A directory with two templates. -/
def pairFiles (a b : String) : Files := { root := .dir (loneMembers a ++ loneMembers b) }

theorem relisted_pairFiles {a b : String} (h : a ≠ b) : (pairFiles a b).Relisted (pairFiles b a) where
  root := Node.relists_of_perm List.perm_append_comm (by simp [loneMembers, h])
  current := rfl

theorem catalogue_order_independent_three :
    (∃ sorted, sorted.Pairwise Precedes ∧
      sorted? (fun id => id) ["template10", "template2", "basic"] = some sorted ∧
      sorted? (fun id => id) ["basic", "template2", "template10"] = some sorted) ∧
    ∀ infos, (currentLibrary.catalogue (pairFiles "template2" "template10") fun _ => none).1 = .ok infos ↔
      (currentLibrary.catalogue (pairFiles "template10" "template2") fun _ => none).1 = .ok infos := by
  obtain ⟨⟨sorted, -, hprecedes, hsorted⟩, -, -, -, hcatalogue⟩ :=
    catalogue_order_independent ["template10", "template2", "basic"] (by decide) (by decide) (by decide)
  refine ⟨⟨sorted, hprecedes, hsorted _ (.refl _), hsorted _ (by decide)⟩, ?_⟩
  exact (hcatalogue currentLibrary _ _ _ (relisted_pairFiles (by decide))).1

/-- An id of as many ones as are given. -/
def ones (n : Nat) : String := String.ofList (List.replicate n '1')

theorem digitsOf_ones (n : Nat) : digitsOf (ones n) = List.replicate n '1' := by
  have hdigit : isDigit '1' = true := by decide
  rw [digitsOf, ones, String.toList_ofList, List.filter_replicate, if_pos hdigit]

theorem isDecimal_ones (n : Nat) : IsDecimal (ones n) := by
  intro c hc
  rw [digitsOf_ones] at hc
  rw [List.eq_of_mem_replicate hc]
  decide

/-- An id with one digit too many has no place, though all of them are decimal ones. -/
theorem sorted?_ones : [ones 4301].Nodup ∧ (∀ id ∈ [ones 4301], IsDecimal id) ∧
    sorted? (fun id => id) [ones 4301] = none := by
  refine ⟨List.pairwise_singleton _ _, List.forall_mem_singleton.mpr (isDecimal_ones _), ?_⟩
  rw [Option.eq_none_iff_forall_ne_some]
  intro ys hys
  have hlength := ((sorted?_eq_some_iff.mp hys).1 _ List.mem_cons_self).length
  rw [digitsOf_ones, List.length_replicate] at hlength
  exact absurd hlength (by decide)

end Library

end Vitae
