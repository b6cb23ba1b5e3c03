import Vitae.Proofs.Template.Catalogue
import Vitae.Proofs.Template.Current

/-!
# The catalogue and the loader agree

The catalogue looks at the members of the templates directory, a load follows the name of a shell from it.
Both come to the same path (`readFile_nameOf_iff`), and a shell that is found there stands in a member of the
directory (`exists_member_of_bytes?`). So a library that keeps nothing loads the own shell of a template
exactly when the catalogue lists the template and the shell is a text (`catalogue_agrees_with_load`).
-/

namespace Vitae.Library

open Template

variable {lib : Library} {files : Files} {environment : Environment} {members : List (String × Node)} {id : String}

/-- The shell of a template is there, and it is a text in UTF-8. -/
def HasText (lib : Library) (files : Files) (id : String) : Prop :=
  ∃ content source, files.bytes? (lib.shellPath id) = some content ∧ Files.decode? content = some source

/-- A library that keeps nothing answers with the own shell of a template when that is in its file. -/
theorem load_clear_eq_own_iff {shell : Shell} :
    (lib.clear.load files id).answer = .ok shell ∧ shell.id = id ↔ lib.InFile files shell ∧ shell.id = id := by
  have hempty : ∀ k, lib.clear.cached? k = none := fun _ => rfl
  constructor
  · rintro ⟨hanswer, hid⟩
    rcases load_cases lib.clear files id with ⟨k, kept, -, hkept, -⟩ | ⟨read, -, -, hfile, hread, -⟩ |
      ⟨failure, -, -, herror, -⟩
    · rw [hempty] at hkept
      cases hkept
    · obtain rfl : read = shell := Except.ok.inj (hread.symm.trans hanswer)
      exact ⟨hfile, hid⟩
    · rw [herror] at hanswer
      cases hanswer
  · rintro ⟨hfile, hid⟩
    exact ⟨(loadsWell lib.clear files id).read shell (hempty id) hid hfile, hid⟩

/-- For the name of a file that is what stands at the path of the shell. -/
theorem inFile_iff {shell : Shell} (h : IsSegment id) (hid : shell.id = id) : lib.InFile files shell ↔
    ∃ content, files.bytes? (lib.shellPath id) = some content ∧
      Files.decode? content = some shell.source ∧ shell.path = (lib.shellPath id).collapse := by
  rw [InFile, hid]
  exact readFile_nameOf_iff h

/-- A library that keeps nothing loads the own shell of a template when that is a text. -/
theorem exists_load_clear_iff (h : IsSegment id) :
    (∃ shell, (lib.clear.load files id).answer = .ok shell ∧ shell.id = id) ↔ lib.HasText files id := by
  constructor
  · rintro ⟨shell, hload⟩
    obtain ⟨hfile, hid⟩ := load_clear_eq_own_iff.mp hload
    obtain ⟨content, hcontent, hsource, -⟩ := (inFile_iff h hid).mp hfile
    exact ⟨content, shell.source, hcontent, hsource⟩
  · rintro ⟨content, source, hcontent, hsource⟩
    let shell : Shell := ⟨id, source, (lib.shellPath id).collapse⟩
    have hfile : lib.InFile files shell := (inFile_iff h rfl).mpr ⟨content, hcontent, hsource, rfl⟩
    exact ⟨shell, load_clear_eq_own_iff.mpr ⟨hfile, rfl⟩⟩

/-- A template whose shell is a text is listed. -/
theorem mem_catalogue_of_hasText (h : lib.IsReadable files members) {infos : List TemplateInfo}
    (hinfos : (lib.catalogue files environment).1 = .ok infos) (hid : IsSegment id) (htext : lib.HasText files id) :
    id ∈ infos.map TemplateInfo.id := by
  obtain ⟨content, source, hcontent, -⟩ := htext
  have hholds : lib.holdsShell files id = true := Option.isSome_iff_exists.mpr ⟨content, hcontent⟩
  obtain ⟨-, hmember⟩ := exists_member_of_bytes? hid h.root hcontent
  exact ((mem_map_id_catalogue_iff h hinfos).2 id).mpr ⟨hmember, hholds⟩

/-- **The catalogue and the loader agree.** Let the templates directory be one that can be read, and let
there be a catalogue. A template is listed and its shell is a text exactly when a library that keeps nothing
loads its own shell, and not the one of the default template. The shell then comes from the path where it
belongs, with the pairs of dots in it taken together; that is the same path exactly when the path of the
templates directory has none. -/
theorem catalogue_agrees_with_load (lib : Library) (files : Files) (environment : Environment)
    (members : List (String × Node)) (h : lib.IsReadable files members) (infos : List TemplateInfo)
    (hinfos : (lib.catalogue files environment).1 = .ok infos) (id : String) (hid : IsSegment id) :
    (id ∈ infos.map TemplateInfo.id ∧ lib.HasText files id ↔
      ∃ shell, (lib.clear.load files id).answer = .ok shell ∧ shell.id = id) ∧
    ∀ shell, (lib.clear.load files id).answer = .ok shell → shell.id = id →
      shell.path = (lib.shellPath id).collapse ∧
        (shell.path = lib.shellPath id ↔ lib.root.collapse = lib.root) := by
  constructor
  · rw [exists_load_clear_iff hid]
    exact ⟨fun hlisted => hlisted.2, fun htext => ⟨mem_catalogue_of_hasText h hinfos hid htext, htext⟩⟩
  · intro shell hanswer hown
    obtain ⟨hfile, -⟩ := load_clear_eq_own_iff.mp ⟨hanswer, hown⟩
    obtain ⟨content, -, -, hpath⟩ := (inFile_iff hid hown).mp hfile
    rw [hpath]
    exact ⟨rfl, collapse_shellPath_eq_iff hid⟩

theorem catalogue_agrees_with_load_template02 :
    ∃ shell, (currentLibrary.clear.load (loneFiles "template02") "template02").answer = .ok shell ∧
      shell.id = "template02" ∧ shell.path = currentLibrary.shellPath "template02" := by
  obtain ⟨infos, hinfos⟩ := (exists_catalogue_iff (fun _ => none) isReadable_template02).mpr
    (places_of_lone rfl (by decide))
  have hid := isSegment_template02
  obtain ⟨hagree, hpath⟩ := catalogue_agrees_with_load currentLibrary (loneFiles "template02") (fun _ => none)
    (loneMembers "template02") isReadable_template02 infos hinfos "template02" hid
  have htext : currentLibrary.HasText (loneFiles "template02") "template02" := ⟨_, placeholder, rfl, by decide⟩
  obtain ⟨shell, hload, hown⟩ := hagree.mp ⟨mem_catalogue_of_hasText isReadable_template02 hinfos hid htext, htext⟩
  exact ⟨shell, hload, hown, (hpath shell hload hown).2.mpr rfl⟩

/-- A library over the current directory, which is named as a way into the template and out of it. -/
def detourLibrary : Library := { root := ⟨.here, ["template02", ".."]⟩, defaultId := usualDefault }

theorem isReadable_detour : detourLibrary.IsReadable (loneFiles "template02") (loneMembers "template02") :=
  isReadable_lone rfl rfl isSegment_template02

/-- The shell that is loaded there comes from a path without the detour. -/
theorem load_detour : detourLibrary.IsReadable (loneFiles "template02") (loneMembers "template02") ∧
    (∃ infos, (detourLibrary.catalogue (loneFiles "template02") fun _ => none).1 = .ok infos ∧
      "template02" ∈ infos.map TemplateInfo.id) ∧
    ∃ shell, (detourLibrary.clear.load (loneFiles "template02") "template02").answer = .ok shell ∧
      shell.id = "template02" ∧ shell.path ≠ detourLibrary.shellPath "template02" := by
  have hid := isSegment_template02
  have htext : detourLibrary.HasText (loneFiles "template02") "template02" := ⟨_, placeholder, rfl, by decide⟩
  refine ⟨isReadable_detour, ?_, ?_⟩
  · obtain ⟨infos, hinfos⟩ := (exists_catalogue_iff (fun _ => none) isReadable_detour).mpr
      (places_of_lone rfl (by decide))
    exact ⟨infos, hinfos, mem_catalogue_of_hasText isReadable_detour hinfos hid htext⟩
  · obtain ⟨shell, hload, hown⟩ := (exists_load_clear_iff hid).mpr htext
    refine ⟨shell, hload, hown, fun hpath => ?_⟩
    obtain ⟨hfile, -⟩ := load_clear_eq_own_iff.mp ⟨hload, hown⟩
    obtain ⟨content, -, -, hcollapse⟩ := (inFile_iff hid hown).mp hfile
    exact absurd ((collapse_shellPath_eq_iff hid).mp (hcollapse.symm.trans hpath)) (by decide)

end Vitae.Library
