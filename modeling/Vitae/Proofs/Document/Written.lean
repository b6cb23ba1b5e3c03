import Vitae.Compilation
import Vitae.Proofs.Document.Unusable
import Vitae.Proofs.Files.Writing
import Vitae.Proofs.Text.Shown

/-!
# Documents that are written

A compilation that succeeds has written the document of its record to its file, and has changed no
other file. One that does not succeed has changed no file at all, whatever went wrong
(`run_writes_document`). A record that cannot be read and templates that cannot be loaded are
reported as failures, with a reason.
-/

namespace Vitae

open Text Calendar

/-! ### Reasons -/

theorem FileError.shown_message (e : FileError) : Shown e.message :=
  shown_append.mpr (.inl (shown_append.mpr (.inr (by decide))))

theorem LoadError.shown_message (e : LoadError) : Shown e.message :=
  shown_intercalate_of_mem (List.mem_append_right _ List.mem_cons_self) (by decide)

/-! ### Looking for a file -/

namespace Files

variable {files : Files} {p : Path}

theorem lookFor_of_bytes? {content : ByteArray} (h : files.bytes? p = some content) :
    files.lookFor p = .ok (some content) := by
  rw [bytes?] at h
  rw [lookFor]
  split at h
  · rename_i content' hnode
    rw [hnode, ← Option.some.inj h]
  · cases h

/-- Looking for a file that is not there comes to nothing, or to an error if the path is too long. -/
theorem lookFor_of_bytes?_eq_none (h : files.bytes? p = none) :
    files.lookFor p = .ok none ∨ files.lookFor p = .error ⟨.tooLong, p⟩ := by
  rw [bytes?] at h
  rw [lookFor]
  split
  · rename_i content hnode
    rw [hnode] at h
    cases h
  · exact .inr rfl
  · exact .inl rfl

end Files

namespace Compilation

/-! ### Writing a document -/

variable {c : Compilation} {a : Assembler} {files : Files} {today : Date} {output : Path} {document : String}

/-- The document is written, or no file has changed. -/
theorem write_cases (files : Files) (output : Path) (document : String) :
    ((write files output document).answer = .ok () ∧
      files.HasWritten (write files output document).state output document.toUTF8) ∨
    ∃ e, (write files output document).answer = .error e ∧
      files.SameFiles (write files output document).state := by
  have hdirs := Files.sameFiles_makeDirs files output.parent
  rw [write]
  cases hmade : files.makeDirs output.parent with
  | mk answer made log =>
    rw [hmade] at hdirs
    cases answer with
    | error e => exact .inr ⟨e, rfl, hdirs⟩
    | ok u =>
      simp only
      cases hwritten : made.writeText output document with
      | error e => exact .inr ⟨e, rfl, hdirs⟩
      | ok after => exact .inl ⟨rfl, hdirs.hasWritten (Files.hasWritten_writeText hwritten)⟩

/-- A document can be written where a file can be. -/
theorem write_of_isWritable (h : files.IsWritable output) (document : String) :
    (write files output document).answer = .ok () := by
  obtain ⟨members, hparent⟩ := h.parent
  obtain ⟨after, hafter⟩ := h.exists_writeText document
  simp only [write, Files.makeDirs_of_dir hparent, hafter]

/-! ### The work -/

/-- The record is not read. -/
theorem make_of_unread (a : Assembler) (output : Path) (today : Date) {e : ReadError}
    (h : (Resume.ofFile files c.record).1 = .error e) :
    (c.make a files output today).answer = .error (.read e) ∧ (c.make a files output today).state = files := by
  rw [make]
  cases hread : Resume.ofFile files c.record with
  | mk answer log =>
    rw [hread] at h
    obtain rfl : answer = .error e := h
    exact ⟨rfl, rfl⟩

/-- The document is not made. -/
theorem make_of_unmade (output : Path) {r : Resume} {e : DocumentError}
    (hread : (Resume.ofFile files c.record).1 = .ok r)
    (h : (a.compileResume files c.template r today).answer = .error e) :
    (c.make a files output today).answer = .error (.document e) ∧ (c.make a files output today).state = files := by
  rw [make]
  cases hfile : Resume.ofFile files c.record with
  | mk answer log =>
    rw [hfile] at hread
    obtain rfl : answer = .ok r := hread
    simp only
    cases hmade : a.compileResume files c.template r today with
    | mk answer state log' =>
      rw [hmade] at h
      obtain rfl : answer = .error e := h
      exact ⟨rfl, rfl⟩

/-- The document is made, and what is left is to write it. -/
theorem make_of_made (output : Path) {r : Resume} (hread : (Resume.ofFile files c.record).1 = .ok r)
    (h : (a.compileResume files c.template r today).answer = .ok document) :
    (c.make a files output today).answer = (write files output document).answer.mapError .write ∧
      (c.make a files output today).state = (write files output document).state := by
  rw [make]
  cases hfile : Resume.ofFile files c.record with
  | mk answer log =>
    rw [hfile] at hread
    obtain rfl : answer = .ok r := hread
    simp only
    cases hmade : a.compileResume files c.template r today with
    | mk answer state log' =>
      rw [hmade] at h
      obtain rfl : answer = .ok document := h
      exact ⟨rfl, rfl⟩

/-- The file holds the document of the record, and no other file has changed. -/
def HasMade (c : Compilation) (a : Assembler) (today : Date) (output : Path) (files after : Files) : Prop :=
  ∃ r document, (Resume.ofFile files c.record).1 = .ok r ∧
    (a.compileResume files c.template r today).answer = .ok document ∧
    files.HasWritten after output document.toUTF8

/-- The work is done, or no file has changed. -/
theorem make_cases (c : Compilation) (a : Assembler) (files : Files) (output : Path) (today : Date) :
    ((c.make a files output today).answer = .ok () ∧
      c.HasMade a today output files (c.make a files output today).state) ∨
    ∃ e, (c.make a files output today).answer = .error e ∧ files.SameFiles (c.make a files output today).state := by
  cases hread : (Resume.ofFile files c.record).1 with
  | error e =>
    obtain ⟨hanswer, hstate⟩ := make_of_unread a output today hread
    exact .inr ⟨_, hanswer, by rw [hstate]; exact .refl files⟩
  | ok r =>
    cases hmade : (a.compileResume files c.template r today).answer with
    | error e =>
      obtain ⟨hanswer, hstate⟩ := make_of_unmade output hread hmade
      exact .inr ⟨_, hanswer, by rw [hstate]; exact .refl files⟩
    | ok document =>
      obtain ⟨hanswer, hstate⟩ := make_of_made output hread hmade
      rw [hanswer, hstate]
      rcases write_cases files output document with ⟨hwrite, hwritten⟩ | ⟨e, hwrite, hsame⟩
      · rw [hwrite]
        exact .inl ⟨rfl, r, document, hread, hmade, hwritten⟩
      · rw [hwrite]
        exact .inr ⟨_, rfl, hsame⟩

/-! ### Runs -/

/-- How a run ends: the work is done, or what went wrong is reported, or it breaks the run off. -/
def ending (output : Path) : Except CompilationError Unit → Except CompilationError Ending
  | .ok () => .ok (.success (some output.text))
  | .error e => if e.isReported then .ok (.failure (some e.message)) else .error e

theorem run_eq (a : Assembler) (files : Files) (today : Date) (time : String)
    (h : c.output? = some output) :
    (c.run a files today time).answer = ending output (c.make a files output today).answer ∧
      (c.run a files today time).state = (c.make a files output today).state := by
  rw [run, h]
  cases hmade : (c.make a files output today).answer with
  | ok u => simp only [hmade, ending, and_self]
  | error e =>
    simp only [hmade, ending]
    by_cases he : e.isReported = true
    · rw [if_pos he, if_pos he]
      exact ⟨rfl, rfl⟩
    · rw [if_neg he, if_neg he]
      exact ⟨rfl, rfl⟩

/-! ### What is refused -/

/-- What a compilation reports as a failure before it writes anything. -/
inductive IsRefused (c : Compilation) (a : Assembler) (files : Files) : Prop where
  /-- There is no record file. -/
  | missing (h : files.bytes? c.record = none)
  /-- The record file cannot be parsed. -/
  | unreadable {content : ByteArray} {reason : String} (hfile : files.bytes? c.record = some content)
    (h : Resume.readRecord content = .error reason)
  /-- The record is no mapping. -/
  | notMapping {content : ByteArray} {d : Datum} (hfile : files.bytes? c.record = some content)
    (hread : Resume.readRecord content = .ok d) (h : d.pairs? = none)
  /-- The record is read, but neither the template nor the default one can be loaded. -/
  | unloadable {r : Resume} (hread : (Resume.ofFile files c.record).1 = .ok r)
    (hid : a.library.IsMissing files c.template) (hdefault : a.library.IsMissing files a.library.defaultId)

/-- Without a record file there is nothing to be read. -/
theorem ofFile_of_missing (h : files.bytes? c.record = none) :
    ∃ e, (Resume.ofFile files c.record).1 = .error e ∧ (CompilationError.read e).isReported = true ∧
      Shown e.message := by
  rcases Files.lookFor_of_bytes?_eq_none h with hlook | hlook
  · refine ⟨.missing c.record, ?_, rfl, shown_append.mpr (.inl (by decide))⟩
    rw [Resume.ofFile, hlook]
  · refine ⟨.file ⟨.tooLong, c.record⟩, ?_, rfl, FileError.shown_message _⟩
    rw [Resume.ofFile, hlook]

/-- What is refused stops the work, and is reported with a reason. -/
theorem exists_error_of_isRefused (output : Path) (today : Date) (h : c.IsRefused a files) :
    ∃ e, (c.make a files output today).answer = .error e ∧ e.isReported = true ∧ Shown e.message := by
  cases h with
  | missing h =>
    obtain ⟨e, hread, hreported, hshown⟩ := ofFile_of_missing h
    exact ⟨.read e, (make_of_unread a output today hread).1, hreported, hshown⟩
  | @unreadable content reason hfile h =>
    have hread : (Resume.ofFile files c.record).1 = .error (.record (.unreadable c.record.text reason)) := by
      rw [Resume.ofFile, Files.lookFor_of_bytes? hfile]
      simp only [h]
    exact ⟨_, (make_of_unread a output today hread).1, rfl,
      shown_append.mpr (.inl (shown_append.mpr (.inl (shown_append.mpr (.inl (by decide))))))⟩
  | @notMapping content d hfile hread h =>
    have hread : (Resume.ofFile files c.record).1 = .error (.record (.notMapping d.kind)) := by
      rw [Resume.ofFile, Files.lookFor_of_bytes? hfile]
      simp only [hread]
      cases d with
      | map p => cases h
      | _ => rfl
    exact ⟨_, (make_of_unread a output today hread).1, rfl, shown_append.mpr (.inl (by decide))⟩
  | @unloadable r hread hid hdefault =>
    obtain ⟨failure, hown⟩ := Library.loadOwn_of_isMissing hdefault
    have hload : (a.library.load files c.template).answer = .error (a.library.loadError failure) := by
      rw [Library.load_answer_of_isMissing hid, Library.load_default_answer, hown]
      rfl
    have hmade : (a.compileResume files c.template r today).answer = .error (.shell (a.library.loadError failure)) := by
      rw [Assembler.compileResume_answer, hload]
      rfl
    exact ⟨_, (make_of_unmade output hread hmade).1, rfl, LoadError.shown_message _⟩

/-- **What a compilation writes.** After a success its file holds the document that is made of the record,
and no other file has changed. After anything else, a reported failure or not, no file has changed; no more
than directories on the way to it may have been made. It does succeed when the record is read, its document
is made, and a file can be written at its path. If there is a path for the document, then a record file
that is missing or cannot be parsed, a record that is no mapping, and templates neither of which can be
loaded make it fail with a reason. -/
theorem run_writes_document (c : Compilation) (a : Assembler) (files : Files) (today : Date) (time : String) :
    (∀ shown, (c.run a files today time).answer = .ok (.success shown) →
      ∃ output, c.output? = some output ∧ shown = some output.text ∧
        c.HasMade a today output files (c.run a files today time).state) ∧
    ((∀ shown, (c.run a files today time).answer ≠ .ok (.success shown)) →
      files.SameFiles (c.run a files today time).state) ∧
    (∀ output r document, c.output? = some output → (Resume.ofFile files c.record).1 = .ok r →
      (a.compileResume files c.template r today).answer = .ok document → files.IsWritable output →
        (c.run a files today time).answer = .ok (.success (some output.text))) ∧
    (c.output? ≠ none → c.IsRefused a files →
      ∃ why, (c.run a files today time).answer = .ok (.failure (some why)) ∧ why ≠ "") := by
  cases houtput : c.output? with
  | none =>
    have hrun : c.run a files today time = ⟨.error .unnamed, files, []⟩ := by rw [run, houtput]
    rw [hrun]
    exact ⟨fun _ h => (nomatch h), fun _ => .refl files, fun _ _ _ h => (nomatch h), fun h => absurd rfl h⟩
  | some output =>
    obtain ⟨hanswer, hstate⟩ := run_eq a files today time houtput
    rw [hanswer, hstate]
    refine ⟨fun shown h => ?_, fun h => ?_, fun output' r document houtput' hread hmade hwritable => ?_,
      fun _ hrefused => ?_⟩
    · rcases c.make_cases a files output today with ⟨hmade, hwritten⟩ | ⟨e, hmade, -⟩
      · rw [hmade, ending] at h
        exact ⟨output, rfl, (Ending.success.inj (Except.ok.inj h)).symm, hwritten⟩
      · rw [hmade, ending] at h
        split at h <;> cases h
    · rcases c.make_cases a files output today with ⟨hmade, -⟩ | ⟨e, -, hsame⟩
      · rw [hmade, ending] at h
        exact absurd rfl (h _)
      · exact hsame
    · rw [← Option.some.inj houtput'] at hwritable ⊢
      rw [(make_of_made output hread hmade).1, write_of_isWritable hwritable document]
      rfl
    · obtain ⟨e, herror, hreported, hshown⟩ := exists_error_of_isRefused output today hrefused
      rw [herror, ending, if_pos hreported]
      exact ⟨_, rfl, hshown.ne_empty⟩

/-! ### A record and one template -/

section EmptyRecord

open Assembler

/-- A directory with the shell of one template, which is not the default one, and an empty record file. -/
def emptyRecordFiles : Files := { root := .dir [bareTemplate, ("r.yaml", .file ⟨#[]⟩)] }

/-- The record in that template, to be written next to the record file. -/
def emptyRecord : Compilation where
  record := { segments := ["r.yaml"] }
  template := "template02"

/-- The file to be written. -/
def emptyRecordOutput : Path := { segments := ["r.tex"] }

/-- The same with a record file that is not there. -/
def missingRecord : Compilation := { emptyRecord with record := { segments := ["s.yaml"] } }

/-- A run in that directory. -/
def runThere (c : Compilation) : Outcome Files (Except CompilationError Ending) :=
  c.run bareAssembler emptyRecordFiles newYear "0.01s"

theorem ofFile_emptyRecord : (Resume.ofFile emptyRecordFiles emptyRecord.record).1 = .ok {} := rfl

theorem exists_document_emptyRecord :
    ∃ document, (bareAssembler.compileResume emptyRecordFiles "template02" {} newYear).answer = .ok document := by
  have hlayout : bareAssembler.layoutFor "template02" = .standard := by decide
  have hjudged : (bareAssembler.layoutFor "template02").IsJudged {} newYear := by
    rw [hlayout]
    exact List.forall_mem_nil _
  obtain ⟨-, body, -, hbody, -⟩ := exists_renderBody hjudged
  have hdraw : (bareAssembler.layoutFor "template02").body {} newYear = .ok body := hbody
  have hload : (bareAssembler.library.load emptyRecordFiles "template02").answer = .ok bareShell := by decide
  have hprepare : (bareAssembler.prepare emptyRecordFiles bareShell).answer = .ok placeholder := by decide
  refine ⟨insertBody placeholder body, ?_⟩
  rw [compileResume_answer, hload, hdraw]
  simp only [assemble, hprepare]
  rfl

theorem isWritable_emptyRecordOutput : emptyRecordFiles.IsWritable emptyRecordOutput := ⟨⟨_, rfl⟩, .inr rfl⟩

theorem run_writes_document_emptyRecord :
    (runThere emptyRecord).answer = .ok (.success (some "r.tex")) ∧
      emptyRecord.HasMade bareAssembler newYear emptyRecordOutput emptyRecordFiles (runThere emptyRecord).state ∧
      (∃ why, (runThere missingRecord).answer = .ok (.failure (some why)) ∧ why ≠ "") ∧
      emptyRecordFiles.SameFiles (runThere missingRecord).state := by
  obtain ⟨document, hdocument⟩ := exists_document_emptyRecord
  obtain ⟨hsuccess, -, hwrites, -⟩ := run_writes_document emptyRecord bareAssembler emptyRecordFiles newYear "0.01s"
  have hanswer := hwrites _ _ _ rfl ofFile_emptyRecord hdocument isWritable_emptyRecordOutput
  obtain ⟨output, houtput, -, hmade⟩ := hsuccess _ hanswer
  obtain rfl : emptyRecordOutput = output := Option.some.inj houtput
  obtain ⟨-, hsame, -, hrefused⟩ := run_writes_document missingRecord bareAssembler emptyRecordFiles newYear "0.01s"
  obtain ⟨why, hwhy, hne⟩ := hrefused (by decide) (.missing rfl)
  refine ⟨hanswer, hmade, ⟨why, hwhy, hne⟩, hsame fun shown h => ?_⟩
  rw [hwhy] at h
  cases h

/-- A default template that cannot be loaded does not matter as long as it is not needed, and a missing
record whose path has no name breaks the run off when no file to be written is given. -/
theorem run_not_failure :
    (bareAssembler.library.IsMissing emptyRecordFiles bareAssembler.library.defaultId ∧
      (runThere emptyRecord).answer = .ok (.success (some "r.tex"))) ∧
    (emptyRecordFiles.bytes? { anchor := .root } = none ∧
      (runThere { record := { anchor := .root }, template := "template02" }).answer = .error .unnamed) := by
  obtain ⟨document, hdocument⟩ := exists_document_emptyRecord
  have hmissing : bareAssembler.library.IsMissing emptyRecordFiles bareAssembler.library.defaultId :=
    ⟨by decide, .notFound, by decide⟩
  have houtput : emptyRecord.output? = some emptyRecordOutput := by decide
  have hanswer : (runThere emptyRecord).answer = .ok (.success (some "r.tex")) := by
    rw [runThere, (run_eq _ _ _ _ houtput).1, (make_of_made _ ofFile_emptyRecord hdocument).1,
      write_of_isWritable isWritable_emptyRecordOutput]
    rfl
  exact ⟨⟨hmissing, hanswer⟩, rfl, rfl⟩

end EmptyRecord

end Compilation

end Vitae
