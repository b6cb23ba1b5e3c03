import Vitae.Proofs.Document.Operations

/-!
# Definitions that cannot be used

Definitions that cannot be used are meant to leave a shell as it is, with a warning. That is what
happens when no file holds them, whatever stands in its place (`prepare_of_missing`). A file whose bytes
are no text is not met with the same care: there is no document then, now or at the next request
(`compile_without_definitions`).
-/

namespace Vitae.Assembler

open Text Calendar

/-! ### The file of the definitions -/

theorem decode?_eq_none_iff {content : ByteArray} : Files.decode? content = none ↔ ¬ content.IsValidUTF8 := by
  rw [Files.decode?, Option.map_eq_none_iff]
  unfold String.fromUTF8?
  split
  · rename_i hvalid
    exact iff_of_false nofun (not_not_intro hvalid)
  · rename_i hinvalid
    exact iff_of_true rfl hinvalid

/-- Where the definitions belong. -/
def definitionsPath (a : Assembler) : Path :=
  { a.library.root with segments := a.library.root.segments ++ ["structure", "command_definitions.tex"] }

variable {a b : Assembler} {files : Files} {id : String} {shell : Shell}

/-- What reading the definitions comes to. -/
theorem readSource_definitions : a.library.readSource files Template.definitionsName =
    match files.bytes? a.definitionsPath with
    | none => .error .notFound
    | some content =>
      match Files.decode? content with
      | none => .error .notText
      | some text => .ok text := by
  have hsegments : Template.segments? Template.definitionsName = some ["structure", "command_definitions.tex"] := by
    decide
  have hpath : a.definitionsPath = { a.library.root with
      segments := a.library.root.segments ++ ["structure", "command_definitions.tex"] } := rfl
  rw [Library.readSource, Template.readFile, hsegments]
  simp only [← hpath]
  cases files.bytes? a.definitionsPath with
  | none => rfl
  | some content => cases hdecode : Files.decode? content <;> simp only [hdecode] <;> rfl

/-! ### Preparing a shell without them -/

section unknown

variable (hnone : a.definitions = none) (hid : shell.id ≠ a.library.defaultId)
include hnone hid

/-- Without a file a shell is taken as it is, with a warning. -/
theorem prepare_of_missing (h : a.library.readSource files Template.definitionsName = .error .notFound) :
    a.prepare files shell = ⟨.ok shell.source, { a with definitions := some "" }, [missingWarning]⟩ := by
  have hdefs : a.commandDefinitions files = ⟨.ok "", { a with definitions := some "" }, [missingWarning]⟩ := by
    simp only [commandDefinitions, hnone, h, missingWarning]
  rw [prepare, if_neg hid, hdefs]
  simp only [if_true]

/-- With a file that is no text it is not taken at all. -/
theorem prepare_of_notText (h : a.library.readSource files Template.definitionsName = .error .notText) :
    a.prepare files shell = ⟨.error .definitions, a, []⟩ := by
  have hdefs : a.commandDefinitions files = ⟨.error .definitions, a, []⟩ := by
    simp only [commandDefinitions, hnone, h]
  rw [prepare, if_neg hid, hdefs]

end unknown

/-! ### Documents without them -/

/-- What is answered when the document of a résumé is asked for. -/
inductive Answers (a : Assembler) (files : Files) (id : String) (r : Resume) (today : Date) :
    Outcome Assembler (Except DocumentError String) → Prop where
  /-- The résumé is given as such. -/
  | resume : Answers a files id r today (a.compileResume files id r today)
  /-- It is given as a record. -/
  | record {record : Datum} {log : Log} : Resume.ofRecord record = (.ok r, log) →
      Answers a files id r today (a.compile files id record today)

/-- When the shell is loaded and the body is drawn, what is left to be done is to prepare the shell. -/
theorem compileResume_eq {r : Resume} {today : Date} {body : String}
    (hshell : (a.library.load files id).answer = .ok shell) (hbody : (a.renderBody id r today).1 = .ok body) :
    ∃ (b : Assembler) (log : Log), b.definitions = a.definitions ∧ b.library.settings = a.library.settings ∧
      a.compileResume files id r today = ⟨(b.prepare files shell).answer.map (insertBody · body),
        (b.prepare files shell).state, log ++ (b.prepare files shell).log⟩ := by
  have hsettings := Library.load_settings a.library files id
  cases hload : a.library.load files id with
  | mk answer library log =>
    rw [hload] at hshell hsettings
    obtain rfl : answer = .ok shell := hshell
    have hrender : ({ a with library } : Assembler).renderBody id r today =
        (.ok body, (a.renderBody id r today).2) := Prod.ext hbody rfl
    refine ⟨{ a with library }, log ++ (a.renderBody id r today).2 ++ bareShellWarning shell, rfl, hsettings, ?_⟩
    unfold compileResume
    rw [loadShell, hload]
    simp only [hrender]
    cases ({ a with library } : Assembler).prepare files shell with
    | mk answer state log' => cases answer <;> rfl

/-- It makes no difference whether the résumé is given as such or as a record. -/
theorem Answers.prepare {r : Resume} {today : Date} {body : String}
    {out : Outcome Assembler (Except DocumentError String)} (h : a.Answers files id r today out)
    (hshell : (a.library.load files id).answer = .ok shell) (hbody : (a.renderBody id r today).1 = .ok body) :
    ∃ (b : Assembler) (log : Log), b.definitions = a.definitions ∧ b.library.settings = a.library.settings ∧
      out = ⟨(b.prepare files shell).answer.map (insertBody · body), (b.prepare files shell).state,
        log ++ (b.prepare files shell).log⟩ := by
  obtain ⟨b, log, hdefs, hlib, hout⟩ := compileResume_eq hshell hbody
  cases h with
  | resume => exact ⟨b, log, hdefs, hlib, hout⟩
  | @record record log' hrecord =>
    refine ⟨b, log' ++ log, hdefs, hlib, ?_⟩
    rw [compile, hrecord]
    simp only [hout, List.append_assoc]

/-- **Definitions that cannot be used.** Before the definitions have been looked for, let the shell for a
template be loaded, not be the default one, and its body be drawn. When no file holds the definitions, the
document is the shell as it is with the body put in, and there is a warning. When there is a file, but its
bytes are no text, there is no document, and the definitions are still to be looked for, so that it is
the same the next time. -/
theorem compile_without_definitions (a : Assembler) (files : Files) (id : String) (r : Resume) (today : Date)
    (shell : Shell) (hnone : a.definitions = none) (hshell : (a.library.load files id).answer = .ok shell)
    (hid : shell.id ≠ a.library.defaultId) (hjudged : (a.layoutFor id).IsJudged r today) :
    ∃ body, (a.renderBody id r today).1 = .ok body ∧ ∀ out, a.Answers files id r today out →
      (files.bytes? a.definitionsPath = none →
        out.answer = .ok (insertBody shell.source body) ∧ missingWarning ∈ out.log) ∧
      (∀ content, files.bytes? a.definitionsPath = some content → ¬ content.IsValidUTF8 →
        out.answer = .error .definitions ∧ out.state.definitions = none) := by
  obtain ⟨-, body, -, hbody, -⟩ := exists_renderBody hjudged
  refine ⟨body, hbody, fun out hout => ?_⟩
  obtain ⟨b, log, hdefs, hlib, rfl⟩ := hout.prepare hshell hbody
  have hroot : b.library.root = a.library.root := congrArg Prod.fst hlib
  have hdefault : b.library.defaultId = a.library.defaultId := congrArg Prod.snd hlib
  have hpath : b.definitionsPath = a.definitionsPath := by rw [definitionsPath, definitionsPath, hroot]
  rw [← hdefs] at hnone
  rw [← hdefault] at hid
  rw [← hpath]
  constructor
  · intro hmissing
    have hread : b.library.readSource files Template.definitionsName = .error .notFound := by
      rw [readSource_definitions, hmissing]
    rw [prepare_of_missing hnone hid hread]
    exact ⟨rfl, List.mem_append_right _ List.mem_cons_self⟩
  · intro content hcontent hinvalid
    have hread : b.library.readSource files Template.definitionsName = .error .notText := by
      rw [readSource_definitions, hcontent]
      simp only [decode?_eq_none_iff.mpr hinvalid]
    rw [prepare_of_notText hnone hid hread]
    exact ⟨rfl, hnone⟩

/-! ### A directory with one template -/

/-- A templates directory with the shell of one template, which is its placeholder. -/
def bareTemplate : String × Node :=
  ("template02", .dir [("template02-standardized.tex", .file placeholder.toUTF8)])

/-- The directory without definitions. -/
def bareFiles : Files := { root := .dir [bareTemplate] }

/-- The directory with a file of definitions that is no text. -/
def unreadableFiles : Files :=
  { root := .dir [bareTemplate, ("structure", .dir [("command_definitions.tex", .file ⟨#[0xff]⟩)])] }

/-- The shell of the template. -/
def bareShell : Shell :=
  { id := "template02"
    source := placeholder
    path := { segments := ["template02", "template02-standardized.tex"] } }

/-- A new assembler over the directory. -/
def bareAssembler : Assembler := fresh {} "template01" [("basic_sa", .regional)] .standard

theorem isJudged_bare : (bareAssembler.layoutFor "template02").IsJudged graduate newYear := by
  have hlayout : bareAssembler.layoutFor "template02" = layoutFor { library := default } "template01" := by decide
  rw [hlayout]
  exact isJudged_graduate

theorem compile_without_definitions_bareFiles :
    ∃ body, (bareAssembler.compileResume bareFiles "template02" graduate newYear).answer =
      .ok (insertBody placeholder body) := by
  obtain ⟨body, -, hout⟩ := compile_without_definitions bareAssembler bareFiles "template02" graduate newYear
    bareShell rfl (by decide) (by decide) isJudged_bare
  exact ⟨body, ((hout _ .resume).1 (by decide)).1⟩

/-- A byte that is no text stops a document of which all else is there. -/
theorem compileResume_unreadableFiles :
    bareAssembler.definitions = none ∧
      (bareAssembler.library.load unreadableFiles "template02").answer = .ok bareShell ∧
      bareShell.id ≠ bareAssembler.library.defaultId ∧
      (∃ body, (bareAssembler.renderBody "template02" graduate newYear).1 = .ok body) ∧
      (bareAssembler.compileResume unreadableFiles "template02" graduate newYear).answer = .error .definitions := by
  obtain ⟨-, body, -, hbody, -⟩ := exists_renderBody isJudged_bare
  have hload : (bareAssembler.library.load unreadableFiles "template02").answer = .ok bareShell := by decide
  have hprepare : (bareAssembler.prepare unreadableFiles bareShell).answer = .error .definitions := by decide
  have hdraw : (bareAssembler.layoutFor "template02").body graduate newYear = .ok body := hbody
  refine ⟨rfl, hload, by decide, ⟨body, hbody⟩, ?_⟩
  rw [compileResume_answer, hload, hdraw]
  simp only [assemble, hprepare]
  rfl

end Vitae.Assembler
