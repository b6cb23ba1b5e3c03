import Vitae.Proofs.Document.Fallback
import Vitae.Proofs.Template.Current

/-!
# Operations on an assembler

What an assembler is asked for leaves traces in it: shells that were read are kept, and so are the
definitions once they have been looked for. Every operation leaves the same kind of trace (`Follows`): it
keeps what the files hold at that time, and forgets nothing but shells. So over files that do not change
an assembler stays current, and a document that it makes is the one that a new assembler would make,
whatever it was asked for before (`compile_after_operations`).
-/

namespace Vitae.Assembler

open Text Calendar

/-! ### What an operation does -/

/-- What can be asked of an assembler and its library. -/
inductive Operation where
  /-- The document of a record. -/
  | compile (id : String) (record : Datum) (today : Date)
  /-- The document of a résumé. -/
  | compileResume (id : String) (r : Resume) (today : Date)
  /-- The shell of a template. -/
  | load (id : String)
  /-- The text of a shell with the definitions. -/
  | prepare (shell : Shell)
  /-- The command definitions. -/
  | definitions
  /-- Whether a shell is kept. -/
  | isCached (id : String)
  /-- The catalogue of the templates. -/
  | catalogue
  /-- That the shells be dropped that are kept. -/
  | clear

/-- The assembler after an operation over the given files. -/
def perform (a : Assembler) (files : Files) : Operation → Assembler
  | .compile id record today => (a.compile files id record today).state
  | .compileResume id r today => (a.compileResume files id r today).state
  | .load id => (a.loadShell files id).state
  | .prepare shell => (a.prepare files shell).state
  | .definitions => (a.commandDefinitions files).state
  | .isCached _ => a
  | .catalogue => a
  | .clear => { a with library := a.library.clear }

/-- The warning that there are no definitions. -/
def missingWarning : Message :=
  .template .warning ("Command definitions unavailable, shells used as-is: " ++
    Template.ReadFailure.notFound.wording)

/-- What looking for the definitions does: they are known, they are read and kept, their file is missing
and nothing is kept in their place, or their file is no text and nothing happens. -/
theorem commandDefinitions_cases (a : Assembler) (files : Files) :
    (∃ text, a.definitions = some text ∧ a.commandDefinitions files = ⟨.ok text, a, []⟩) ∨
    (∃ text, a.definitions = none ∧ a.library.readSource files Template.definitionsName = .ok text ∧
      a.commandDefinitions files = ⟨.ok text, { a with definitions := some text }, []⟩) ∨
    (a.definitions = none ∧ a.library.readSource files Template.definitionsName = .error .notFound ∧
      a.commandDefinitions files = ⟨.ok "", { a with definitions := some "" }, [missingWarning]⟩) ∨
    (a.definitions = none ∧ a.library.readSource files Template.definitionsName = .error .notText ∧
      a.commandDefinitions files = ⟨.error .definitions, a, []⟩) := by
  cases hdefs : a.definitions with
  | some text => exact .inl ⟨text, rfl, by rw [commandDefinitions, hdefs]⟩
  | none =>
    refine .inr ?_
    cases hread : a.library.readSource files Template.definitionsName with
    | ok text => exact .inl ⟨text, rfl, rfl, by simp only [commandDefinitions, hdefs, hread]⟩
    | error failure =>
      cases failure with
      | notFound => exact .inr (.inl ⟨rfl, rfl, by simp only [commandDefinitions, hdefs, hread, missingWarning]⟩)
      | notText => exact .inr (.inr ⟨rfl, rfl, by simp only [commandDefinitions, hdefs, hread]⟩)

/-- What an operation makes of an assembler. -/
structure Follows (a : Assembler) (files : Files) (b : Assembler) : Prop where
  /-- The layouts stay. -/
  layouts : b.layouts = a.layouts
  /-- So does the layout of all other templates. -/
  defaultLayout : b.defaultLayout = a.defaultLayout
  /-- So does what the library is set up with. -/
  settings : b.library.settings = a.library.settings
  /-- A shell that is kept was kept before, or it is in its file. -/
  shells : ∀ k shell, b.library.cached? k = some shell →
    a.library.cached? k = some shell ∨ shell.id = k ∧ a.library.InFile files shell
  /-- The definitions are known as before, or they are known now and what they were read as; empty when
  their file is missing. -/
  definitions : b.definitions = a.definitions ∨ a.definitions = none ∧ ∃ text, b.definitions = some text ∧
    (a.library.readSource files Template.definitionsName = .ok text ∨
      a.library.readSource files Template.definitionsName = .error .notFound ∧ text = "")

variable {a b c : Assembler} {files : Files}

theorem Follows.refl (a : Assembler) (files : Files) : a.Follows files a where
  layouts := rfl
  defaultLayout := rfl
  settings := rfl
  shells := fun _ _ h => .inl h
  definitions := .inl rfl

theorem Follows.trans (hab : a.Follows files b) (hbc : b.Follows files c) : a.Follows files c where
  layouts := hbc.layouts.trans hab.layouts
  defaultLayout := hbc.defaultLayout.trans hab.defaultLayout
  settings := hbc.settings.trans hab.settings
  shells := by
    intro k shell hk
    rcases hbc.shells k shell hk with hb | ⟨hid, hfile⟩
    · exact hab.shells k shell hb
    · exact .inr ⟨hid, (Library.inFile_congr hab.settings).mp hfile⟩
  definitions := by
    have hroot : b.library.root = a.library.root := congrArg Prod.fst hab.settings
    rcases hbc.definitions with hc | ⟨hnone, text, htext, hread⟩
    · rw [hc]
      exact hab.definitions
    · have ha : a.definitions = none := by
        rcases hab.definitions with hb | ⟨ha, -⟩
        · rw [← hb, hnone]
        · exact ha
      rw [Library.readSource, hroot] at hread
      exact .inr ⟨ha, text, htext, hread⟩

theorem follows_commandDefinitions (a : Assembler) (files : Files) :
    a.Follows files (a.commandDefinitions files).state := by
  rcases commandDefinitions_cases a files with ⟨text, -, hout⟩ | ⟨text, hnone, hread, hout⟩ |
    ⟨hnone, hread, hout⟩ | ⟨-, -, hout⟩
  · rw [hout]
    exact .refl a files
  · rw [hout]
    exact ⟨rfl, rfl, rfl, fun _ _ h => .inl h, .inr ⟨hnone, text, rfl, .inl hread⟩⟩
  · rw [hout]
    exact ⟨rfl, rfl, rfl, fun _ _ h => .inl h, .inr ⟨hnone, "", rfl, .inr ⟨hread, rfl⟩⟩⟩
  · rw [hout]
    exact .refl a files

theorem follows_prepare (a : Assembler) (files : Files) (shell : Shell) :
    a.Follows files (a.prepare files shell).state := by
  have hdefs := follows_commandDefinitions a files
  rw [prepare]
  split
  · exact .refl a files
  · split
    · rename_i hout
      rw [hout] at hdefs
      split <;> exact hdefs
    · rename_i hout
      rw [hout] at hdefs
      exact hdefs

theorem follows_loadShell (a : Assembler) (files : Files) (id : String) :
    a.Follows files (a.loadShell files id).state := by
  have hlibrary : (a.loadShell files id).state = { a with library := (a.library.load files id).state } := by
    rw [loadShell]
    split <;> simp_all
  rw [hlibrary]
  refine ⟨rfl, rfl, Library.load_settings a.library files id, fun k shell hk => ?_, .inl rfl⟩
  have hloads := Library.loadsWell a.library files id
  cases hcached : a.library.cached? k with
  | none => exact .inr (hloads.adds_read k shell hcached hk)
  | some old => exact .inl ((hloads.keeps k old hcached).symm.trans hk)

theorem follows_compileResume (a : Assembler) (files : Files) (id : String) (r : Resume) (today : Date) :
    a.Follows files (a.compileResume files id r today).state := by
  have hload := follows_loadShell a files id
  rw [compileResume]
  split
  · rename_i hout
    rw [hout] at hload
    exact hload
  · rename_i shell b log hout
    rw [hout] at hload
    have hprepare := follows_prepare b files shell
    split
    · exact hload
    · split
      · rename_i hout'
        rw [hout'] at hprepare
        exact hload.trans hprepare
      · rename_i hout'
        rw [hout'] at hprepare
        exact hload.trans hprepare

theorem follows_compile (a : Assembler) (files : Files) (id : String) (record : Datum) (today : Date) :
    a.Follows files (a.compile files id record today).state := by
  rw [compile]
  split
  · exact .refl a files
  · exact follows_compileResume a files id _ today

/-- Every operation leaves the same kind of trace. -/
theorem follows_perform (a : Assembler) (files : Files) (o : Operation) : a.Follows files (a.perform files o) := by
  cases o with
  | compile id record today => exact follows_compile a files id record today
  | compileResume id r today => exact follows_compileResume a files id r today
  | load id => exact follows_loadShell a files id
  | prepare shell => exact follows_prepare a files shell
  | definitions => exact follows_commandDefinitions a files
  | isCached id => exact .refl a files
  | catalogue => exact .refl a files
  | clear =>
    have hnone : ∀ k, (a.perform files .clear).library.cached? k = none := fun _ => rfl
    exact ⟨rfl, rfl, rfl, fun k shell h => absurd h (by rw [hnone]; exact nofun), .inl rfl⟩

/-! ### Over files that do not change -/

/-- A new assembler over the same directory, set up the same way. -/
def renewed (a : Assembler) : Assembler := { a with library := a.library.clear, definitions := none }

/-- What is found when the definitions have not been looked for. -/
theorem commandDefinitions_answer_of_read (hnone : a.definitions = none) {text : String}
    (hread : a.library.readSource files Template.definitionsName = .ok text ∨
      a.library.readSource files Template.definitionsName = .error .notFound ∧ text = "") :
    (a.commandDefinitions files).answer = .ok text := by
  rw [commandDefinitions, hnone]
  rcases hread with hread | ⟨hread, rfl⟩
  · simp only [hread]
  · simp only [hread]

/-- What an assembler keeps is what a new one would find. -/
structure IsCurrent (a : Assembler) (files : Files) : Prop where
  /-- The shells that are kept are in their files. -/
  shells : a.library.IsCurrent files
  /-- The definitions that are known are those to be found. -/
  definitions : ∀ text, a.definitions = some text → (a.renewed.commandDefinitions files).answer = .ok text

theorem commandDefinitions_answer_renewed (h : a.IsCurrent files) :
    (a.renewed.commandDefinitions files).answer = (a.commandDefinitions files).answer := by
  cases hdefs : a.definitions with
  | some text =>
    rw [h.definitions text hdefs, commandDefinitions, hdefs]
  | none =>
    have hnone : a.renewed.definitions = a.definitions := hdefs.symm
    exact commandDefinitions_answer_congr files rfl hnone

theorem compileResume_answer_of_definitions (hshells : a.library.IsCurrent files)
    (hanswer : (a.renewed.commandDefinitions files).answer = (a.commandDefinitions files).answer)
    (id : String) (r : Resume) (today : Date) :
    (a.renewed.compileResume files id r today).answer = (a.compileResume files id r today).answer := by
  have hlayout : a.renewed.layoutFor id = a.layoutFor id := rfl
  have hlibrary : a.renewed.library = a.library.clear := rfl
  rw [compileResume_answer, compileResume_answer, hlayout, hlibrary, Library.load_answer_clear hshells]
  cases (a.library.load files id).answer with
  | error e => rfl
  | ok shell =>
    cases (a.layoutFor id).body r today with
    | error e => rfl
    | ok text =>
      have hprepare : (a.renewed.prepare files shell).answer = (a.prepare files shell).answer :=
        prepare_answer_of_definitions shell rfl hanswer
      simp only [assemble, hprepare]

theorem compile_answer_of_definitions (hshells : a.library.IsCurrent files)
    (hanswer : (a.renewed.commandDefinitions files).answer = (a.commandDefinitions files).answer)
    (id : String) (record : Datum) (today : Date) :
    (a.renewed.compile files id record today).answer = (a.compile files id record today).answer := by
  unfold compile
  rcases Resume.ofRecord record with ⟨e | r, log⟩
  · rfl
  · exact compileResume_answer_of_definitions hshells hanswer id r today

/-- Operations leave what an assembler is set up with. -/
theorem Follows.renewed_eq (hab : a.Follows files b) : b.renewed = a.renewed := by
  have hroot : b.library.root = a.library.root := congrArg Prod.fst hab.settings
  have hdefault : b.library.defaultId = a.library.defaultId := congrArg Prod.snd hab.settings
  rw [renewed, renewed, Library.clear, Library.clear, hroot, hdefault, hab.layouts, hab.defaultLayout]

/-- An operation keeps an assembler current. -/
theorem IsCurrent.of_follows (h : a.IsCurrent files) (hab : a.Follows files b) : b.IsCurrent files where
  shells := by
    intro k shell hk
    rw [Library.inFile_congr hab.settings]
    rcases hab.shells k shell hk with ha | hfile
    · exact h.shells k shell ha
    · exact hfile
  definitions := by
    intro text htext
    have hrenewed : (b.renewed.commandDefinitions files).answer = (a.renewed.commandDefinitions files).answer :=
      commandDefinitions_answer_congr files hab.settings rfl
    rw [hrenewed]
    rcases hab.definitions with hb | ⟨-, found, hfound, hread⟩
    · exact h.definitions text (hb ▸ htext)
    · obtain rfl : found = text := Option.some.inj (hfound.symm.trans htext)
      exact commandDefinitions_answer_of_read (a := a.renewed) rfl hread

/-- A new assembler keeps nothing that could be out of date. -/
theorem isCurrent_of_empty (hcache : a.library.cache = []) (hdefs : a.definitions = none) : a.IsCurrent files where
  shells := Library.isCurrent_of_empty hcache
  definitions := fun text htext => by rw [hdefs] at htext; cases htext

/-! ### Histories -/

/-- A new assembler over a directory. -/
def fresh (root : Path) (defaultId : String) (layouts : List (String × Layout)) (defaultLayout : Layout) :
    Assembler :=
  { library := { root, defaultId }, layouts, defaultLayout }

/-- The assembler after operations over files that do not change, one after the other. -/
def performAll (a : Assembler) (files : Files) (operations : List Operation) : Assembler :=
  operations.foldl (fun a o => a.perform files o) a

/-- Operations over files that do not change keep an assembler current, and its setting as it is. -/
theorem isCurrent_performAll (h : a.IsCurrent files) (operations : List Operation) :
    (a.performAll files operations).IsCurrent files ∧ (a.performAll files operations).renewed = a.renewed := by
  induction operations generalizing a with
  | nil => exact ⟨h, rfl⟩
  | cons o operations ih =>
    have hfollows := follows_perform a files o
    obtain ⟨hcurrent, hrenewed⟩ := ih (h.of_follows hfollows)
    exact ⟨hcurrent, hrenewed.trans hfollows.renewed_eq⟩

/-- Assemblers that are set up the same way and current make the same documents. -/
theorem IsCurrent.compile_answer_eq (ha : a.IsCurrent files) (hb : b.IsCurrent files) (hab : a.renewed = b.renewed)
    (id : String) (record : Datum) (today : Date) :
    (a.compile files id record today).answer = (b.compile files id record today).answer := by
  rw [← compile_answer_of_definitions ha.shells (commandDefinitions_answer_renewed ha),
    ← compile_answer_of_definitions hb.shells (commandDefinitions_answer_renewed hb), hab]

theorem IsCurrent.compileResume_answer_eq (ha : a.IsCurrent files) (hb : b.IsCurrent files)
    (hab : a.renewed = b.renewed) (id : String) (r : Resume) (today : Date) :
    (a.compileResume files id r today).answer = (b.compileResume files id r today).answer := by
  rw [← compileResume_answer_of_definitions ha.shells (commandDefinitions_answer_renewed ha),
    ← compileResume_answer_of_definitions hb.shells (commandDefinitions_answer_renewed hb), hab]

/-- **A document does not depend on what came before.** Over files that do not change, an assembler that
was asked for anything before makes the document, or gives the error, that a new assembler over a new
library does, of a record as well as of a résumé. So does a new assembler over a library that was used
before, and it does not matter whether another request comes before or after. -/
theorem compile_after_operations (root : Path) (defaultId : String) (layouts : List (String × Layout))
    (defaultLayout : Layout) (files : Files) (operations : List Operation) (id : String) (today : Date) :
    let new := fresh root defaultId layouts defaultLayout
    let used := new.performAll files operations
    (∀ record : Datum,
      (used.compile files id record today).answer = (new.compile files id record today).answer) ∧
    (∀ r : Resume,
      (used.compileResume files id r today).answer = (new.compileResume files id r today).answer) ∧
    (∀ record : Datum, ({ new with library := used.library }.compile files id record today).answer =
      (new.compile files id record today).answer) ∧
    ∀ (o : Operation) (record : Datum), ((used.perform files o).compile files id record today).answer =
      (used.compile files id record today).answer := by
  intro new used
  have hnew : new.IsCurrent files := isCurrent_of_empty rfl rfl
  obtain ⟨hused, hrenewed⟩ := isCurrent_performAll hnew operations
  refine ⟨fun record => hused.compile_answer_eq hnew hrenewed id record today,
    fun r => hused.compileResume_answer_eq hnew hrenewed id r today, fun record => ?_, fun o record => ?_⟩
  · have hclear : used.library.clear = new.library.clear := congrArg Assembler.library hrenewed
    have hsetting : ({ new with library := used.library } : Assembler).renewed = new.renewed := by
      rw [renewed, hclear]
      rfl
    have hcurrent : ({ new with library := used.library } : Assembler).IsCurrent files :=
      ⟨hused.shells, nofun⟩
    exact hcurrent.compile_answer_eq hnew hsetting id record today
  · have hfollows := follows_perform used files o
    exact (hused.of_follows hfollows).compile_answer_eq hused hfollows.renewed_eq id record today

end Vitae.Assembler
