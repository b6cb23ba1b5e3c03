import Vitae.Proofs.Document.Definitions
import Vitae.Proofs.Document.Unusable

/-!
# Sessions while files come, change and go

In a session an assembler is asked for things while the files below it change. What it keeps of shells it
has read at some step (`keeps_shell_read`), so it answers as a new one does as long as no file that was
read has changed. With the definitions it is otherwise: once they were looked for while their file was
missing, they stay empty, whatever their file holds later (`session_remembers_missed_definitions`).
-/

namespace Vitae.Assembler

open Text Calendar

/-- What happens in a session. -/
inductive Event where
  /-- Something is asked of the assembler. -/
  | perform (o : Operation)
  /-- Files come, change or go; these are there from then on. -/
  | change (files : Files)

/-- An assembler and the files below it. -/
structure Session where
  /-- The assembler. -/
  assembler : Assembler
  /-- The files. -/
  files : Files

namespace Session

/-- What an event makes of a session. -/
def next (s : Session) : Event → Session
  | .perform o => { s with assembler := s.assembler.perform s.files o }
  | .change files => { s with files }

/-- What events make of a session, one after the other. -/
def after (s : Session) (events : List Event) : Session := events.foldl next s

/-- At some step of a session something is asked of which `p` holds. -/
inductive Sometime (p : Session → Operation → Prop) : Session → List Event → Prop where
  /-- At the first step. -/
  | now {s : Session} {o : Operation} {events : List Event} : p s o → Sometime p s (.perform o :: events)
  /-- At a later step. -/
  | later {s : Session} {e : Event} {events : List Event} : Sometime p (s.next e) events → Sometime p s (e :: events)

/-- The text of the definitions file. -/
def definitionsSource (s : Session) : Except Template.ReadFailure String :=
  s.assembler.library.readSource s.files Template.definitionsName

/-- A shell is read: it is kept afterwards, and was not before. -/
def ReadsShell (shell : Shell) (s : Session) (o : Operation) : Prop :=
  s.assembler.library.cached? shell.id ≠ some shell ∧
    (s.next (.perform o)).assembler.library.cached? shell.id = some shell

/-- The definitions are read: they are known afterwards as their file holds them, and were not before. -/
def ReadsDefinitions (text : String) (s : Session) (o : Operation) : Prop :=
  s.assembler.definitions = none ∧ (s.next (.perform o)).assembler.definitions = some text ∧
    s.definitionsSource = .ok text

/-- The definitions are missed: they are looked for, and there is no such file. -/
def MissesDefinitions (s : Session) (o : Operation) : Prop :=
  s.assembler.definitions = none ∧ (s.next (.perform o)).assembler.definitions ≠ none ∧
    s.definitionsSource = .error .notFound

/-- No file that was read in a session has changed since. -/
structure IsSteady (s : Session) (events : List Event) : Prop where
  /-- A shell that was read is in its file. -/
  shells : ∀ shell, Sometime (ReadsShell shell) s events →
    (s.after events).assembler.library.InFile (s.after events).files shell
  /-- So are the definitions. -/
  definitions : ∀ text, Sometime (ReadsDefinitions text) s events → (s.after events).definitionsSource = .ok text

variable {s : Session} {events : List Event}

theorem renewed_next (s : Session) (e : Event) : (s.next e).assembler.renewed = s.assembler.renewed := by
  cases e with
  | perform o => exact (follows_perform s.assembler s.files o).renewed_eq
  | change files => rfl

theorem renewed_after (s : Session) (events : List Event) :
    (s.after events).assembler.renewed = s.assembler.renewed := by
  induction events generalizing s with
  | nil => rfl
  | cons e events ih => exact (ih (s.next e)).trans (renewed_next s e)

/-- A shell that is kept after a session was kept before it, or was read at some step. -/
theorem keeps_shell_read {k : String} {shell : Shell}
    (h : (s.after events).assembler.library.cached? k = some shell) :
    s.assembler.library.cached? k = some shell ∨ shell.id = k ∧ Sometime (ReadsShell shell) s events := by
  induction events generalizing s with
  | nil => exact .inl h
  | cons e events ih =>
    rcases ih h with hnext | ⟨hid, hread⟩
    · cases e with
      | change files => exact .inl hnext
      | perform o =>
        by_cases hkept : s.assembler.library.cached? k = some shell
        · exact .inl hkept
        · rcases (follows_perform s.assembler s.files o).shells k shell hnext with hkept' | ⟨rfl, -⟩
          · exact absurd hkept' hkept
          · exact .inr ⟨rfl, .now ⟨hkept, hnext⟩⟩
    · exact .inr ⟨hid, .later hread⟩

/-- Definitions that are known stay as they are. -/
theorem definitions_after {text : String} (h : s.assembler.definitions = some text) :
    (s.after events).assembler.definitions = some text := by
  induction events generalizing s with
  | nil => exact h
  | cons e events ih =>
    refine ih ?_
    cases e with
    | change files => exact h
    | perform o =>
      rcases (follows_perform s.assembler s.files o).definitions with hsame | ⟨hnone, -⟩
      · exact hsame.trans h
      · rw [h] at hnone
        cases hnone

/-- Definitions that are known after a session were known before it, were read at some step, or are empty
and were missed at some step. -/
theorem keeps_definitions_read {text : String} (h : (s.after events).assembler.definitions = some text) :
    s.assembler.definitions = some text ∨ Sometime (ReadsDefinitions text) s events ∨
      text = "" ∧ Sometime MissesDefinitions s events := by
  induction events generalizing s with
  | nil => exact .inl h
  | cons e events ih =>
    rcases ih h with hnext | hread | ⟨hempty, hmissed⟩
    · cases e with
      | change files => exact .inl hnext
      | perform o =>
        rcases (follows_perform s.assembler s.files o).definitions with hsame | ⟨hnone, found, hfound, hread⟩
        · exact .inl (hsame.symm.trans hnext)
        · obtain rfl : found = text := Option.some.inj (hfound.symm.trans hnext)
          rcases hread with hread | ⟨hmissing, hempty⟩
          · exact .inr (.inl (.now ⟨hnone, hnext, hread⟩))
          · exact .inr (.inr ⟨hempty, .now ⟨hnone, by rw [hnext]; exact nofun, hmissing⟩⟩)
    · exact .inr (.inl (.later hread))
    · exact .inr (.inr ⟨hempty, .later hmissed⟩)

/-- Definitions that were missed at some step are empty from then on. -/
theorem definitions_of_missed (h : Sometime MissesDefinitions s events) :
    (s.after events).assembler.definitions = some "" := by
  induction h with
  | @now s o events hmisses =>
    obtain ⟨hnone, hlooked, hmissing⟩ := hmisses
    rcases (follows_perform s.assembler s.files o).definitions with hsame | ⟨-, text, htext, hread⟩
    · exact absurd (hsame.trans hnone) hlooked
    · rcases hread with hread | ⟨-, rfl⟩
      · rw [definitionsSource, hread] at hmissing
        cases hmissing
      · exact definitions_after (s := s.next (.perform o)) htext
  | later _ ih => exact ih

/-! ### Sessions in which nothing that was read has changed -/

/-- What is kept of shells is what the files hold. -/
theorem IsSteady.isCurrent (h : IsSteady s events) (hcache : s.assembler.library.cache = []) :
    (s.after events).assembler.library.IsCurrent (s.after events).files := by
  intro k shell hk
  rcases keeps_shell_read hk with hkept | ⟨hid, hread⟩
  · rw [Library.cached?, hcache] at hkept
    cases hkept
  · exact ⟨hid, h.shells shell hread⟩

/-- What is known of the definitions is what a new assembler finds, unless they were missed. -/
theorem IsSteady.definitions_eq (h : IsSteady s events) (hdefs : s.assembler.definitions = none)
    (hnot : ¬ Sometime MissesDefinitions s events) :
    ((s.after events).assembler.commandDefinitions (s.after events).files).answer =
      ((s.after events).assembler.renewed.commandDefinitions (s.after events).files).answer := by
  cases hknown : (s.after events).assembler.definitions with
  | none => exact commandDefinitions_answer_congr _ rfl hknown
  | some text =>
    rcases keeps_definitions_read hknown with hstart | hread | ⟨-, hmissed⟩
    · rw [hdefs] at hstart
      cases hstart
    · have hfound := commandDefinitions_answer_of_read (a := (s.after events).assembler.renewed) rfl
        (.inl (h.definitions text hread))
      rw [hfound, commandDefinitions, hknown]
    · exact absurd hmissed hnot

/-- Definitions that were missed are answered as if there were none. -/
theorem commandDefinitions_of_missed (h : Sometime MissesDefinitions s events) :
    ((s.after events).assembler.commandDefinitions (s.after events).files).answer = .ok "" := by
  rw [commandDefinitions, definitions_of_missed h]

/-- So a shell is prepared to its own text. -/
theorem prepare_of_missed (h : Sometime MissesDefinitions s events) (shell : Shell) :
    ((s.after events).assembler.prepare (s.after events).files shell).answer = .ok shell.source := by
  rw [prepare]
  split
  · rfl
  · rw [commandDefinitions, definitions_of_missed h]
    simp only [if_true]

end Session

open Session

/-- **What a session remembers.** After a session in which no file that was read has changed, each shell
is loaded as a new assembler loads it: a shell that could not be read at some step is read now. The
definitions are those that a new assembler finds exactly when no step missed them, or there are none to be
found; then each document is the one that a new assembler makes. Once a step has missed them, each shell is
taken as it is, while a new assembler puts the definitions in that their file holds by now. -/
theorem session_remembers_missed_definitions (root : Path) (defaultId : String)
    (layouts : List (String × Layout)) (defaultLayout : Layout) (files : Files) (events : List Event)
    (h : IsSteady ⟨fresh root defaultId layouts defaultLayout, files⟩ events) :
    let new := fresh root defaultId layouts defaultLayout
    let start : Session := ⟨new, files⟩
    let s := start.after events
    (∀ id, (s.assembler.library.load s.files id).answer = (new.library.load s.files id).answer) ∧
    ((s.assembler.commandDefinitions s.files).answer = (new.commandDefinitions s.files).answer ↔
      ¬ Sometime MissesDefinitions start events ∨ (new.commandDefinitions s.files).answer = .ok "") ∧
    ((s.assembler.commandDefinitions s.files).answer = (new.commandDefinitions s.files).answer →
      ∀ id record today, (s.assembler.compile s.files id record today).answer =
        (new.compile s.files id record today).answer) ∧
    (Sometime MissesDefinitions start events → ∀ (shell : Shell) (definitions : String),
      shell.id ≠ defaultId → s.definitionsSource = .ok definitions → definitions ≠ "" →
      (s.assembler.prepare s.files shell).answer = .ok shell.source ∧
      (new.prepare s.files shell).answer =
        .ok (String.ofList (insertDefinitions definitions.toList shell.source.toList))) := by
  intro new start s
  have hnew : s.assembler.renewed = new := renewed_after start events
  have hcurrent : s.assembler.library.IsCurrent s.files := h.isCurrent rfl
  refine ⟨fun id => ?_, ⟨fun hanswer => ?_, ?_⟩, fun hanswer id record today => ?_,
    fun hmissed shell definitions hid hsource hne => ⟨prepare_of_missed hmissed shell, ?_⟩⟩
  · rw [← Library.load_answer_clear hcurrent, ← hnew]
    rfl
  · by_cases hmissed : Sometime MissesDefinitions start events
    · exact .inr (hanswer.symm.trans (commandDefinitions_of_missed hmissed))
    · exact .inl hmissed
  · intro hor
    by_cases hmissed : Sometime MissesDefinitions start events
    · rcases hor with hnot | hempty
      · exact absurd hmissed hnot
      · exact (commandDefinitions_of_missed hmissed).trans hempty.symm
    · rw [← hnew]
      exact h.definitions_eq rfl hmissed
  · rw [← hnew] at hanswer ⊢
    exact (compile_answer_of_definitions hcurrent hanswer.symm id record today).symm
  · have hfound : (new.commandDefinitions s.files).answer = .ok definitions := by
      rw [← hnew]
      exact commandDefinitions_answer_of_read rfl (.inl hsource)
    exact prepare_eq_insertDefinitions hid hfound hne

/-! ### A file that comes late -/

/-- The definitions that come. -/
def lateText : String := "\\usepackage\x7bkeycommand\x7d"

/-- The directory with their file. -/
def lateFiles : Files :=
  { root := .dir [bareTemplate, ("structure", .dir [("command_definitions.tex", .file lateText.toUTF8)])] }

/-- A session that begins without definitions. -/
def lateStart : Session := ⟨bareAssembler, bareFiles⟩

/-- The shell is read and the definitions are looked for, and then their file comes. -/
def lateEvents : List Event := [.perform (.load "template02"), .perform .definitions, .change lateFiles]

theorem not_sometime_change (p : Session → Operation → Prop) (s : Session) (files : Files) :
    ¬ Sometime p s [.change files] := by
  intro h
  cases h with
  | later h => cases h

theorem isSteady_late : IsSteady lateStart lateEvents where
  shells := by
    have hroot : (lateStart.after lateEvents).assembler.library.root = {} := by decide
    have hkept : (lateStart.next (.perform (.load "template02"))).assembler.library =
        lateStart.assembler.library.keep bareShell := by decide
    have hsame : ((lateStart.next (.perform (.load "template02"))).next (.perform .definitions)).assembler.library =
        lateStart.assembler.library.keep bareShell := by decide
    intro shell hread
    have hshell : shell = bareShell := by
      cases hread with
      | now h =>
        have hfound := h.2
        rw [hkept] at hfound
        by_cases hid : shell.id = bareShell.id
        · rw [hid, Library.cached?_keep_self] at hfound
          exact (Option.some.inj hfound).symm
        · rw [Library.cached?_keep_of_ne _ hid] at hfound
          cases hfound
      | later hread =>
        cases hread with
        | now h =>
          obtain ⟨hnot, hfound⟩ := h
          rw [hsame] at hfound
          rw [hkept] at hnot
          exact absurd hfound hnot
        | later hread => exact absurd hread (not_sometime_change _ _ lateFiles)
    rw [hshell]
    show Template.readFile lateFiles _ "template02/template02-standardized.tex" = _
    rw [hroot]
    decide
  definitions := by
    have hload : (lateStart.next (.perform (.load "template02"))).assembler.definitions = none := by decide
    have hsource : (lateStart.next (.perform (.load "template02"))).definitionsSource = .error .notFound := by decide
    intro text hread
    cases hread with
    | now h =>
      have hfound := h.2.1
      rw [hload] at hfound
      cases hfound
    | later hread =>
      cases hread with
      | now h =>
        have hfound := h.2.2
        rw [hsource] at hfound
        cases hfound
      | later hread => exact absurd hread (not_sometime_change _ _ lateFiles)

theorem missed_late : Sometime MissesDefinitions lateStart lateEvents :=
  .later (.now ⟨by decide, by decide, by decide⟩)

theorem session_remembers_missed_definitions_late :
    let s := lateStart.after lateEvents
    IsSteady lateStart lateEvents ∧ (s.assembler.prepare s.files bareShell).answer = .ok placeholder ∧
      (lateStart.assembler.prepare s.files bareShell).answer = .ok (lateText ++ "\n" ++ placeholder) := by
  obtain ⟨-, -, -, hmissed⟩ := session_remembers_missed_definitions {} "template01" [("basic_sa", .regional)]
    .standard bareFiles lateEvents isSteady_late
  obtain ⟨hkept, hnew⟩ := hmissed missed_late bareShell lateText (by decide) (by decide) (by decide)
  have htext : String.ofList (insertDefinitions lateText.toList bareShell.source.toList) =
      lateText ++ "\n" ++ placeholder := by decide
  exact ⟨isSteady_late, hkept, hnew.trans (congrArg Except.ok htext)⟩

/-- So the session and a new assembler make different documents of the same record: the body stands alone
in one of them, and behind the definitions in the other one. -/
theorem compile_late_ne_new :
    let s := lateStart.after lateEvents
    IsSteady lateStart lateEvents ∧ (s.assembler.compile s.files "template02" (.map []) newYear).answer ≠
      (lateStart.assembler.compile s.files "template02" (.map []) newYear).answer := by
  intro s
  refine ⟨isSteady_late, fun h => ?_⟩
  have hrecord : Resume.ofRecord (.map []) = (.ok {}, []) := rfl
  have hlayout : s.assembler.layoutFor "template02" = .standard := by decide
  have hlayout' : lateStart.assembler.layoutFor "template02" = .standard := by decide
  obtain ⟨text, htext⟩ : ∃ text, Layout.standard.body {} newYear = .ok text := ⟨_, rfl⟩
  have hload : (s.assembler.library.load s.files "template02").answer = .ok bareShell := by decide
  have hload' : (lateStart.assembler.library.load s.files "template02").answer = .ok bareShell := by decide
  have hprepare : (s.assembler.prepare s.files bareShell).answer = .ok placeholder := by decide
  have hprepare' : (lateStart.assembler.prepare s.files bareShell).answer =
      .ok (lateText ++ "\n" ++ placeholder) := by decide
  rw [compile_answer, compile_answer, hrecord] at h
  simp only [hlayout, hlayout', htext, hload, hload', assemble, hprepare, hprepare'] at h
  have hcut : breakAt? placeholder.toList placeholder.toList = some ([], []) := by decide
  have hcut' : breakAt? placeholder.toList (lateText ++ "\n" ++ placeholder).toList =
      some ((lateText ++ "\n").toList, []) := by decide
  have hdocuments : insertBody placeholder text = insertBody (lateText ++ "\n" ++ placeholder) text :=
    Except.ok.inj h
  have hdefinitions : 0 < (lateText ++ "\n").toList.length := by decide
  have hlength := congrArg (fun document => document.toList.length) hdocuments
  simp only [insertBody, replaceFirst, hcut, hcut', String.toList_ofList, List.length_append,
    List.length_nil] at hlength
  omega

end Vitae.Assembler
