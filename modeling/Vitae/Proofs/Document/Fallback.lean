import Vitae.Proofs.Document.Rendering
import Vitae.Proofs.Template.Library

/-!
# Documents of templates without a shell

For a template whose shell is missing the default shell is taken, while the layout of the
body stays that of the template that was asked for. So the document is that of the default
template under this layout, and it is that of the default template itself, for all
records, exactly when the two layouts are the same or there is no default shell either
(`compile_of_isMissing`).
-/

namespace Vitae.Assembler

open Text Calendar Section Layout

/-! ### What a document is made of -/

/-- The document that is made of a loaded shell and a body. -/
def assemble (a : Assembler) (files : Files) (loaded : Except LoadError Shell)
    (body : Except Layout.Failure String) : Except DocumentError String :=
  match loaded, body with
  | .error e, _ => .error (.shell e)
  | .ok _, .error e => .error (.body e)
  | .ok shell, .ok text => (a.prepare files shell).answer.map fun source => insertBody source text

variable {a b : Assembler} {files : Files} {id : String}

/-- The definitions depend on the setting of the library, not on the shells that it keeps. -/
theorem commandDefinitions_answer_congr (files : Files)
    (hlib : a.library.settings = b.library.settings)
    (hdefs : a.definitions = b.definitions) :
    (a.commandDefinitions files).answer = (b.commandDefinitions files).answer := by
  have hroot : a.library.root = b.library.root := congrArg Prod.fst hlib
  unfold commandDefinitions Library.readSource
  rw [hroot, hdefs]
  split
  · rfl
  · split <;> rfl

/-- A prepared shell depends on the setting of the library and on the definitions. -/
theorem prepare_answer_of_definitions (shell : Shell) (hlib : a.library.settings = b.library.settings)
    (hanswer : (a.commandDefinitions files).answer = (b.commandDefinitions files).answer) :
    (a.prepare files shell).answer = (b.prepare files shell).answer := by
  have hdefault : a.library.defaultId = b.library.defaultId := congrArg Prod.snd hlib
  unfold prepare
  rw [hdefault]
  split
  · rfl
  · cases ha : a.commandDefinitions files with
    | mk answer a' log =>
      cases hb : b.commandDefinitions files with
      | mk answer' b' log' =>
        rw [ha, hb] at hanswer
        have hanswer : answer = answer' := hanswer
        subst hanswer
        cases answer with
        | error e => rfl
        | ok definitions => simp only; split <;> rfl

theorem prepare_answer_congr (files : Files) (shell : Shell)
    (hlib : a.library.settings = b.library.settings) (hdefs : a.definitions = b.definitions) :
    (a.prepare files shell).answer = (b.prepare files shell).answer :=
  prepare_answer_of_definitions shell hlib (commandDefinitions_answer_congr files hlib hdefs)

/-- A document is made of the shell that is loaded and the body that the layout of the template draws. -/
theorem compileResume_answer (r : Resume) (today : Date) :
    (a.compileResume files id r today).answer =
      a.assemble files (a.library.load files id).answer ((a.layoutFor id).body r today) := by
  have hsettings := Library.load_settings a.library files id
  unfold compileResume loadShell
  cases hload : a.library.load files id with
  | mk answer lib log =>
    rw [hload] at hsettings
    have hsettings : lib.settings = a.library.settings := hsettings
    cases answer with
    | error e => rfl
    | ok shell =>
      have hlayout : ({ a with library := lib } : Assembler).layoutFor id = a.layoutFor id := rfl
      simp only [renderBody, hlayout]
      cases hbody : (a.layoutFor id).body r today with
      | error e => rfl
      | ok text =>
        have hprepare : (({ a with library := lib } : Assembler).prepare files shell).answer =
            (a.prepare files shell).answer := prepare_answer_congr files shell hsettings rfl
        simp only [assemble, ← hprepare]
        cases hout : ({ a with library := lib } : Assembler).prepare files shell with
        | mk answer' a' log' => cases answer' <;> rfl

/-- A record that is read makes the document of its résumé; one that is not makes none. -/
theorem compile_answer (record : Datum) (today : Date) :
    (a.compile files id record today).answer =
      match (Resume.ofRecord record).1 with
      | .error e => .error (.record e)
      | .ok r => a.assemble files (a.library.load files id).answer ((a.layoutFor id).body r today) := by
  unfold compile
  rcases Resume.ofRecord record with ⟨e | r, log⟩
  · rfl
  · exact compileResume_answer r today

/-! ### A record that tells the layouts apart -/

/-- The end of a study in a year that no calendar field can hold. -/
def overflowingDate : Option DateValue := some (.text "1/9999999999")

/-- A record with such a study. -/
def overflowing : Datum :=
  .map [(.text "education", .list [.map [(.text "graduation_date", .text "1/9999999999")]])]

theorem not_isJudged_of_overflowing {r : Resume} (today : Date)
    (hr : r.studies = [{ graduationDate := overflowingDate }]) : ¬ IsJudged .standard r today := by
  have hshown : firstShown [overflowingDate, none] = overflowingDate := by decide
  have hreading : overflowingDate.map DateValue.reading = some .tooLarge := by decide
  intro h
  obtain ⟨later, hlater⟩ := h _ (by rw [hr]; exact List.mem_singleton.mpr rfl)
  rw [hshown, isFuture, hreading] at hlater
  exact absurd hlater (by simp)

/-- No two layouts answer alike for it: the standard one cannot judge the date, the regional one does
not ask, and the undefined one draws nothing. -/
theorem body_overflowing (today : Date) :
    ∃ r log, Resume.ofRecord overflowing = (.ok r, log) ∧
      Layout.standard.body r today = .error (.date .monthOfYear) ∧
      (∃ text, Layout.regional.body r today = .ok text) ∧
      Layout.undefined.body r today = .error .undefined := by
  refine ⟨_, _, rfl, ?_, ⟨_, rfl⟩, rfl⟩
  have hstudies : (Resume.ofFields (Fields.ofPairs
      [(.text "education", .list [.map [(.text "graduation_date", .text "1/9999999999")]])])).studies =
      [{ graduationDate := overflowingDate }] := by decide
  have hnot := not_isJudged_of_overflowing today hstudies
  rw [← exists_standardBlocks_iff] at hnot
  rw [Layout.body, Layout.blocks]
  cases hblocks : standardBlocks _ today with
  | ok bs => exact absurd ⟨bs, hblocks⟩ hnot
  | error e => cases e; rfl

/-! ### The default shell under the layout that was asked for -/

/-- The assembler under which the default template has the layout of the given one. -/
def withDefaultLayoutOf (a : Assembler) (id : String) : Assembler :=
  { a with layouts := (a.library.defaultId, a.layoutFor id) :: a.layouts }

theorem layoutFor_withDefaultLayoutOf :
    (a.withDefaultLayoutOf id).layoutFor a.library.defaultId = a.layoutFor id := by
  simp [withDefaultLayoutOf, layoutFor]

theorem assemble_withDefaultLayoutOf (loaded : Except LoadError Shell)
    (body : Except Layout.Failure String) :
    (a.withDefaultLayoutOf id).assemble files loaded body = a.assemble files loaded body := by
  cases loaded with
  | error e => rfl
  | ok shell =>
    cases body with
    | error e => rfl
    | ok text =>
      have hprepare : ((a.withDefaultLayoutOf id).prepare files shell).answer =
          (a.prepare files shell).answer := prepare_answer_congr files shell rfl rfl
      simp only [assemble, hprepare]

theorem eq_definitions_of_commandDefinitions {e : DocumentError}
    (h : (a.commandDefinitions files).answer = .error e) : e = .definitions := by
  unfold commandDefinitions at h
  split at h
  · exact absurd h (by simp)
  · split at h
    · exact absurd h (by simp)
    · exact absurd h (by simp)
    · exact (Except.error.inj h).symm

/-- A shell is prepared unless the definitions are no text. -/
theorem eq_definitions_of_prepare {shell : Shell} {e : DocumentError}
    (h : (a.prepare files shell).answer = .error e) : e = .definitions := by
  unfold prepare at h
  split at h
  · exact absurd h (by simp)
  · cases hdefs : a.commandDefinitions files with
    | mk answer a' log =>
      rw [hdefs] at h
      cases answer with
      | ok definitions =>
        simp only at h
        split at h <;> exact absurd h (by simp)
      | error cause =>
        have hcause : cause = e := Except.error.inj h
        rw [← hcause]
        exact eq_definitions_of_commandDefinitions (by rw [hdefs])

/-- A body that is there leads to no error about bodies. -/
theorem assemble_ne_bodyError (shell : Shell) (text : String) (e : Layout.Failure) :
    a.assemble files (.ok shell) (.ok text) ≠ .error (.body e) := by
  intro h
  cases hprepare : (a.prepare files shell).answer with
  | ok source => simp only [assemble, hprepare, Except.map, reduceCtorEq] at h
  | error cause =>
    rw [eq_definitions_of_prepare hprepare] at hprepare
    simp only [assemble, hprepare, Except.map, Except.error.injEq, reduceCtorEq] at h

/-- Layouts under which a loaded shell yields the same for the record that tells them apart. -/
theorem layout_eq_of_assemble_eq {shell : Shell} {r : Resume} {today : Date} {l m : Layout}
    (hstandard : Layout.standard.body r today = .error (.date .monthOfYear))
    (hregional : ∃ text, Layout.regional.body r today = .ok text)
    (hundefined : Layout.undefined.body r today = .error .undefined)
    (h : a.assemble files (.ok shell) (l.body r today) = a.assemble files (.ok shell) (m.body r today)) :
    l = m := by
  obtain ⟨text, htext⟩ := hregional
  have hne : ∀ e, a.assemble files (.ok shell) (.ok text) ≠ .error (.body e) :=
    assemble_ne_bodyError shell text
  have hbody : ∀ e, a.assemble files (.ok shell) (.error e) = .error (.body e) := fun _ => rfl
  cases l <;> cases m <;> simp only [hstandard, htext, hundefined, hbody] at h <;> first
    | rfl
    | exact absurd h (hne _)
    | exact absurd h.symm (hne _)
    | exact absurd h (by simp)

/-- Only a template with the same layout has the documents of the default one, if this has a shell. -/
theorem layout_eq_or_isMissing (h : a.library.IsMissing files id)
    (hall : ∀ record today, (a.compile files id record today).answer =
      (a.compile files a.library.defaultId record today).answer) :
    a.layoutFor id = a.layoutFor a.library.defaultId ∨ a.library.IsMissing files a.library.defaultId := by
  by_contra hnot
  rw [not_or, Library.isMissing_iff] at hnot
  obtain ⟨hlayout, hloads⟩ := hnot
  obtain ⟨r, log, hrecord, hstandard, hregional, hundefined⟩ := body_overflowing newYear
  have hload := Library.load_answer_of_isMissing h
  have hdefault := Library.load_default_answer a.library files
  cases hown : (a.library.loadOwn files a.library.defaultId).answer with
  | error failure => exact hloads ⟨failure, hown⟩
  | ok shell =>
    have hcompile := hall overflowing newYear
    rw [hown] at hdefault
    rw [compile_answer, compile_answer, hrecord, hload, hdefault] at hcompile
    exact hlayout (layout_eq_of_assemble_eq hstandard hregional hundefined hcompile)

/-- **Templates without a shell.** The document is that of the default template under the layout that
was asked for. It is that of the default template itself, for all records and days, exactly when this
layout is the same or the default shell is missing, too. -/
theorem compile_of_isMissing (a : Assembler) (files : Files) (id : String)
    (h : a.library.IsMissing files id) :
    (∀ record today, (a.compile files id record today).answer =
      ((a.withDefaultLayoutOf id).compile files a.library.defaultId record today).answer) ∧
    ((∀ record today, (a.compile files id record today).answer =
        (a.compile files a.library.defaultId record today).answer) ↔
      a.layoutFor id = a.layoutFor a.library.defaultId ∨
        a.library.IsMissing files a.library.defaultId) := by
  have hload := Library.load_answer_of_isMissing h
  have hdefault := Library.load_default_answer a.library files
  refine ⟨fun record today => ?_, fun hall => ?_, fun hsame record today => ?_⟩
  · have hlibrary : (a.withDefaultLayoutOf id).library = a.library := rfl
    rw [compile_answer, compile_answer, hlibrary, hload, layoutFor_withDefaultLayoutOf]
    simp only [assemble_withDefaultLayoutOf]
  · exact layout_eq_or_isMissing h hall
  · rw [compile_answer, compile_answer, hload]
    rcases hsame with hlayout | hmissing
    · rw [hlayout]
    · obtain ⟨failure, hfailure⟩ := Library.isMissing_iff.mp hmissing
      rw [hdefault, hfailure]
      rfl

/-- A templates directory with a shell for the usual default template only. -/
def oneTemplate : Files :=
  { root := .dir [("template01", .dir [("template01-standardized.tex", .file placeholder.toUTF8)])] }

/-- An assembler over this directory. -/
def oneTemplateAssembler : Assembler := { library := { root := {}, defaultId := "template01" } }

theorem isMissing_regional : oneTemplateAssembler.library.IsMissing oneTemplate "basic_sa" :=
  ⟨rfl, .notFound, by decide⟩

theorem compile_of_isMissing_regional :
    oneTemplateAssembler.library.IsMissing oneTemplate "basic_sa" ∧
      ∀ record today, (oneTemplateAssembler.compile oneTemplate "basic_sa" record today).answer =
        ((oneTemplateAssembler.withDefaultLayoutOf "basic_sa").compile oneTemplate "template01" record
          today).answer :=
  ⟨isMissing_regional,
    (compile_of_isMissing oneTemplateAssembler oneTemplate "basic_sa" isMissing_regional).1⟩

/-- The two documents are not the same: one of them is no document at all. -/
theorem compile_regional_ne_default :
    oneTemplateAssembler.library.IsMissing oneTemplate "basic_sa" ∧
      (oneTemplateAssembler.compile oneTemplate "basic_sa" overflowing newYear).answer ≠
        (oneTemplateAssembler.compile oneTemplate "template01" overflowing newYear).answer := by
  refine ⟨isMissing_regional, fun h => ?_⟩
  obtain ⟨r, log, hrecord, hstandard, hregional, hundefined⟩ := body_overflowing newYear
  obtain ⟨shell, hown⟩ : ∃ shell,
      (oneTemplateAssembler.library.loadOwn oneTemplate "template01").answer = .ok shell :=
    ⟨⟨"template01", placeholder, { segments := ["template01", "template01-standardized.tex"] }⟩,
      by decide⟩
  have hdefault : (oneTemplateAssembler.library.load oneTemplate "template01").answer = .ok shell :=
    (Library.load_default_answer _ _).trans (congrArg (Except.mapError _) hown)
  have hload : (oneTemplateAssembler.library.load oneTemplate "basic_sa").answer = .ok shell :=
    (Library.load_answer_of_isMissing isMissing_regional).trans hdefault
  rw [compile_answer, compile_answer, hrecord, hload, hdefault] at h
  have hlayout := layout_eq_of_assemble_eq hstandard hregional hundefined h
  exact absurd hlayout (by decide)

end Vitae.Assembler
