import Vitae.Proofs.Document.Placeholder
import Vitae.Proofs.Document.Unusable

/-!
# Which documents define what they introduce the person with

A body of the standard layout calls `\introduction`, which the command definitions define. Where the
definition stands is a matter of the prepared shell alone: no body brings one in, and none is lost or
comes up where a body takes the place of the placeholder (`infix_insertBody_iff`). A shell that is not the
default one is given the definitions, so its documents have the definition. The default shell is
used as it is, even when it has none of its own (`compile_defines_introduction_iff`).
-/

namespace Vitae.Layout

open Text Latex Calendar Section

/-- The beginning of the definition of the command that introduces the person. -/
def introductionDefinition : List Char := "\\newkeycommand\x7b\\introduction\x7d".toList

/-- What the definition ends with: the name of the command, but no call of it. -/
def closedName : List Char := "\\introduction\x7d".toList

/-- No name of a keyed command stands in a body without its arguments. -/
theorem closedName_not_infix_bodyText {lines exempt : List String} (h : Tidy lines exempt) :
    ¬ closedName <:+: bodyText lines := by
  rintro ⟨x, y, hxy⟩
  have hname : closedName = KeyedCommand.introduction.start ++ ['\x7d'] := by decide
  have htext : bodyText lines = x ++ (KeyedCommand.introduction.start ++ '\x7d' :: y) := by
    rw [← hxy, hname]
    simp
  obtain ⟨pairs, -, hcall⟩ := wellCalled_bodyText h .introduction (by simp [keyedCommands]) x _ htext
  rw [toList_callText] at hcall
  obtain ⟨-, hrest⟩ := List.cons_prefix_cons.mp hcall
  have hbracket := (List.prefix_append_right_inj _).mp hrest
  exact absurd (List.cons_prefix_cons.mp hbracket).1 (by decide)

/-- The definition does not come up where a body is put between two texts, nor in the body. A rest of it
that begins like a body begins with a backslash, so it is the name, and the body cannot end within that;
and no beginning of the definition ends like a body. -/
theorem definition_sealed_bodyText {layout : Layout} {r : Resume} {today : Date} {bs : List Block}
    (h : layout.blocks r today = .ok bs) (u v : List Char) :
    Sealed introductionDefinition u (bodyText bs.flatten) v := by
  have hname := closedName_not_infix_bodyText (tidy_blocks h)
  obtain ⟨hframed, hne⟩ := framed_blocks h
  obtain ⟨c, rest, hfirst, hc⟩ := exists_bodyText_cons hframed hne (tidy_blocks h)
  obtain ⟨body, d, hlast, hd⟩ := exists_bodyText_concat hframed hne
  refine sealed_of_separate (separate_of_not_begins fun w k hk hw hk' hprefix => hname ?_) ?_ ?_
  · have hrests : ∀ k ∈ introductionDefinition.tail.tails,
        k.head? ∈ ['%', '\\', '\n'].map some → k = closedName := by decide
    have hbeginnings : ∀ p ∈ closedName.inits,
        p.getLast? = some '\n' ∨ p.getLast? = some '\x7d' → p = closedName := by decide
    have hhead : k.head? = some c := by
      obtain ⟨e, k, rfl⟩ := List.exists_cons_of_ne_nil hk'
      rw [hfirst, List.cons_append] at hprefix
      rw [(List.cons_prefix_cons.mp hprefix).1]
      rfl
    obtain rfl := hrests k (mem_tails_tail hk hw) (by rw [hhead]; exact List.mem_map_of_mem hc)
    rcases List.prefix_or_prefix_of_prefix hprefix (List.prefix_append _ v) with hin | hover
    · exact hin.isInfix
    · have hends := hbeginnings _ ((List.mem_inits _ _).mpr hover)
        (by rw [hlast, List.getLast?_concat]; simpa using hd)
      rw [hends]
  · have hbeginnings : ∀ w ∈ introductionDefinition.inits,
        w.getLast? = some '\n' ∨ w.getLast? = some '\x7d' → w = introductionDefinition := by decide
    refine separate_of_not_suffix fun w k hwk hw hk hsuffix => hk ?_
    have hwlast : w.getLast? = some d := by
      rw [getLast?_of_suffix hsuffix hw, hlast, List.getLast?_concat]
    have hall := hbeginnings w ((List.mem_inits _ _).mpr ⟨k, hwk.symm⟩) (by rw [hwlast]; simpa using hd)
    rw [hall] at hwk
    simpa using hwk.symm
  · have hend : closedName <:+ introductionDefinition := by decide
    exact fun hinfix => hname (hend.isInfix.trans hinfix)

/-- Nor does it come up with a placeholder: the characters at the ends of the two do not fit. -/
theorem definition_sealed_placeholder (u v : List Char) :
    Sealed introductionDefinition u placeholder.toList v := by
  have hbraces : placeholder.toList = "\x7b\x7b".toList ++ "TEMPLATE_CONTENT\x7d\x7d".toList := by decide
  have hrests : ∀ k ∈ introductionDefinition.tail.tails, k ≠ [] → ¬ k.take 2 <+: "\x7b\x7b".toList := by decide
  have hbeginnings : ∀ w ∈ introductionDefinition.inits, w <:+ placeholder.toList → w = [] := by decide
  refine sealed_of_separate (separate_of_not_begins fun w k hwk hw hk hprefix => ?_)
    (separate_of_not_suffix fun w k hwk hw _ hsuffix => ?_) (by decide)
  · refine hrests k (mem_tails_tail hwk hw) hk ?_
    have htake := hprefix.take 2
    rwa [hbraces, List.append_assoc, List.take_append_of_le_length (by decide)] at htake
  · exact hw (hbeginnings w ((List.mem_inits _ _).mpr ⟨k, hwk.symm⟩) hsuffix)

end Vitae.Layout

namespace Vitae.Assembler

open Text Calendar Layout

variable {a b : Assembler} {files : Files} {shell : Shell}

/-- A document has the definition when the prepared shell has it. -/
theorem infix_insertBody_iff {id : String} {r : Resume} {today : Date} {body : String}
    (h : (a.renderBody id r today).1 = .ok body) (prepared : String) :
    introductionDefinition <:+: (insertBody prepared body).toList ↔
      introductionDefinition <:+: prepared.toList := by
  obtain ⟨bs, hbs, htext⟩ := body_eq_ok_iff.mp h
  rw [insertBody, String.toList_ofList, htext]
  exact infix_replaceFirst_iff definition_sealed_placeholder (definition_sealed_bodyText hbs)

/-- The definitions stand in a text that they are put into. -/
theorem infix_insertDefinitions (definitions source : List Char) :
    definitions <:+: insertDefinitions definitions source := by
  unfold insertDefinitions
  split
  · rename_i before after _
    exact ⟨before ++ "\\documentclass".toList ++ after.takeWhile (· ≠ '\n') ++ ['\n'],
      after.dropWhile (· ≠ '\n'), by simp⟩
  · exact ⟨[], '\n' :: source, rfl⟩

/-- The definitions are those in their file when they are known as such or not known yet. -/
theorem commandDefinitions_answer_of_current {definitions : String}
    (hread : a.library.readSource files Template.definitionsName = .ok definitions)
    (hcurrent : ∀ text ∈ a.definitions, text = definitions) :
    (a.commandDefinitions files).answer = .ok definitions := by
  cases hdefs : a.definitions with
  | none => simp only [commandDefinitions, hdefs, hread]
  | some text =>
    obtain rfl := hcurrent text hdefs
    simp only [commandDefinitions, hdefs]

/-- What a shell is prepared to has the definition when the definitions are put in or the shell has it
itself. -/
theorem exists_prepare_defines (shell : Shell) {definitions : String}
    (hdefs : (a.commandDefinitions files).answer = .ok definitions)
    (hdefines : introductionDefinition <:+: definitions.toList) :
    ∃ prepared, (a.prepare files shell).answer = .ok prepared ∧
      (introductionDefinition <:+: prepared.toList ↔
        shell.id ≠ a.library.defaultId ∨ introductionDefinition <:+: shell.source.toList) := by
  by_cases hid : shell.id = a.library.defaultId
  · refine ⟨shell.source, by rw [prepare, if_pos hid], ?_⟩
    simp [hid]
  · have hne : definitions ≠ "" := by
      rintro rfl
      exact absurd hdefines (by decide)
    refine ⟨_, prepare_eq_insertDefinitions hid hdefs hne, iff_of_true ?_ (.inl hid)⟩
    rw [String.toList_ofList]
    exact hdefines.trans (infix_insertDefinitions _ _)

/-- **Which documents define the introduction.** Let the shell for a template be loaded, its body be
drawn, and the definitions be read from their file, where they define the command that introduces the
person. Then there is a document, whether the résumé is given as such or as a record, and it has the
definition exactly when the shell is not the default one or has the definition itself. -/
theorem compile_defines_introduction_iff (a : Assembler) (files : Files) (id : String) (r : Resume)
    (today : Date) (shell : Shell) (definitions : String)
    (hshell : (a.library.load files id).answer = .ok shell)
    (hjudged : (a.layoutFor id).IsJudged r today)
    (hread : a.library.readSource files Template.definitionsName = .ok definitions)
    (hcurrent : ∀ text ∈ a.definitions, text = definitions)
    (hdefines : introductionDefinition <:+: definitions.toList) :
    ∃ document, (∀ out, a.Answers files id r today out → out.answer = .ok document) ∧
      (introductionDefinition <:+: document.toList ↔
        shell.id ≠ a.library.defaultId ∨ introductionDefinition <:+: shell.source.toList) := by
  obtain ⟨-, body, -, hbody, -⟩ := exists_renderBody hjudged
  have hdefs := commandDefinitions_answer_of_current hread hcurrent
  obtain ⟨prepared, hprepared, hiff⟩ := exists_prepare_defines shell hdefs hdefines
  refine ⟨insertBody prepared body, fun out hout => ?_, (infix_insertBody_iff hbody prepared).trans hiff⟩
  obtain ⟨b, log, hknown, hsettings, rfl⟩ := hout.prepare hshell hbody
  have hsame : (b.prepare files shell).answer = (a.prepare files shell).answer :=
    prepare_answer_congr files shell hsettings hknown
  rw [hsame, hprepared]
  rfl

/-- A templates directory with the shell of one template, which is its placeholder, and with
definitions. -/
def definingFiles : Files :=
  { root := .dir [bareTemplate, ("structure", .dir [("command_definitions.tex",
      .file "\\newkeycommand\x7b\\introduction\x7d[fullname]\x7b\x7d".toUTF8)])] }

theorem compile_defines_introduction_iff_definingFiles :
    ∃ document, (bareAssembler.compileResume definingFiles "template02" graduate newYear).answer = .ok document ∧
      introductionDefinition <:+: document.toList := by
  obtain ⟨document, hanswer, hiff⟩ :=
    compile_defines_introduction_iff bareAssembler definingFiles "template02" graduate newYear bareShell
      "\\newkeycommand\x7b\\introduction\x7d[fullname]\x7b\x7d" (by decide) isJudged_bare (by decide)
      (by decide) (by decide)
  exact ⟨document, hanswer _ .resume, hiff.mpr (.inl (by decide))⟩

/-- The assembler whose default template is the one in the directory. -/
def bareDefaultAssembler : Assembler := fresh {} "template02" [("basic_sa", .regional)] .standard

/-- As the default shell it is used as it is, without the definition. -/
theorem compile_bareDefault :
    bareDefaultAssembler.library.readSource definingFiles Template.definitionsName =
        .ok "\\newkeycommand\x7b\\introduction\x7d[fullname]\x7b\x7d" ∧
      (bareDefaultAssembler.library.load definingFiles "template02").answer = .ok bareShell ∧
      bareShell.hasPlaceholder ∧ bareDefaultAssembler.layoutFor "template02" = .standard ∧
      ∃ document,
        (bareDefaultAssembler.compileResume definingFiles "template02" graduate newYear).answer = .ok document ∧
          ¬ introductionDefinition <:+: document.toList := by
  have hload : (bareDefaultAssembler.library.load definingFiles "template02").answer = .ok bareShell := by decide
  have hlayout : bareDefaultAssembler.layoutFor "template02" = .standard := by decide
  have hjudged : (bareDefaultAssembler.layoutFor "template02").IsJudged graduate newYear := by
    rw [hlayout]
    exact isJudged_graduate
  obtain ⟨-, body, -, hbody, -⟩ := exists_renderBody hjudged
  have hdraw : (bareDefaultAssembler.layoutFor "template02").body graduate newYear = .ok body := hbody
  have hprepare : (bareDefaultAssembler.prepare definingFiles bareShell).answer = .ok placeholder := by decide
  refine ⟨by decide, hload, by decide, hlayout, insertBody placeholder body, ?_, ?_⟩
  · rw [compileResume_answer, hload, hdraw]
    simp only [assemble, hprepare]
    rfl
  · rw [infix_insertBody_iff hbody]
    decide

end Vitae.Assembler
