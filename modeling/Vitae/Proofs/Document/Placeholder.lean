import Vitae.Proofs.Document.Definitions
import Vitae.Proofs.Document.Fallback
import Vitae.Proofs.Layout.Frame

/-!
# Documents around a body

A document is the prepared text of a shell with the body in the place of its placeholder.
Two texts are put into the source of the shell one after the other, the definitions and
the body, and neither makes a placeholder come up at its ends (`exists_insertion`,
`sealed_bodyText`). So the document is the source with these two texts in it and with
nothing else changed, and no placeholder is left (`compileResume_fills_placeholder`).
-/

namespace Vitae.Assembler

open Text Calendar Layout

variable {a : Assembler} {files : Files} {shell : Shell}

/-- What preparing puts into a shell: nothing into the default one, and into another one the
definitions, if there are any, on lines of their own. -/
inductive IsCopy (a : Assembler) (files : Files) (shell : Shell) : List Char → Prop where
  /-- The default shell stays as it is. -/
  | default : shell.id = a.library.defaultId → IsCopy a files shell []
  /-- There are no definitions. -/
  | empty : shell.id ≠ a.library.defaultId → (a.commandDefinitions files).answer = .ok "" →
      IsCopy a files shell []
  /-- They go behind the end of a line. -/
  | behind {definitions : String} : shell.id ≠ a.library.defaultId →
      (a.commandDefinitions files).answer = .ok definitions → definitions ≠ "" →
      documentclass <:+: shell.source.toList → IsCopy a files shell ('\n' :: definitions.toList)
  /-- They go in front of all. -/
  | before {definitions : String} : shell.id ≠ a.library.defaultId →
      (a.commandDefinitions files).answer = .ok definitions → definitions ≠ "" →
      ¬ documentclass <:+: shell.source.toList → IsCopy a files shell (definitions.toList ++ ['\n'])

/-- The text that a shell is prepared to. -/
theorem prepare_cases {prepared : String} (h : (a.prepare files shell).answer = .ok prepared) :
    prepared = shell.source ∧ IsCopy a files shell [] ∨
      ∃ definitions, shell.id ≠ a.library.defaultId ∧ (a.commandDefinitions files).answer = .ok definitions ∧
        definitions ≠ "" ∧ prepared.toList = insertDefinitions definitions.toList shell.source.toList := by
  by_cases hid : shell.id = a.library.defaultId
  · rw [prepare, if_pos hid] at h
    exact .inl ⟨(Except.ok.inj h).symm, .default hid⟩
  · cases hdefs : (a.commandDefinitions files).answer with
    | error e =>
      rw [prepare, if_neg hid] at h
      cases hout : a.commandDefinitions files with
      | mk answer state log =>
        rw [hout] at h hdefs
        obtain rfl : answer = .error e := hdefs
        cases h
    | ok definitions =>
      by_cases hne : definitions = ""
      · subst hne
        refine .inl ⟨?_, .empty hid hdefs⟩
        rw [prepare, if_neg hid] at h
        cases hout : a.commandDefinitions files with
        | mk answer state log =>
          rw [hout] at h hdefs
          obtain rfl : answer = .ok "" := hdefs
          exact (Except.ok.inj h).symm
      · rw [prepare_eq_insertDefinitions hid hdefs hne] at h
        refine .inr ⟨definitions, hid, rfl, hne, ?_⟩
        rw [← Except.ok.inj h, String.toList_ofList]

theorem insertDefinitions_of_not_infix {source : List Char} (h : ¬ documentclass <:+: source)
    (definitions : List Char) : insertDefinitions definitions source = definitions ++ '\n' :: source := by
  have hmissing : breakAt? "\\documentclass".toList source = none := breakAt?_of_not_infix h
  rw [insertDefinitions, hmissing]

section seams

variable {definitions : List Char} (h : ¬ placeholder.toList <:+: definitions)
include h

/-- No placeholder comes up where definitions are put behind the end of a line. -/
theorem sealed_behind (u rest : List Char) :
    Separate placeholder.toList u (rest.dropWhile (· ≠ '\n')) ∧
      Sealed placeholder.toList u ('\n' :: definitions) (rest.dropWhile (· ≠ '\n')) := by
  have hfeed : '\n' ∉ placeholder.toList := by decide
  have hrest : ∀ a, Separate placeholder.toList a (rest.dropWhile (· ≠ '\n')) := by
    refine fun a => separate_of_head? fun d hd => ?_
    have hstop := List.head?_dropWhile_not (· ≠ '\n') rest
    rw [hd] at hstop
    obtain rfl : d = '\n' := by simpa using hstop
    exact hfeed
  have hseam : Separate placeholder.toList ([] ++ ['\n']) definitions := separate_concat hfeed
  exact ⟨hrest u, sealed_of_separate (separate_cons hfeed) (hrest _) (hseam.not_infix (by decide) h)⟩

/-- Nor where they are put in front of all. -/
theorem sealed_before (source : List Char) : Sealed placeholder.toList [] (definitions ++ ['\n']) source := by
  have hfeed : '\n' ∉ placeholder.toList := by decide
  have hseam : Separate placeholder.toList definitions ['\n'] := separate_cons hfeed
  exact sealed_of_separate (separate_nil _ _) (separate_concat hfeed) (hseam.not_infix h (by decide))

end seams

/-- No placeholder comes up where the definitions are put into a shell. -/
theorem exists_insertion {prepared : String} (h : (a.prepare files shell).answer = .ok prepared)
    (hdefs : ∀ definitions, (a.commandDefinitions files).answer = .ok definitions →
      ¬ placeholder.toList <:+: definitions.toList) :
    ∃ copy p q, IsCopy a files shell copy ∧ shell.source.toList = p ++ q ∧
      prepared.toList = p ++ (copy ++ q) ∧ Separate placeholder.toList p q ∧
      Sealed placeholder.toList p copy q := by
  rcases prepare_cases h with ⟨rfl, hcopy⟩ | ⟨definitions, hid, hanswer, hne, hprepared⟩
  · exact ⟨[], [], shell.source.toList, hcopy, rfl, rfl, separate_nil _ _,
      sealed_of_separate (separate_nil _ _) (separate_nil _ _) (by decide)⟩
  · have habsent := hdefs definitions hanswer
    by_cases hclass : documentclass <:+: shell.source.toList
    · obtain ⟨before, after, hsource⟩ := hclass
      obtain ⟨b, rest, hb, -, hinsert⟩ := insertDefinitions_eq hsource.symm definitions.toList
      obtain ⟨hseparate, hsealed⟩ :=
        sealed_behind habsent (b ++ documentclass ++ rest.takeWhile (· ≠ '\n')) rest
      refine ⟨_, _, _, .behind hid hanswer hne ⟨before, after, hsource⟩, ?_, ?_, hseparate, hsealed⟩
      · rw [List.append_assoc _ (rest.takeWhile _), List.takeWhile_append_dropWhile, hb]
      · rw [hprepared, hinsert, List.append_assoc]
    · refine ⟨_, [], _, .before hid hanswer hne hclass, rfl, ?_, separate_nil _ _, sealed_before habsent _⟩
      rw [hprepared, insertDefinitions_of_not_infix hclass, List.nil_append, List.append_assoc]
      rfl

/-- No placeholder comes up where a body is put between two texts. -/
theorem sealed_body {id : String} {r : Resume} {today : Date} {body : String}
    (h : (a.renderBody id r today).1 = .ok body) (u v : List Char) :
    Sealed placeholder.toList u body.toList v := by
  obtain ⟨bs, hbs, htext⟩ := body_eq_ok_iff.mp h
  rw [htext]
  exact sealed_bodyText hbs u v

/-- **A document is its shell, with the definitions and the body put in and nothing else changed.** When
the shell is loaded, its body drawn and its text prepared, there is a document, whether the résumé is
given as such or as a record. If the source of the shell holds one placeholder, so does the prepared
text, which is the source with the definitions put in at one place; the document has the body in its
place, and no placeholder. If the source holds none, the document is the prepared text. -/
theorem compileResume_fills_placeholder (a : Assembler) (files : Files) (id : String) (r : Resume)
    (today : Date) (shell : Shell) (body prepared : String)
    (hshell : (a.library.load files id).answer = .ok shell)
    (hbody : (a.renderBody id r today).1 = .ok body)
    (hprepared : (a.prepare files shell).answer = .ok prepared)
    (hdefs : ∀ definitions, (a.commandDefinitions files).answer = .ok definitions →
      ¬ placeholder.toList <:+: definitions.toList) :
    ∃ document copy, (a.compileResume files id r today).answer = .ok document ∧
      (∀ record log, Resume.ofRecord record = (.ok r, log) →
        (a.compile files id record today).answer = .ok document) ∧
      IsCopy a files shell copy ∧
      (∀ u v, OnlyAt placeholder.toList shell.source.toList u v →
        ∃ u' v', OnlyAt placeholder.toList prepared.toList u' v' ∧
          (PutIn copy u u' ∧ v' = v ∨ u' = u ∧ PutIn copy v v') ∧
          document.toList = u' ++ (body.toList ++ v') ∧ ¬ placeholder.toList <:+: document.toList) ∧
      (¬ placeholder.toList <:+: shell.source.toList → document = prepared) := by
  obtain ⟨copy, p, q, hcopy, hsource, htext, hseparate, hsealed⟩ := exists_insertion hprepared hdefs
  have hassemble : a.assemble files (a.library.load files id).answer ((a.layoutFor id).body r today) =
      .ok (insertBody prepared body) := by
    have hlayout : (a.layoutFor id).body r today = .ok body := hbody
    rw [hshell, hlayout]
    show ((a.prepare files shell).answer.map fun source => insertBody source body) = _
    rw [hprepared]
    rfl
  have hdocument : (insertBody prepared body).toList =
      replaceFirst placeholder.toList body.toList prepared.toList := String.toList_ofList
  refine ⟨insertBody prepared body, copy, ?_, ?_, hcopy, ?_, ?_⟩
  · rw [compileResume_answer, hassemble]
  · intro record log hrecord
    rw [compile_answer, hrecord]
    exact hassemble
  · intro u v honly
    rw [hsource] at honly
    obtain ⟨u', v', honly', hput⟩ := honly.insert (by decide) hseparate hsealed
    rw [← htext] at honly'
    have hfilled := honly'.replaceFirst_eq body.toList
    refine ⟨u', v', honly', hput, by rw [hdocument, hfilled], ?_⟩
    rw [hdocument, hfilled]
    exact honly'.not_infix (by decide) (sealed_body hbody u' v')
  · intro hnone
    rw [hsource] at hnone
    have hnone' : ¬ placeholder.toList <:+: prepared.toList := by
      rw [htext]
      exact hsealed.not_infix hnone
    rw [← String.toList_inj, hdocument, replaceFirst_of_not_infix hnone']

/-- A shell with a place for the body. -/
def lineShell : Shell :=
  { id := "template02"
    source := "\\documentclass\x7barticle\x7d\n\x7b\x7bTEMPLATE_CONTENT\x7d\x7d\n"
    path := default }

/-- An assembler that keeps this shell, and has looked for the definitions. -/
def keepingAssembler : Assembler :=
  { definingAssembler with library := definingAssembler.library.keep lineShell }

theorem onlyAt_lineShell : OnlyAt placeholder.toList lineShell.source.toList
    ("\\documentclass\x7barticle\x7d".toList ++ ['\n']) ['\n'] := by
  have hfeed : '\n' ∉ placeholder.toList := by decide
  have hsource : lineShell.source.toList =
      ("\\documentclass\x7barticle\x7d".toList ++ ['\n']) ++ placeholder.toList ++ ['\n'] := by decide
  rw [hsource]
  exact onlyAt_of_separate (by decide) (by decide) (separate_concat hfeed) (separate_cons hfeed)

theorem compileResume_fills_placeholder_lineShell :
    ∃ document, (keepingAssembler.compileResume {} "template02" graduate newYear).answer = .ok document ∧
      ¬ placeholder.toList <:+: document.toList := by
  have hlayout : keepingAssembler.layoutFor "template02" = layoutFor { library := default } "template01" := by
    decide
  have hjudged : (keepingAssembler.layoutFor "template02").IsJudged graduate newYear := by
    rw [hlayout]
    exact isJudged_graduate
  obtain ⟨_, body, -, hbody, -⟩ := exists_renderBody hjudged
  obtain ⟨document, _, hanswer, -, -, honce, -⟩ :=
    compileResume_fills_placeholder keepingAssembler {} "template02" graduate newYear lineShell body
      "\\documentclass\x7barticle\x7d\n\\usepackage\x7bkeycommand\x7d\n\x7b\x7bTEMPLATE_CONTENT\x7d\x7d\n"
      (by decide) hbody (by decide) (fun definitions hdefinitions => by
        obtain rfl : "\\usepackage\x7bkeycommand\x7d" = definitions := Except.ok.inj hdefinitions
        decide)
  obtain ⟨_, _, -, -, -, hgone⟩ := honce _ _ onlyAt_lineShell
  exact ⟨document, hanswer, hgone⟩

end Vitae.Assembler
