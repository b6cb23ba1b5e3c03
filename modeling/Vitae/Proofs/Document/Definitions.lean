import Mathlib.Data.List.TakeWhile
import Mathlib.Data.Nat.Find
import Vitae.Document
import Vitae.Proofs.Text.Search

/-!
# Where the definitions of a shell are put

A shell other than the default one is given the command definitions behind its first line
with `\documentclass`, whether or not that line is a comment. So the definitions stand
behind the line of the class that LaTeX sees exactly when no comment before it mentions
`\documentclass`; otherwise they stand in front of it (`prepare_places_definitions`).
-/

namespace Vitae.Assembler

open Text

/-- The command that begins a LaTeX document. -/
def documentclass : List Char := "\\documentclass".toList

/-- Where a reader of LaTeX is on a line. -/
inductive Spot where
  /-- In text. -/
  | text
  /-- Behind a backslash. -/
  | escape
  /-- In a comment. -/
  | comment
  deriving DecidableEq, Repr

/-- Where the reader is after one more character: a percent sign begins a comment unless a backslash
escapes it, and a comment goes to the end of the line. -/
def Spot.next : Spot → Char → Spot
  | _, '\n' => .text
  | .comment, _ => .comment
  | .escape, _ => .text
  | .text, '\\' => .escape
  | .text, '%' => .comment
  | .text, _ => .text

/-- Whether what follows a text is in a comment. -/
def inComment (before : List Char) : Bool := before.foldl Spot.next .text = .comment

/-- The first `\documentclass` of a source that is not in a comment. -/
structure IsClass (source before after : List Char) : Prop where
  /-- It stands between these texts. -/
  eq : source = before ++ documentclass ++ after
  /-- It is not in a comment. -/
  uncommented : inComment before = false
  /-- There is none before it. -/
  first : ∀ b rest, source = b ++ documentclass ++ rest → inComment b = false → before.length ≤ b.length

/-- A source in which `\documentclass` stands outside of comments. -/
def HasClass (source : List Char) : Prop :=
  ∃ b rest, source = b ++ documentclass ++ rest ∧ inComment b = false

/-- A comment in front of a place mentions `\documentclass`. -/
def MentionedBefore (source before : List Char) : Prop :=
  ∃ b rest, source = b ++ documentclass ++ rest ∧ inComment b ∧ b.length < before.length

theorem exists_isClass {source : List Char} (h : HasClass source) :
    ∃ before after, IsClass source before after := by
  classical
  have hlength : ∃ n b rest, b.length = n ∧ source = b ++ documentclass ++ rest ∧ inComment b = false := by
    obtain ⟨b, rest, hb, hnot⟩ := h
    exact ⟨b.length, b, rest, rfl, hb, hnot⟩
  obtain ⟨before, after, hn, heq, hnot⟩ := Nat.find_spec hlength
  refine ⟨before, after, heq, hnot, fun b rest hb hb' => ?_⟩
  rw [hn]
  exact Nat.find_min' hlength ⟨b, rest, rfl, hb, hb'⟩

/-- A comment goes on to the end of its line. -/
theorem inComment_append {b w : List Char} (hb : inComment b) (hw : '\n' ∉ w) : inComment (b ++ w) := by
  have hstep : ∀ c, c ≠ '\n' → Spot.comment.next c = .comment := by
    intro c hc
    unfold Spot.next
    split <;> simp_all
  rw [inComment, decide_eq_true_eq] at hb ⊢
  rw [List.foldl_append, hb]
  induction w with
  | nil => rfl
  | cons c w ih =>
    rw [List.mem_cons, not_or] at hw
    rw [List.foldl_cons, hstep c (Ne.symm hw.1)]
    exact ih hw.2

theorem not_mem_takeWhile (cs : List Char) : '\n' ∉ cs.takeWhile (· ≠ '\n') := by
  intro h
  simpa using List.mem_takeWhile_imp h

/-- The definitions are put behind the line of the first occurrence. -/
theorem insertDefinitions_eq {source before after : List Char}
    (h : source = before ++ documentclass ++ after) (definitions : List Char) :
    ∃ b rest, source = b ++ documentclass ++ rest ∧
      (∀ b' rest', source = b' ++ documentclass ++ rest' → b.length ≤ b'.length) ∧
      insertDefinitions definitions source =
        b ++ documentclass ++ rest.takeWhile (· ≠ '\n') ++ '\n' :: definitions ++
          rest.dropWhile (· ≠ '\n') := by
  obtain ⟨b, rest, hfound, -⟩ := exists_breakAt? h
  refine ⟨b, rest, eq_append_of_breakAt? hfound, fun b' rest' hb' => ?_, ?_⟩
  · obtain ⟨c, rest'', hfound', hle⟩ := exists_breakAt? hb'
    rw [hfound, Option.some.injEq, Prod.mk.injEq] at hfound'
    rw [hfound'.1]
    exact hle
  · have hfound : breakAt? "\\documentclass".toList source = some (b, rest) := hfound
    unfold insertDefinitions
    rw [hfound]
    rfl

/-- An occurrence before the class that is not in a comment is in one. -/
theorem IsClass.inComment_of_lt {source before after b rest : List Char} (h : IsClass source before after)
    (hb : source = b ++ documentclass ++ rest) (hlt : b.length < before.length) : inComment b := by
  by_contra hnot
  have hle := h.first b rest hb (by simpa using hnot)
  omega

/-- A mention in a comment ends its line before the class that is not in a comment, as the class would
stand on the line of the comment otherwise. -/
theorem IsClass.exists_eq_append {source before after b rest : List Char} (h : IsClass source before after)
    (hb : source = b ++ documentclass ++ rest) (hlt : b.length < before.length) :
    ∃ z, before = b ++ documentclass ++ rest.takeWhile (· ≠ '\n') ++ z := by
  have hcomment := h.inComment_of_lt hb hlt
  have hline : '\n' ∉ documentclass ++ rest.takeWhile (· ≠ '\n') := by
    rw [List.mem_append, not_or]
    exact ⟨by decide, not_mem_takeWhile rest⟩
  have hsource : before ++ (documentclass ++ after) =
      (b ++ documentclass ++ rest.takeWhile (· ≠ '\n')) ++ rest.dropWhile (· ≠ '\n') := by
    rw [← List.append_assoc, ← h.eq, hb, List.append_assoc _ (rest.takeWhile _),
      List.takeWhile_append_dropWhile]
  rcases List.append_eq_append_iff.mp hsource with ⟨w, hw, -⟩ | ⟨z, hz, -⟩
  · have hbefore : before ++ w = b ++ (documentclass ++ rest.takeWhile (· ≠ '\n')) := by
      rw [← hw, List.append_assoc]
    rcases List.append_eq_append_iff.mp hbefore with ⟨u, hu, -⟩ | ⟨u, hu, hwu⟩
    · have := congrArg List.length hu
      rw [List.length_append] at this
      omega
    · have hnot : '\n' ∉ u := fun hmem => hline (by rw [hwu]; exact List.mem_append_left _ hmem)
      have := inComment_append hcomment hnot
      rw [← hu, h.uncommented] at this
      exact absurd this (by decide)
  · exact ⟨z, hz⟩

/-- A comment before the class mentions it when the first occurrence of all is before the class. -/
theorem IsClass.mentionedBefore_iff {source before after b rest : List Char}
    (h : IsClass source before after) (hb : source = b ++ documentclass ++ rest)
    (hfirst : ∀ b' rest', source = b' ++ documentclass ++ rest' → b.length ≤ b'.length) :
    MentionedBefore source before ↔ b.length < before.length := by
  constructor
  · rintro ⟨b', rest', hb', -, hlt⟩
    have hle := hfirst b' rest' hb'
    omega
  · intro hlt
    exact ⟨b, rest, hb, h.inComment_of_lt hb hlt, hlt⟩

/-- What a shell that is not the default one is prepared to. -/
theorem prepare_eq_insertDefinitions {a : Assembler} {files : Files} {shell : Shell} {definitions : String}
    (hid : shell.id ≠ a.library.defaultId) (hdefs : (a.commandDefinitions files).answer = .ok definitions)
    (hne : definitions ≠ "") :
    (a.prepare files shell).answer =
      .ok (String.ofList (insertDefinitions definitions.toList shell.source.toList)) := by
  cases hout : a.commandDefinitions files with
  | mk answer state log =>
    rw [hout] at hdefs
    have hanswer : answer = .ok definitions := hdefs
    subst hanswer
    rw [prepare, if_neg hid, hout]
    simp only [if_neg hne]

/-- **Where the definitions are put.** The text of a shell other than the default one is its source
with the definitions on lines of their own at some place. This is the end of the line with the class
exactly when no comment before it mentions `\documentclass`; otherwise the class stands behind it. -/
theorem prepare_places_definitions (a : Assembler) (files : Files) (shell : Shell) (definitions : String)
    (hid : shell.id ≠ a.library.defaultId) (hdefs : (a.commandDefinitions files).answer = .ok definitions)
    (hne : definitions ≠ "") (hclass : HasClass shell.source.toList) :
    ∃ before after x y, IsClass shell.source.toList before after ∧ shell.source.toList = x ++ y ∧
      (a.prepare files shell).answer = .ok (String.ofList (x ++ '\n' :: definitions.toList ++ y)) ∧
      (x = before ++ documentclass ++ after.takeWhile (· ≠ '\n') ↔
        ¬ MentionedBefore shell.source.toList before) ∧
      (MentionedBefore shell.source.toList before → ∃ z, before = x ++ z) := by
  obtain ⟨before, after, hclass⟩ := exists_isClass hclass
  obtain ⟨b, rest, hb, hfirst, hinsert⟩ := insertDefinitions_eq hclass.eq definitions.toList
  have hmentioned := hclass.mentionedBefore_iff hb hfirst
  refine ⟨before, after, b ++ documentclass ++ rest.takeWhile (· ≠ '\n'), rest.dropWhile (· ≠ '\n'),
    hclass, ?_, ?_, ?_, ?_⟩
  · rw [List.append_assoc _ (rest.takeWhile _), List.takeWhile_append_dropWhile, hb]
  · rw [prepare_eq_insertDefinitions hid hdefs hne, hinsert]
  · rw [hmentioned, Nat.not_lt]
    constructor
    · intro hx
      have hlength := congrArg List.length hx
      by_contra hlt
      obtain ⟨z, hz⟩ := hclass.exists_eq_append hb (by omega)
      have hbefore := congrArg List.length hz
      have hpos : documentclass.length = 14 := by decide
      simp only [List.length_append] at hlength hbefore
      omega
    · intro hle
      have hlength : b.length = before.length := Nat.le_antisymm (hfirst before after hclass.eq) hle
      have hsplit : b ++ (documentclass ++ rest) = before ++ (documentclass ++ after) := by
        rw [← List.append_assoc, ← hb, hclass.eq, List.append_assoc]
      obtain ⟨rfl, hrest⟩ := List.append_inj hsplit hlength
      rw [List.append_cancel_left hrest]
  · intro hbefore
    exact hclass.exists_eq_append hb (hmentioned.mp hbefore)

/-- A shell with a comment that mentions its class. -/
def commentedShell : Shell :=
  { id := "template02"
    source := "% \\documentclass\n\\documentclass\x7barticle\x7d\n"
    path := default }

/-- An assembler that has looked for the definitions. -/
def definingAssembler : Assembler :=
  { library := { root := default, defaultId := "template01" }
    definitions := some "\\usepackage\x7bkeycommand\x7d" }

theorem prepare_places_definitions_commentedShell :
    ∃ before after x y, IsClass commentedShell.source.toList before after ∧
      commentedShell.source.toList = x ++ y ∧
      (definingAssembler.prepare {} commentedShell).answer =
        .ok (String.ofList (x ++ '\n' :: "\\usepackage\x7bkeycommand\x7d".toList ++ y)) ∧
      (x = before ++ documentclass ++ after.takeWhile (· ≠ '\n') ↔
        ¬ MentionedBefore commentedShell.source.toList before) ∧
      (MentionedBefore commentedShell.source.toList before → ∃ z, before = x ++ z) :=
  prepare_places_definitions definingAssembler {} commentedShell "\\usepackage\x7bkeycommand\x7d"
    (by decide) rfl (by decide)
    ⟨"% \\documentclass\n".toList, "\x7barticle\x7d\n".toList, by decide, by decide⟩

-- The definitions stand in front of the class.
example : (definingAssembler.prepare {} commentedShell).answer = .ok
    "% \\documentclass\n\\usepackage\x7bkeycommand\x7d\n\\documentclass\x7barticle\x7d\n" := by
  decide

end Vitae.Assembler
