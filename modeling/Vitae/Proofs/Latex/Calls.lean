import Vitae.Proofs.Latex.Scopes
import Vitae.Section.Block
import Vitae.Template.Packaged

/-!
# Calls of keyed commands

The packaged definitions declare five commands that take keyed arguments, each with its
keys. A call of such a command is well formed when it has an argument, no key twice, only
keys that are declared for it, and no value that shows nothing. The builder of arguments
writes a well-formed call or none (`Candidates.isCall_of_command?`).
-/

namespace Vitae.Latex

open Text Section

/-- A command that takes keyed arguments. -/
structure KeyedCommand where
  /-- Its name. -/
  name : String
  /-- The keys that it takes. -/
  keys : List String
  deriving DecidableEq

/-- The text with which a command is declared. -/
def KeyedCommand.declaration (c : KeyedCommand) : String :=
  "\\newkeycommand\x7b\\" ++ c.name ++ "\x7d[" ++ ",".intercalate c.keys ++ "]\x7b"

namespace KeyedCommand

/-- The head of a document. -/
def introduction : KeyedCommand :=
  ⟨Section.introduction, ["fullname", "email", "phone", "linkedin", "github"]⟩

/-- A course of study. -/
def educationItem : KeyedCommand :=
  ⟨Section.educationItem, ["university", "college", "program", "graduation", "grade", "coursework"]⟩

/-- A group of names. -/
def skillItem : KeyedCommand := ⟨Section.skillItem, ["category", "skills"]⟩

/-- A job or a voluntary role. -/
def experienceItem : KeyedCommand :=
  ⟨Section.experienceItem, ["company", "position", "location", "duration"]⟩

/-- A project and what is shown like one. -/
def projectItem : KeyedCommand := ⟨Section.projectItem, ["title", "duration", "keyHighlight"]⟩

end KeyedCommand

/-- The keyed commands of the standard templates. -/
def keyedCommands : List KeyedCommand :=
  [.introduction, .educationItem, .skillItem, .experienceItem, .projectItem]

/-- A line of a file occurs in it. -/
theorem infix_fileText {l : String} {ls : List String} (h : l ∈ ls) :
    l.toList <:+: (Template.Packaged.fileText ls).toList := by
  obtain ⟨a, b, rfl⟩ := List.append_of_mem h
  rw [Template.Packaged.fileText, String.toList_join, List.map_append, List.flatMap_append,
    List.map_cons, List.flatMap_cons, String.toList_append, List.append_assoc, ← List.append_assoc]
  exact List.infix_append _ _ _

/-- The packaged definitions declare the keyed commands with these keys. -/
theorem declaration_infix_commandDefinitions {c : KeyedCommand} (hc : c ∈ keyedCommands) :
    c.declaration.toList <:+: Template.Packaged.commandDefinitions.toList := by
  have key : "  " ++ c.declaration ++ "%" ∈ keyedCommands.map fun c => "  " ++ c.declaration ++ "%" :=
    List.mem_map_of_mem hc
  have hinfix : c.declaration.toList <:+: ("  " ++ c.declaration ++ "%").toList := by
    rw [String.toList_append, String.toList_append]
    exact List.infix_append _ _ _
  refine hinfix.trans ?_
  unfold Template.Packaged.commandDefinitions
  refine infix_fileText (List.Sublist.subset ?_ key)
  decide +kernel

/-! ### Well-formed calls -/

/-- The arguments of a call. -/
def argumentText (pairs : List (String × String)) : String :=
  ", ".intercalate (pairs.map fun p => p.1 ++ "=" ++ braced p.2)

/-- A call with its arguments. -/
def callText (name : String) (pairs : List (String × String)) : String :=
  "\\" ++ name ++ "[" ++ argumentText pairs ++ "]"

/-- Arguments with which a command can be called. -/
structure IsCall (c : KeyedCommand) (pairs : List (String × String)) : Prop where
  /-- There is one. -/
  ne_nil : pairs ≠ []
  /-- No key stands twice. -/
  nodup : (pairs.map Prod.fst).Nodup
  /-- All keys are declared. -/
  keys : ∀ p ∈ pairs, p.1 ∈ c.keys
  /-- All values are escaped text that shows something. -/
  values : ∀ p ∈ pairs, p.2 ≠ "" ∧ ∃ s, p.2 = escape s

/-- Candidates under keys of a command, none of them twice. -/
structure Candidates.Fit (args : Candidates) (c : KeyedCommand) : Prop where
  /-- No key stands twice. -/
  nodup : (args.map Prod.fst).Nodup
  /-- All keys are declared. -/
  keys : args.map Prod.fst ⊆ c.keys

theorem Candidates.Fit.of_keys {args : Candidates} {c : KeyedCommand} (keys : List String)
    (h : args.map Prod.fst = keys) (hkeys : keys.Nodup ∧ keys ⊆ c.keys) : args.Fit c := by
  subst h
  exact ⟨hkeys.1, hkeys.2⟩

/-- The arguments that show something. -/
def Candidates.shown (args : Candidates) : List (String × String) :=
  (args.map fun p => (p.1, escape? p.2)).filter fun p => p.2 ≠ ""

theorem Candidates.entries_eq (args : Candidates) :
    args.entries = args.shown.map fun p => p.1 ++ "=" ++ braced p.2 := by
  induction args with
  | nil => rfl
  | cons p args ih =>
    simp only [Candidates.entries, Candidates.shown] at ih ⊢
    rw [List.filterMap_cons, List.map_cons, List.filter_cons, ih]
    by_cases hp : escape? p.2 = "" <;> simp [keyed?, hp]

/-- The arguments are joined as they are; none of them is an empty text. -/
theorem Candidates.text_eq (args : Candidates) :
    args.text = argumentText args.shown := by
  rw [Candidates.text, argumentText, joinArguments, Candidates.entries_eq, List.filter_eq_self.mpr]
  intro l hl
  obtain ⟨p, -, rfl⟩ := List.mem_map.mp hl
  simp

theorem Candidates.fst_shown_sublist (args : Candidates) :
    (args.shown.map Prod.fst).Sublist (args.map Prod.fst) := by
  have hfst : (args.map fun p => (p.1, escape? p.2)).map Prod.fst = args.map Prod.fst := by
    rw [List.map_map]; rfl
  rw [← hfst]
  exact List.filter_sublist.map Prod.fst

/-- What is called is called with well-formed arguments. -/
theorem Candidates.isCall_of_command? {c : KeyedCommand} {args : Candidates} (hargs : args.Fit c)
    {call : String} (h : args.command? c.name = some call) :
    IsCall c args.shown ∧ call = callText c.name args.shown := by
  rw [Candidates.command?, Latex.command?] at h
  split at h
  · exact absurd h (by simp)
  · rename_i hne
    rw [Candidates.text_eq] at h hne
    refine ⟨⟨?_, hargs.nodup.sublist args.fst_shown_sublist, ?_, ?_⟩, (Option.some.inj h).symm⟩
    · intro hnil
      rw [hnil] at hne
      exact hne rfl
    · intro p hp
      exact hargs.keys (args.fst_shown_sublist.subset (List.mem_map_of_mem hp))
    · intro p hp
      obtain ⟨hp, hshown⟩ := List.mem_filter.mp hp
      obtain ⟨⟨k, value⟩, -, rfl⟩ := List.mem_map.mp hp
      refine ⟨by simpa using hshown, ?_⟩
      cases value with
      | none => exact absurd hshown (by simp [escape?])
      | some s => exact ⟨s, rfl⟩

/-! ### Calls as clean text -/

/-- What a call of a command begins with. -/
def KeyedCommand.start (c : KeyedCommand) : List Char := '\\' :: c.name.toList

/-- The keyed commands are watched. -/
def callWatch : Watch where
  stems := [['\\', 'i', 'n'], ['\\', 'e', 'd'], ['\\', 's', 'k'], ['\\', 'e', 'x', 'p'], ['\\', 'p']]

/-- A keyed command begins nowhere if what is watched does not. -/
theorem KeyedCommand.nowhere {c : KeyedCommand} (hc : c ∈ keyedCommands) {a : List Char}
    (ha : ∀ n ∈ callWatch.stems, NowhereIn n a) : NowhereIn c.start a := by
  have key : ∀ c ∈ keyedCommands, ∃ n ∈ callWatch.stems, n <+: c.start := by decide
  obtain ⟨n, hn, hstem⟩ := key c hc
  exact (ha n hn).of_beginning hstem

/-- All is watched. -/
def fullWatch : Watch where
  stems := scopeWatch.stems ++ callWatch.stems
  areCommands := fun n hn =>
    (List.mem_append.mp hn).elim (scopeWatch.areCommands n) (callWatch.areCommands n)

theorem scopeWatch_subset : scopeWatch.stems ⊆ fullWatch.stems := List.subset_append_left _ _

theorem callWatch_subset : callWatch.stems ⊆ fullWatch.stems := List.subset_append_right _ _

/-- No command begins within the arguments of a call. -/
theorem clean_argumentText {c : KeyedCommand} (hc : c ∈ keyedCommands)
    {pairs : List (String × String)} (h : IsCall c pairs) : Clean fullWatch (argumentText pairs) := by
  have hkey : ∀ c ∈ keyedCommands, ∀ k ∈ c.keys, Clean fullWatch k := by
    simp only [keyedCommands, KeyedCommand.introduction, KeyedCommand.educationItem,
      KeyedCommand.skillItem, KeyedCommand.experienceItem, KeyedCommand.projectItem,
      List.forall_mem_cons, List.not_mem_nil, false_implies, implies_true, and_true]
    and_intros <;> exact clean_literal (by decide)
  have hcomma : Clean fullWatch ", " := clean_literal (by decide)
  have hequals : Clean fullWatch "=" := clean_literal (by decide)
  refine hcomma.intercalate fun t ht => ?_
  obtain ⟨p, hp, rfl⟩ := List.mem_map.mp ht
  obtain ⟨hne, s, hs⟩ := h.values p hp
  rw [hs] at hne ⊢
  have hvalue : Clean fullWatch (braced (escape s)) := (clean_escape s).braced_of_filled (filled_escape hne)
  exact ((hkey c hc _ (h.keys p hp)).append hequals).append hvalue

/-- Nothing is begun or ended in a call. -/
theorem clean_callText {c : KeyedCommand} (hc : c ∈ keyedCommands) {pairs : List (String × String)}
    (h : IsCall c pairs) : Clean scopeWatch (callText c.name pairs) := by
  have hstart : ∀ c ∈ keyedCommands, isClean scopeWatch ("\\" ++ c.name ++ "[").toList := by
    decide
  have hend : Clean scopeWatch "]" := clean_literal (by decide)
  have hargs := (clean_argumentText hc h).mono scopeWatch_subset (List.Subset.refl _)
  exact ((clean_of_isClean (hstart c hc)).append hargs).append hend

/-! ### Occurrences of the commands -/

/-- Wherever the name of a keyed command stands, a well-formed call of it begins. -/
def WellCalled (cs : List Char) : Prop :=
  ∀ c ∈ keyedCommands, ∀ x y, cs = x ++ (c.start ++ y) →
    ∃ pairs, IsCall c pairs ∧ (callText c.name pairs).toList <+: c.start ++ y

/-- A text in which no keyed command begins may stand before a text in which none stands. -/
theorem wellCalled_append {a b : List Char} (ha : ∀ n ∈ callWatch.stems, NowhereIn n a)
    (hb : ∀ c ∈ keyedCommands, ¬ c.start <:+: b) : WellCalled (a ++ b) := by
  intro c hc x y hxy
  obtain ⟨z, -, hz⟩ := (KeyedCommand.nowhere hc ha).eq_append hxy
  exact absurd ⟨z, y, by rw [hz, List.append_assoc]⟩ (hb c hc)

theorem toList_callText (name : String) (pairs : List (String × String)) :
    (callText name pairs).toList =
      '\\' :: (name.toList ++ '[' :: ((argumentText pairs).toList ++ [']'])) := by
  simp [callText]

/-- A call, with text around it in which no keyed command stands. Behind its backslash the call itself holds
none. -/
theorem wellCalled_callText {a b : List Char} {c : KeyedCommand} (hc : c ∈ keyedCommands)
    {pairs : List (String × String)} (h : IsCall c pairs) (ha : '\\' ∉ a)
    (hb : ∀ c ∈ keyedCommands, ¬ c.start <:+: ']' :: b) :
    WellCalled (a ++ ((callText c.name pairs).toList ++ b)) := by
  have hapart : ∀ c ∈ keyedCommands, ∀ e ∈ keyedCommands, e ≠ c →
      Apart e.start (c.start ++ ['[']) := by decide
  have hname : ∀ c ∈ keyedCommands, '\\' ∉ c.name.toList ++ ['['] := by decide
  have hplain : ∀ cs, '\\' ∉ cs → ∀ e ∈ keyedCommands, NowhereIn e.start cs := fun cs hcs e he =>
    KeyedCommand.nowhere he (callWatch.nowhere_of_no_backslash hcs)
  intro e he x y hxy
  obtain ⟨z, -, hz⟩ := (hplain a ha e he).eq_append hxy
  cases z with
  | nil =>
    by_cases hec : e = c
    · rw [hec] at hz ⊢
      exact ⟨pairs, h, b, hz⟩
    · have hcall : c.start ++ ['['] <+: e.start ++ y := by
        refine ⟨(argumentText pairs).toList ++ ']' :: b, ?_⟩
        rw [← List.nil_append (e.start ++ y), ← hz, toList_callText]
        simp [KeyedCommand.start]
      have hcomparable := List.prefix_or_prefix_of_prefix (List.prefix_append e.start y) hcall
      exact absurd hcomparable (not_or.mpr (hapart c hc e he hec))
  | cons d z =>
    have hrest : (c.name.toList ++ ['[']) ++ ((argumentText pairs).toList ++ ']' :: b) =
        z ++ (e.start ++ y) := by
      rw [toList_callText] at hz
      simpa using (List.cons.inj hz).2
    obtain ⟨z', -, hz'⟩ := (hplain _ (hname c hc) e he).eq_append hrest
    have hargs := (clean_argumentText hc h).mono callWatch_subset (List.Subset.refl _)
    obtain ⟨w, -, hw⟩ := (KeyedCommand.nowhere he hargs.nowhere).eq_append hz'
    exact absurd ⟨w, y, by rw [hw, List.append_assoc]⟩ (hb e he)

end Vitae.Latex
