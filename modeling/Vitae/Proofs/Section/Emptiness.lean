import Mathlib.Data.List.TFAE
import Vitae.Datum
import Vitae.Proofs.Latex.Joined
import Vitae.Proofs.Section.Wording

/-!
# What counts as empty

Sections are guarded by one test for empty values and written by functions that leave empty values out by tests
of their own: the single-line form, the escaped form, the argument of a command, the joined texts, the form of a
date. Each of these is empty for a value that shows nothing, and only for such a one, so the tests agree on every
value (`Datum.emptiness_agrees`). The single-line form is the words of the text with one space between them, and
what such a form looks like (`IsTidy`) follows from how runs of blanks are collapsed.
-/

namespace Vitae

open Text Latex Calendar Section

namespace Text

/-- A line without blanks but for single spaces inside of it. -/
structure IsTidy (cs : List Char) : Prop where
  /-- It does not begin with a blank. -/
  front : ∀ c, cs.head? = some c → ¬ isBlank c
  /-- It does not end with one. -/
  back : ∀ c, cs.getLast? = some c → ¬ isBlank c
  /-- It has no blank but the space. -/
  space : ∀ c ∈ cs, isBlank c → c = ' '
  /-- No two spaces stand side by side. -/
  single : ¬ [' ', ' '] <:+: cs

/-- In a text whose runs of blanks are collapsed no two spaces stand side by side, and it does not begin with one
where a run goes on. -/
theorem single_collapseFrom (inRun : Bool) (cs : List Char) : ¬ [' ', ' '] <:+: collapseFrom inRun cs ∧
    (inRun = true → ¬ [' '] <+: collapseFrom inRun cs) := by
  induction cs generalizing inRun with
  | nil => simp [collapseFrom]
  | cons c cs ih =>
    rw [collapseFrom]
    by_cases hc : isBlank c
    · obtain ⟨hsingle, hfront⟩ := ih true
      rw [if_pos hc]
      cases inRun with
      | true => exact ⟨hsingle, hfront⟩
      | false =>
        refine ⟨?_, fun h => absurd h Bool.false_ne_true⟩
        rw [if_neg Bool.false_ne_true, List.infix_cons_iff, List.cons_prefix_cons, not_or]
        exact ⟨fun h => hfront rfl h.2, hsingle⟩
    · have hne : ' ' ≠ c := by
        rintro rfl
        exact hc isBlank_space
      rw [if_neg hc, List.infix_cons_iff, List.cons_prefix_cons, List.cons_prefix_cons, not_or]
      exact ⟨⟨fun h => hne h.1, (ih false).1⟩, fun _ h => hne h.1⟩

/-- The single-line form is tidy. -/
theorem isTidy_singleLineChars (cs : List Char) : IsTidy (singleLineChars cs) where
  front c hc := by
    have hne : singleLineChars cs ≠ [] := List.ne_nil_of_mem (List.mem_of_head? hc)
    obtain ⟨d, rest, hcs, hd⟩ := (solid_trimChars hne).front
    rw [singleLineChars, hcs, List.head?_cons] at hc
    rwa [← Option.some.inj hc]
  back c hc := by
    have hne : singleLineChars cs ≠ [] := List.ne_nil_of_mem (List.mem_of_getLast? hc)
    obtain ⟨rest, d, hcs, hd⟩ := (solid_trimChars hne).back
    rw [singleLineChars, hcs, List.getLast?_concat] at hc
    rwa [← Option.some.inj hc]
  space c hc hblank := eq_space_of_mem_singleLineChars hblank hc
  single hdouble := by
    obtain ⟨b, b', -, -, hcs⟩ := exists_eq_append_trimChars (collapseFrom false cs)
    have hinfix : singleLineChars cs <:+: collapseFrom false cs := ⟨b, b', by rw [List.append_assoc]; exact hcs.symm⟩
    exact (single_collapseFrom false cs).1 (hdouble.trans hinfix)

end Text

namespace Datum

/-- A date field shows something when the plain text of the value does. -/
theorem dateShows_toDate?_iff (v : Datum) : DateShows v.toDate? ↔ Shows v.plain? := by
  have htext : ∀ s, DateShows (some (.text s)) ↔ Shows (some s) := fun _ => shows_some.symm
  cases v with
  | null => exact iff_of_false id shows_none
  | date d => exact iff_of_true trivial (shows_some.mpr (shown_text d))
  | moment t =>
    refine iff_of_true trivial (shows_some.mpr ?_)
    rw [plain, Moment.text]
    simp only [shown_append, shown_text t.date, true_or]
  | _ => exact htext _

/-- **The tests for empty values agree.** For every value, whatever its kind, either all of these hold or none of
them: the value counts as visible; its single-line form, its escaped form and its text joined alone are not empty;
an argument is written for it, whatever the key; and something is shown for it in a date field. The single-line
form is the words of its text with one space between them, empty for a value that is missing, and it has no blanks
but single spaces inside. -/
theorem emptiness_agrees (v : Datum) (key separator : String) :
    [isVisible v.plain? = true, singleLine? v.plain? ≠ "", escape? v.plain? ≠ "", keyed? key v.plain? ≠ none,
      trimJoin separator [v.plain?] ≠ "", display? v.toDate? ≠ ""].TFAE ∧
    singleLine? v.plain? = " ".intercalate (v.plain?.elim [] words) ∧ IsTidy (singleLine? v.plain?).toList := by
  refine ⟨List.tfae_of_forall (Shows v.plain?) _ ?_, ?_, ?_⟩
  · simp only [List.forall_mem_cons]
    exact ⟨isVisible_iff, singleLine?_ne_empty_iff, escape?_ne_empty_iff, keyed?_ne_none_iff,
      trimJoin_singleton_ne_empty_iff, display?_ne_empty_iff.trans v.dateShows_toDate?_iff, List.forall_mem_nil _⟩
  · cases v.plain? with
    | none => rfl
    | some s => exact (intercalate_words s).symm
  · cases v.plain? with
    | none => exact isTidy_singleLineChars []
    | some s =>
      rw [singleLine?, toList_singleLine]
      exact isTidy_singleLineChars s.toList

/-- A missing value has a literal, but no words. -/
theorem singleLine?_null : singleLine? null.plain? = "" ∧ " ".intercalate (words null.plain) = "None" :=
  ⟨rfl, by decide⟩

end Datum

end Vitae
