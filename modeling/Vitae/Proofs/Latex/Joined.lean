import Vitae.Proofs.Latex.Arguments
import Vitae.Proofs.Text.Shown
import Vitae.Proofs.Text.Words

/-!
# Escaping joined texts

A text is solid when it neither begins nor ends with a blank, as every trimmed text is that
shows something. The single line of solid texts that are put together is made of their
single lines (`singleLineChars_append_of_solid`), so texts that are joined by a separator
are escaped one by one (`escape_intercalate`). Escaping keeps the first character of a text
unless that is a special one (`head?_escape`).
-/

namespace Vitae.Text

/-- A text that neither begins nor ends with a blank. -/
structure Solid (cs : List Char) : Prop where
  /-- It begins with a character that is not blank. -/
  front : ∃ c rest, cs = c :: rest ∧ ¬ isBlank c
  /-- It ends with one. -/
  back : ∃ rest c, cs = rest ++ [c] ∧ ¬ isBlank c

variable {a b cs : List Char}

theorem Solid.append (ha : Solid a) (hb : Solid b) (mid : List Char) : Solid (a ++ mid ++ b) where
  front := by
    obtain ⟨c, rest, rfl, hc⟩ := ha.front
    exact ⟨c, rest ++ mid ++ b, by simp, hc⟩
  back := by
    obtain ⟨rest, c, rfl, hc⟩ := hb.back
    exact ⟨a ++ mid ++ rest, c, by simp, hc⟩

theorem Solid.trimChars_eq (h : Solid cs) : trimChars cs = cs := by
  have hdrop : ∀ c rest, ¬ isBlank c → dropBlanks (c :: rest) = c :: rest := fun c rest hc => by
    rw [dropBlanks, if_neg hc]
  obtain ⟨c, rest, hfront, hc⟩ := h.front
  obtain ⟨init, d, hback, hd⟩ := h.back
  have hreverse : cs.reverse = d :: init.reverse := by rw [hback, List.reverse_concat]
  rw [trimChars, hfront, hdrop c rest hc, ← hfront, hreverse, hdrop d init.reverse hd, ← hreverse,
    List.reverse_reverse]

/-- A solid text stays solid, and does so from its first character to its last one. -/
theorem Solid.collapseFrom (h : Solid cs) : Solid (collapseFrom false cs) where
  front := by
    obtain ⟨c, rest, rfl, hc⟩ := h.front
    exact ⟨c, _, by rw [Text.collapseFrom, if_neg hc], hc⟩
  back := by
    obtain ⟨init, d, rfl, hd⟩ := h.back
    refine ⟨Text.collapseFrom false init, d, ?_, hd⟩
    rw [collapseFrom_append]
    simp [Text.collapseFrom, hd]

theorem Solid.singleLineChars_eq (h : Solid cs) : singleLineChars cs = Text.collapseFrom false cs := by
  rw [singleLineChars, h.collapseFrom.trimChars_eq]

/-- The single line of solid texts with something between them. -/
theorem singleLineChars_append_of_solid (ha : Solid a) (hb : Solid b) (mid : List Char) :
    singleLineChars (a ++ mid ++ b) = singleLineChars a ++ collapseFrom false mid ++ singleLineChars b := by
  have hfirst : endsBlank false a = false := by
    obtain ⟨init, d, rfl, hd⟩ := ha.back
    rw [endsBlank_concat]
    simpa using hd
  have hlast : ∀ inRun, collapseFrom inRun b = collapseFrom false b := by
    intro inRun
    obtain ⟨c, rest, rfl, hc⟩ := hb.front
    rw [collapseFrom, collapseFrom, if_neg hc, if_neg hc]
  rw [(ha.append hb mid).singleLineChars_eq, collapseFrom_append, collapseFrom_append, hfirst, hlast,
    ha.singleLineChars_eq, hb.singleLineChars_eq]

/-- What is left behind the blanks at the front does not begin with a blank. -/
theorem dropBlanks_cases (cs : List Char) :
    dropBlanks cs = [] ∨ ∃ c rest, dropBlanks cs = c :: rest ∧ ¬ isBlank c := by
  induction cs with
  | nil => exact .inl rfl
  | cons c cs ih =>
    rw [dropBlanks]
    split
    · exact ih
    · rename_i hc
      exact .inr ⟨c, cs, rfl, hc⟩

/-- A trimmed text is solid if something is left of it. -/
theorem solid_trimChars (h : trimChars cs ≠ []) : Solid (trimChars cs) where
  front := by
    rcases dropBlanks_cases cs with hnil | ⟨c, rest, hcs, hc⟩
    · rw [trimChars, hnil] at h
      exact absurd rfl h
    · refine ⟨c, trimEndChars rest, ?_, hc⟩
      rw [trimChars_eq, hcs, trimEndChars_cons, if_neg fun hblank => hc hblank.2]
  back := by
    rcases dropBlanks_cases (dropBlanks cs).reverse with hnil | ⟨c, rest, hcs, hc⟩
    · rw [trimChars, hnil] at h
      exact absurd rfl h
    · exact ⟨rest.reverse, c, by rw [trimChars, hcs, List.reverse_cons], hc⟩

theorem solid_of_trimChars_eq (h : trimChars cs = cs) (hne : cs ≠ []) : Solid cs := by
  rw [← h] at hne ⊢
  exact solid_trimChars hne

theorem solid_trim {s : String} (h : Shown s) : Solid (trim s).toList := by
  have hne : trimChars s.toList ≠ [] := by
    obtain ⟨c, hmem, hc⟩ := h
    exact List.ne_nil_of_mem ((mem_trimChars_iff hc).mpr hmem)
  rw [toList_trim]
  exact solid_trimChars hne

/-- Solid texts with a separator between them. -/
theorem solid_intercalate {separator : String} {ts : List String} (hne : ts ≠ [])
    (h : ∀ t ∈ ts, Solid t.toList) : Solid (separator.intercalate ts).toList := by
  induction ts with
  | nil => exact absurd rfl hne
  | cons t ts ih =>
    obtain ⟨ht, hts⟩ := List.forall_mem_cons.mp h
    cases ts with
    | nil => rwa [String.intercalate_singleton]
    | cons u ts =>
      rw [String.intercalate_cons_cons, String.toList_append, String.toList_append]
      exact ht.append (ih (List.cons_ne_nil u ts) hts) separator.toList

/-! ### The first character -/

/-- A text begins with a character behind its blanks. -/
def Begins (c : Char) (s : String) : Prop := (dropBlanks s.toList).head? = some c

instance (c : Char) (s : String) : Decidable (Begins c s) := inferInstanceAs (Decidable (_ = _))

theorem not_begins_of_isBlank {c : Char} (hc : isBlank c) (s : String) : ¬ Begins c s := by
  intro hbegins
  rcases dropBlanks_cases s.toList with hnil | ⟨d, rest, hs, hd⟩
  · rw [Begins, hnil] at hbegins
    cases hbegins
  · rw [Begins, hs] at hbegins
    obtain rfl : d = c := Option.some.inj hbegins
    exact hd hc

/-- The single line begins as the text does behind its blanks. -/
theorem head?_singleLineChars (cs : List Char) : (singleLineChars cs).head? = (dropBlanks cs).head? := by
  induction cs with
  | nil => rfl
  | cons c cs ih =>
    rw [dropBlanks]
    split
    · rename_i hc
      rw [singleLineChars_of_blank hc, ih]
    · rename_i hc
      rw [singleLineChars_eq, collapseFrom, if_neg hc, trimEndChars_cons, if_neg fun hblank => hc hblank.2]
      rfl

end Vitae.Text

namespace Vitae.Latex

open Text

/-- Solid texts are escaped one by one, if what stands between them stays as it is. -/
theorem escape_append_of_solid {a b mid : String} (ha : Solid a.toList) (hb : Solid b.toList)
    (hmid : escapeChars (collapseFrom false mid.toList) = mid.toList) :
    escape (a ++ mid ++ b) = escape a ++ mid ++ escape b := by
  rw [← String.toList_inj, String.toList_append, String.toList_append, toList_escape, toList_escape, toList_escape,
    String.toList_append, String.toList_append, singleLineChars_append_of_solid ha hb, escapeChars_append,
    escapeChars_append, hmid]

/-- Texts that are joined by a separator are escaped one by one. -/
theorem escape_intercalate {separator : String} (hsep : escapeChars (collapseFrom false separator.toList) = separator.toList)
    {ts : List String} (h : ∀ t ∈ ts, Solid t.toList) :
    escape (separator.intercalate ts) = separator.intercalate (ts.map escape) := by
  induction ts with
  | nil => rfl
  | cons t ts ih =>
    obtain ⟨ht, hts⟩ := List.forall_mem_cons.mp h
    cases ts with
    | nil => rw [List.map_singleton, String.intercalate_singleton, String.intercalate_singleton]
    | cons u ts =>
      have hrest : Solid (separator.intercalate (u :: ts)).toList := solid_intercalate (List.cons_ne_nil u ts) hts
      rw [String.intercalate_cons_cons, escape_append_of_solid ht hrest hsep, ih hts]
      simp only [List.map_cons, String.intercalate_cons_cons]

/-- The values that show something are escaped one by one when they are joined. -/
theorem escape_trimJoin {separator : String} (hsep : escapeChars (collapseFrom false separator.toList) = separator.toList)
    (parts : List (Option String)) :
    escape (trimJoin separator parts) = separator.intercalate ((parts.filter isVisible).map escape?) := by
  have hescape : (parts.filterMap trimmed?).map escape = (parts.filter isVisible).map escape? := by
    have htrim : ∀ s, escape (trim s) = escape s := fun s => by rw [escape, toList_trim, singleLineChars_trimChars, escape]
    induction parts with
    | nil => rfl
    | cons value parts ih =>
      cases value with
      | none => exact ih
      | some s =>
        by_cases hs : trim s = ""
        · have hblank : isVisible (some s) = false := by simp [isVisible, hs]
          rw [List.filterMap_cons_none (trimmed?_some_of_eq hs), List.filter_cons_of_neg (by simp [hblank]), ih]
        · have hvisible : isVisible (some s) = true := by simp [isVisible, hs]
          rw [List.filterMap_cons_some (trimmed?_some_of_ne hs), List.filter_cons_of_pos hvisible, List.map_cons,
            List.map_cons, htrim, ih, escape?]
  have hsolid : ∀ t ∈ parts.filterMap trimmed?, Solid t.toList := by
    intro t ht
    obtain ⟨value, -, hvalue⟩ := List.mem_filterMap.mp ht
    obtain ⟨hvalue, hne⟩ := Option.filter_eq_some_iff.mp hvalue
    obtain ⟨s, -, rfl⟩ := Option.map_eq_some_iff.mp hvalue
    exact solid_trim (shown_of_trim_ne_empty (by simpa using hne))
  rw [trimJoin_eq, escape_intercalate hsep hsolid, hescape]

/-- A character that is written as itself, and is no hyphen, begins an escaped text when it begins the
text. -/
theorem head?_escape {c : Char} (hself : escapeChar c = [c]) (hhyphen : c ≠ '-') (s : String) :
    (escape s).toList.head? = some c ↔ Begins c s := by
  have hchar : ∀ d rest, (escapeChar d ++ rest).head? = some c ↔ d = c := by
    intro d rest
    constructor
    · intro hhead
      rcases escapeChar_cases d with hd | hd | ⟨-, hd⟩
      · have hsequences : ∀ e ∈ escapeSequences, e.head? = some '\\' := by decide
        obtain ⟨w, hw⟩ := List.head?_eq_some_iff.mp (hsequences _ hd)
        obtain rfl : '\\' = c := by simpa [hw] using hhead
        exact absurd hself (by decide)
      · rw [hd] at hhead
        exact absurd (Option.some.inj hhead).symm hhyphen
      · rw [hd] at hhead
        exact Option.some.inj hhead
    · rintro rfl
      rw [hself]
      rfl
  rw [Begins, ← head?_singleLineChars, toList_escape, escapeChars]
  cases singleLineChars s.toList with
  | nil => simp
  | cons d cs =>
    rw [List.flatMap_cons, hchar]
    simp

end Vitae.Latex
