import Mathlib.Data.List.Forall2
import Vitae.Proofs.Text.Trim

/-!
# What shows something

A text shows something when not all of its characters are blank (`Shown`), and a value
does when it is a text that does (`Shows`). Trimming, the single-line form and joining
keep the characters that are not blank, so they keep what is shown, and what is left of a
text that shows nothing is the empty text (`trim_ne_empty_iff`, `singleLine_ne_empty_iff`).
An address shows something when it is more than a scheme (`stripScheme?_ne_empty_iff`).
-/

namespace Vitae.Text

/-- A text shows something: not all of its characters are blank. -/
def Shown (s : String) : Prop := ∃ c ∈ s.toList, isBlank c = false

/-- A value shows something: it is a text that does. -/
def Shows (value : Option String) : Prop := ∃ s ∈ value, Shown s

instance (s : String) : Decidable (Shown s) :=
  decidable_of_iff ((s.toList.any fun c => !isBlank c) = true) (by simp [Shown])

@[simp] theorem shows_none : ¬ Shows none := by simp [Shows]

@[simp] theorem shows_some {s : String} : Shows (some s) ↔ Shown s := by simp [Shows]

theorem not_shown_empty : ¬ Shown "" := by simp [Shown]

theorem Shown.ne_empty {s : String} (h : Shown s) : s ≠ "" := by
  rintro rfl
  exact not_shown_empty h

/-- A text in which some character is not blank. -/
theorem shown_of_mem {s : String} {c : Char} (hmem : c ∈ s.toList) (hc : isBlank c = false) : Shown s :=
  ⟨c, hmem, hc⟩

theorem isBlankText_iff {s : String} : isBlankText s = true ↔ ¬ Shown s := by
  simp [isBlankText, isBlankChars, Shown]

/-! ### Joined texts -/

theorem shown_append {a b : String} : Shown (a ++ b) ↔ Shown a ∨ Shown b := by
  simp only [Shown, String.toList_append, List.mem_append, or_and_right, exists_or]

/-- Joined texts show what one of them shows. -/
theorem shown_intercalate_of_mem {separator t : String} {ts : List String} (ht : t ∈ ts) (h : Shown t) :
    Shown (separator.intercalate ts) := by
  induction ts with
  | nil => exact absurd ht List.not_mem_nil
  | cons s ts ih =>
    cases ts with
    | nil => rwa [String.intercalate_singleton, ← List.mem_singleton.mp ht]
    | cons s' ts =>
      rw [String.intercalate_cons_cons, shown_append, shown_append]
      rcases List.mem_cons.mp ht with rfl | ht
      · exact .inl (.inl h)
      · exact .inr (ih ht)

/-- Of texts that all show something, joined, nothing is shown when there is none. -/
theorem shown_intercalate {separator : String} {ts : List String} (h : ∀ t ∈ ts, Shown t) :
    Shown (separator.intercalate ts) ↔ ts ≠ [] := by
  cases ts with
  | nil => simp [not_shown_empty]
  | cons t ts =>
    exact iff_of_true (shown_intercalate_of_mem List.mem_cons_self (h t List.mem_cons_self)) (List.cons_ne_nil t ts)

/-! ### Trimmed texts -/

section notBlank

variable {c : Char} (hc : isBlank c = false) {cs : List Char}
include hc

/-- Trimming keeps the characters that are not blank. -/
theorem mem_trimChars_iff : c ∈ trimChars cs ↔ c ∈ cs := by
  obtain ⟨b, b', hb, hb', hcs⟩ := exists_eq_append_trimChars cs
  have hnot : ∀ d : List Char, (∀ e ∈ d, isBlank e) → c ∉ d := by
    intro d hd hmem
    rw [hd c hmem] at hc
    cases hc
  constructor
  · exact mem_of_mem_trimChars
  · intro hmem
    rw [hcs] at hmem
    simpa [hnot b hb, hnot b' hb'] using hmem

theorem mem_collapseFrom_iff {inRun : Bool} : c ∈ collapseFrom inRun cs ↔ c ∈ cs := by
  induction cs generalizing inRun with
  | nil => rfl
  | cons d cs ih =>
    rw [collapseFrom]
    by_cases hd : isBlank d = true
    · have hcd : c ≠ d := by
        rintro rfl
        rw [hc] at hd
        cases hd
      have hspace : c ≠ ' ' := by
        rintro rfl
        exact absurd hc (by decide)
      cases inRun with
      | true => simp [hd, ih, hcd]
      | false => simp [hd, ih, hcd, hspace]
    · simp [hd, ih]

/-- The single-line form keeps them, too. -/
theorem mem_singleLineChars_iff : c ∈ singleLineChars cs ↔ c ∈ cs := by
  rw [singleLineChars, mem_trimChars_iff hc, mem_collapseFrom_iff hc]

end notBlank

@[simp] theorem shown_trim {s : String} : Shown (trim s) ↔ Shown s := by
  unfold Shown
  exact exists_congr fun c => and_congr_left fun hc => by rw [toList_trim, mem_trimChars_iff hc]

@[simp] theorem shown_singleLine {s : String} : Shown (singleLine s) ↔ Shown s := by
  unfold Shown
  exact exists_congr fun c => and_congr_left fun hc => by rw [toList_singleLine, mem_singleLineChars_iff hc]

/-- A trimmed text that is not empty shows something. -/
theorem shown_of_trim_ne_empty {s : String} (h : trim s ≠ "") : Shown s := by
  by_contra hnot
  have hblank : ∀ c ∈ s.toList, isBlank c := by simpa [Shown] using hnot
  refine h (ofList_eq_empty_iff.mpr ?_)
  rw [trimChars, dropBlanks_of_blank hblank]
  rfl

theorem trim_ne_empty_iff {s : String} : trim s ≠ "" ↔ Shown s :=
  ⟨shown_of_trim_ne_empty, fun h => (shown_trim.mpr h).ne_empty⟩

theorem singleLine_ne_empty_iff {s : String} : singleLine s ≠ "" ↔ Shown s := by
  refine ⟨fun h => ?_, fun h => (shown_singleLine.mpr h).ne_empty⟩
  have htrim : trim (singleLine s) = singleLine s :=
    String.toList_inj.mp (by simp [singleLineChars])
  rw [← htrim] at h
  exact shown_singleLine.mp (shown_of_trim_ne_empty h)

theorem isVisible_iff {value : Option String} : isVisible value = true ↔ Shows value := by
  cases value with
  | none => simp [isVisible]
  | some s => simp [isVisible, trim_ne_empty_iff]

theorem isVisible_some_iff {s : String} : isVisible (some s) = true ↔ Shown s := by
  rw [isVisible_iff, shows_some]

/-- What is shown for a value that shows something, and nothing for any other. -/
theorem shows_ite_isVisible_iff {value : Option String} {text : String} (h : Shows value → Shown text) :
    Shows (if isVisible value then some text else none) ↔ Shows value := by
  by_cases hvalue : isVisible value = true
  · rw [if_pos hvalue, shows_some]
    exact iff_of_true (h (isVisible_iff.mp hvalue)) (isVisible_iff.mp hvalue)
  · rw [if_neg hvalue]
    exact iff_of_false shows_none fun hshows => hvalue (isVisible_iff.mpr hshows)

theorem singleLine?_ne_empty_iff {value : Option String} : singleLine? value ≠ "" ↔ Shows value := by
  cases value with
  | none => simp [singleLine?]
  | some s => simp [singleLine?, singleLine_ne_empty_iff]

theorem shown_singleLine?_iff {value : Option String} : Shown (singleLine? value) ↔ Shows value := by
  cases value with
  | none => simp [singleLine?, not_shown_empty]
  | some s => simp [singleLine?]

theorem shown_trim_getD_iff {value : Option String} : Shown (trim (value.getD "")) ↔ Shows value := by
  cases value with
  | none => simp [not_shown_empty]
  | some s => simp

/-- What is left of a value that is trimmed shows something. -/
theorem shown_of_trimmed? {value : Option String} {t : String} (h : trimmed? value = some t) :
    Shows value ∧ Shown t := by
  obtain ⟨hmap, hne⟩ := Option.filter_eq_some_iff.mp h
  obtain ⟨s, rfl, rfl⟩ := Option.map_eq_some_iff.mp hmap
  have hs : Shown s := trim_ne_empty_iff.mp (by simpa using hne)
  exact ⟨shows_some.mpr hs, shown_trim.mpr hs⟩

theorem shown_of_mem_filterMap_trimmed? {parts : List (Option String)} {t : String}
    (h : t ∈ parts.filterMap trimmed?) : Shown t := by
  obtain ⟨value, -, hvalue⟩ := List.mem_filterMap.mp h
  exact (shown_of_trimmed? hvalue).2

/-- Something is left of several values when one of them shows something. -/
theorem filterMap_trimmed?_ne_nil_iff {parts : List (Option String)} :
    parts.filterMap trimmed? ≠ [] ↔ ∃ value ∈ parts, Shows value := by
  constructor
  · intro hne
    obtain ⟨t, ht⟩ := List.exists_mem_of_ne_nil _ hne
    obtain ⟨value, hmem, hvalue⟩ := List.mem_filterMap.mp ht
    exact ⟨value, hmem, (shown_of_trimmed? hvalue).1⟩
  · rintro ⟨value, hmem, s, rfl, hs⟩
    have hleft : trim s ∈ parts.filterMap trimmed? :=
      List.mem_filterMap.mpr ⟨some s, hmem, trimmed?_some_of_ne (trim_ne_empty_iff.mpr hs)⟩
    exact List.ne_nil_of_mem hleft

/-- Of several values, joined, something is shown when one of them shows something. -/
theorem shown_trimJoin_iff {separator : String} {parts : List (Option String)} :
    Shown (trimJoin separator parts) ↔ ∃ value ∈ parts, Shows value := by
  rw [trimJoin_eq, shown_intercalate fun t => shown_of_mem_filterMap_trimmed?, filterMap_trimmed?_ne_nil_iff]

theorem trimJoin_singleton_ne_empty_iff {separator : String} {value : Option String} :
    trimJoin separator [value] ≠ "" ↔ Shows value := by
  constructor
  · intro hne
    have hleft : [value].filterMap trimmed? ≠ [] := by
      intro hnil
      rw [trimJoin_eq, hnil] at hne
      exact hne rfl
    obtain ⟨v, hv, hshows⟩ := filterMap_trimmed?_ne_nil_iff.mp hleft
    rwa [← List.mem_singleton.mp hv]
  · intro hshows
    exact (shown_trimJoin_iff.mpr ⟨value, List.mem_singleton_self value, hshows⟩).ne_empty

/-! ### Addresses -/

/-- The characters of a scheme, each in the forms that it may have: small or capital, and the long s for
the `s`. -/
def schemes : List (List (List Char)) :=
  [[['h', 'H'], ['t', 'T'], ['t', 'T'], ['p', 'P'], ['s', 'S', 'ſ'], [':'], ['/'], ['/']],
   [['h', 'H'], ['t', 'T'], ['t', 'T'], ['p', 'P'], [':'], ['/'], ['/']]]

/-- The text of a scheme, `http://` or `https://` in any case. -/
def IsScheme (cs : List Char) : Prop := ∃ forms ∈ schemes, List.Forall₂ (· ∈ ·) cs forms

/-- An address shows something: without outer blanks it is not empty, and more than a scheme. -/
def LinkShows (url : Option String) : Prop :=
  ∃ s ∈ url, Shown s ∧ ¬ IsScheme (trimChars s.toList)

theorem LinkShows.shows {url : Option String} (h : LinkShows url) : Shows url := by
  obtain ⟨s, hs, hshown, -⟩ := h
  exact ⟨s, hs, hshown⟩

/-- A text is used up by a word that it is made of. -/
theorem dropWord?_eq_some_nil_iff {tests : List (Char → Bool)} {cs : List Char} :
    dropWord? tests cs = some [] ↔ List.Forall₂ (fun c test => test c = true) cs tests := by
  induction tests generalizing cs with
  | nil =>
    rw [dropWord?]
    cases cs <;> simp
  | cons test tests ih =>
    cases cs with
    | nil => simp [dropWord?]
    | cons c cs =>
      rw [dropWord?, List.forall₂_cons, ← ih]
      split <;> simp_all

/-- What is dropped with a word has the length of the word. -/
theorem exists_of_dropWord?_eq_some {tests : List (Char → Bool)} {cs rest : List Char}
    (h : dropWord? tests cs = some rest) : ∃ w, w.length = tests.length ∧ cs = w ++ rest := by
  induction tests generalizing cs with
  | nil => exact ⟨[], rfl, Option.some.inj h⟩
  | cons test tests ih =>
    cases cs with
    | nil => cases h
    | cons c cs =>
      rw [dropWord?] at h
      split at h
      · obtain ⟨w, hlength, rfl⟩ := ih h
        exact ⟨c :: w, by rw [List.length_cons, List.length_cons, hlength], rfl⟩
      · cases h

/-- The tests for the characters of `http`. -/
def httpTests : List (Char → Bool) := [eitherCase 'h', eitherCase 't', eitherCase 't', eitherCase 'p']

/-- The tests for what stands behind it in a scheme. -/
def markTests : List (Char → Bool) := [(· = ':'), (· = '/'), (· = '/')]

theorem dropScheme?_eq (cs : List Char) :
    dropScheme? cs = (dropWord? (httpTests ++ isLetterS :: markTests) cs).or (dropWord? (httpTests ++ markTests) cs) :=
  rfl

/-- Characters have the given forms when they pass the tests for them. -/
theorem forall₂_mem_iff {forms : List (List Char)} {tests : List (Char → Bool)}
    (h : List.Forall₂ (fun form test => ∀ c, c ∈ form ↔ test c = true) forms tests) (cs : List Char) :
    List.Forall₂ (· ∈ ·) cs forms ↔ List.Forall₂ (fun c test => test c = true) cs tests := by
  induction h generalizing cs with
  | nil => rw [List.forall₂_nil_right_iff, List.forall₂_nil_right_iff]
  | cons hform _ ih =>
    cases cs with
    | nil => simp
    | cons c cs => rw [List.forall₂_cons, List.forall₂_cons, hform c, ih cs]

/-- A scheme passes the tests for one of its two words. -/
theorem isScheme_iff {cs : List Char} :
    IsScheme cs ↔ List.Forall₂ (fun c test => test c = true) cs (httpTests ++ isLetterS :: markTests) ∨
      List.Forall₂ (fun c test => test c = true) cs (httpTests ++ markTests) := by
  have hh : ∀ c, c ∈ ['h', 'H'] ↔ eitherCase 'h' c = true := by simp [eitherCase]
  have ht : ∀ c, c ∈ ['t', 'T'] ↔ eitherCase 't' c = true := by simp [eitherCase]
  have hp : ∀ c, c ∈ ['p', 'P'] ↔ eitherCase 'p' c = true := by simp [eitherCase]
  have hs : ∀ c, c ∈ ['s', 'S', 'ſ'] ↔ isLetterS c = true := by simp [isLetterS, eitherCase, or_assoc]
  have hcolon : ∀ c, c ∈ [':'] ↔ decide (c = ':') = true := by simp
  have hslash : ∀ c, c ∈ ['/'] ↔ decide (c = '/') = true := by simp
  have hlong := forall₂_mem_iff (.cons hh (.cons ht (.cons ht (.cons hp (.cons hs (.cons hcolon
    (.cons hslash (.cons hslash .nil)))))))) cs
  have hshort := forall₂_mem_iff (.cons hh (.cons ht (.cons ht (.cons hp (.cons hcolon
    (.cons hslash (.cons hslash .nil))))))) cs
  rw [IsScheme, schemes, List.exists_mem_cons_iff, List.exists_mem_cons_iff, hlong, hshort]
  simp [httpTests, markTests]

/-- A scheme is what nothing is left of behind its scheme: what the short word leaves nothing of is too
short for the long one. -/
theorem dropScheme?_eq_some_nil_iff {cs : List Char} : dropScheme? cs = some [] ↔ IsScheme cs := by
  rw [isScheme_iff, ← dropWord?_eq_some_nil_iff, ← dropWord?_eq_some_nil_iff, dropScheme?_eq,
    Option.or_eq_some_iff]
  refine or_congr_right ⟨fun h => h.2, fun h => ⟨?_, h⟩⟩
  cases hlong : dropWord? (httpTests ++ isLetterS :: markTests) cs with
  | none => rfl
  | some rest =>
    obtain ⟨w, hw, hcs⟩ := exists_of_dropWord?_eq_some hlong
    obtain ⟨v, hv, hcs'⟩ := exists_of_dropWord?_eq_some h
    have hlength := congrArg List.length (hcs.symm.trans hcs')
    rw [List.length_append, List.length_append, hw, hv] at hlength
    simp [httpTests, markTests] at hlength
    omega

/-- What is left of an address without its scheme, when something is left, is the end of the address. -/
theorem exists_of_stripSchemeChars (cs : List Char) : ∃ w, trimChars cs = w ++ stripSchemeChars cs := by
  rw [stripSchemeChars]
  cases hdrop : dropScheme? (trimChars cs) with
  | none => exact ⟨[], rfl⟩
  | some rest =>
    rw [dropScheme?_eq, Option.or_eq_some_iff] at hdrop
    rcases hdrop with h | ⟨-, h⟩
    · obtain ⟨w, -, hcs⟩ := exists_of_dropWord?_eq_some h
      exact ⟨w, hcs⟩
    · obtain ⟨w, -, hcs⟩ := exists_of_dropWord?_eq_some h
      exact ⟨w, hcs⟩

/-- The end of a trimmed text is not blank. -/
theorem exists_not_blank_of_suffix {cs w rest : List Char} (h : trimChars cs = w ++ rest) (hne : rest ≠ []) :
    ∃ c ∈ rest, isBlank c = false := by
  by_contra hnot
  have hblank : ∀ c ∈ rest, isBlank c := by simpa using hnot
  have hw : w ++ rest = trimChars w := by
    rw [← h, ← trimChars_trimChars, h, trimChars_append_right hblank]
  obtain ⟨b, b', -, -, hsplit⟩ := exists_eq_append_trimChars w
  have hlength := congrArg List.length hsplit
  rw [← hw] at hlength
  simp at hlength
  exact hne (List.length_eq_zero_iff.mp (by omega))

/-- Something is left of an address without its scheme when it shows something. -/
theorem stripScheme?_ne_empty_iff {url : Option String} : stripScheme? url ≠ "" ↔ LinkShows url := by
  cases url with
  | none => simp [stripScheme?, LinkShows]
  | some s =>
    have hnil : stripSchemeChars s.toList = [] ↔ trimChars s.toList = [] ∨ IsScheme (trimChars s.toList) := by
      rw [← dropScheme?_eq_some_nil_iff, stripSchemeChars]
      cases hdrop : dropScheme? (trimChars s.toList) with
      | none => simp
      | some rest =>
        have hne : trimChars s.toList ≠ [] := by
          intro hempty
          rw [hempty] at hdrop
          cases hdrop
        simp [hne]
    have hshown : trimChars s.toList = [] ↔ ¬ Shown s := by
      rw [← trim_ne_empty_iff, not_not, trim, ofList_eq_empty_iff]
    rw [stripScheme?, ne_eq, ofList_eq_empty_iff, hnil, hshown]
    simp [LinkShows]

theorem shown_stripScheme?_iff {url : Option String} : Shown (stripScheme? url) ↔ LinkShows url := by
  rw [← stripScheme?_ne_empty_iff]
  refine ⟨Shown.ne_empty, fun hne => ?_⟩
  cases url with
  | none => exact absurd rfl hne
  | some s =>
    obtain ⟨w, hw⟩ := exists_of_stripSchemeChars s.toList
    have hrest : stripSchemeChars s.toList ≠ [] := fun hnil => hne (ofList_eq_empty_iff.mpr hnil)
    obtain ⟨c, hmem, hc⟩ := exists_not_blank_of_suffix hw hrest
    exact shown_of_mem (by rwa [stripScheme?, String.toList_ofList]) hc

end Vitae.Text
