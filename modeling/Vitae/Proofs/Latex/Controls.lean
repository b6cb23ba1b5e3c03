import Vitae.Proofs.Latex.Arguments
import Vitae.Proofs.Latex.Braces
import Vitae.Text.Search

/-!
# Commands and reserved characters

A backslash begins a command unless an odd number of backslashes stands directly in front
of it. A body writes a fixed list of commands (`commands`), and escaped text nothing but
escape sequences; the characters that LaTeX reserves for itself are escaped but for those
that a place is allowed to show bare. Both are found out in one pass (`isCoded`), which can
be followed through texts that are put together (`isCoded_append`): a name of letters at
the end of a text would go on in the next one, so either there is none or the next text
begins with what ends a name.
-/

namespace Vitae.Latex

open Text

/-- The commands that bodies are written with. -/
def commands : List (List Char) :=
  ["\\introduction".toList, "\\educationItem".toList, "\\skillItem".toList, "\\experienceItem".toList,
   "\\projectItem".toList, "\\summary".toList, "\\begin".toList, "\\end".toList, "\\item".toList,
   "\\itemsep".toList, "\\vspace".toList, "\\\\".toList, "\\vfill".toList, "\\footnotesize".toList,
   "\\color".toList, "\\href".toList, "\\Large".toList, "\\small".toList, "\\textwidth".toList,
   "\\extracolsep".toList, "\\fill".toList, "\\textbf".toList, "\\LARGE".toList, "\\section".toList,
   "\\resumeSubheading".toList, "\\resumeSubItem".toList, "\\resumeItemWithoutTitle".toList,
   "\\resumeItemListStart".toList, "\\resumeItemListEnd".toList,
   "\\resumeSubHeadingListStart".toList, "\\resumeSubHeadingListEnd".toList]

/-- What a backslash may begin: a command, or an escape sequence. -/
def vocabulary : List (List Char) := commands ++ escapeSequences

/-- The characters that LaTeX reserves for itself, beside backslash and braces. -/
def reserved : List Char := ['$', '#', '_', '^', '~', '%', '&']

/-- What may stand behind a name of letters. -/
def nameEnds : List Char := [' ', '\x7b', '\x7d', '[', '\n']

/-- Whether a command ends in a letter, so that more letters would make it another command. -/
def isWord (n : List Char) : Bool := n.getLast?.any Char.isAlpha

/-- Whether a command stands at the front of a text, with its whole name; `final` tells whether a
name of letters may stand at the end of the text. -/
def isLedBy (final : Bool) (u n : List Char) : Bool :=
  match dropPrefix? n u with
  | none => false
  | some [] => !isWord n || final
  | some (c :: _) => !isWord n || nameEnds.contains c

/-- Whether each backslash begins a command or an escape sequence, and no reserved character is bare
but the given ones; `odd` tells whether an odd number of backslashes stands directly in front. -/
def isCoded (bare : List Char) (final : Bool) : Bool → List Char → Bool
  | _, [] => true
  | odd, c :: cs =>
    (odd || (if c = '\\' then vocabulary.any (isLedBy final (c :: cs))
      else !reserved.contains c || bare.contains c)) &&
    isCoded bare final (c = '\\' && !odd) cs

variable {bare : List Char} {final odd : Bool} {a b : List Char}

theorem isCoded_nil : isCoded bare final odd [] := rfl

/-- A character that is neither a backslash nor reserved. -/
theorem isCoded_cons_of_plain {c : Char} (hc : c ≠ '\\' ∧ c ∉ reserved) (cs : List Char) :
    isCoded bare final odd (c :: cs) = isCoded bare final false cs := by
  simp [isCoded, hc]

/-! ### Texts that are put together -/

theorem dropPrefix?_append_of_eq_some {n u rest : List Char} (h : dropPrefix? n u = some rest)
    (b : List Char) : dropPrefix? n (u ++ b) = some (rest ++ b) := by
  induction n generalizing u with
  | nil =>
    obtain rfl : u = rest := by simpa [dropPrefix?] using h
    rfl
  | cons d n ih =>
    cases u with
    | nil => simp [dropPrefix?] at h
    | cons c u =>
      simp only [dropPrefix?] at h
      split at h
      · rename_i hdc
        simpa [dropPrefix?, hdc] using ih h
      · simp at h

/-- What may follow a text: anything, unless a name of letters may stand at its end. -/
def Follows (final : Bool) (b : List Char) : Prop := final = false ∨ ∃ c ∈ b.head?, c ∈ nameEnds

theorem isLedBy_append {final' : Bool} {u n : List Char} (h : isLedBy final u n) (hb : Follows final b) :
    isLedBy final' (u ++ b) n := by
  rw [isLedBy] at h ⊢
  cases hdrop : dropPrefix? n u with
  | none => rw [hdrop] at h; exact absurd h (by simp)
  | some rest =>
    rw [hdrop] at h
    rw [dropPrefix?_append_of_eq_some hdrop b]
    cases rest with
    | cons c rest => exact h
    | nil =>
      have h : (!isWord n || final) = true := h
      cases hword : isWord n with
      | false =>
        cases b with
        | nil => simp
        | cons c b => simp
      | true =>
        obtain rfl : final = true := by simpa [hword] using h
        rcases hb with hb | ⟨c, hc, hend⟩
        · exact absurd hb (by decide)
        · obtain ⟨b, rfl⟩ := List.head?_eq_some_iff.mp hc
          simpa using hend

theorem isCoded_append {final' : Bool} (ha : isCoded bare final odd a)
    (hb : isCoded bare final' (endsOdd odd a) b) (hseam : Follows final b) :
    isCoded bare final' odd (a ++ b) := by
  induction a generalizing odd with
  | nil => exact hb
  | cons c a ih =>
    rw [isCoded, Bool.and_eq_true] at ha
    obtain ⟨hc, ha⟩ := ha
    rw [List.cons_append, isCoded, Bool.and_eq_true]
    refine ⟨?_, ih ha hb⟩
    by_cases hback : c = '\\'
    · simp only [hback, if_true, Bool.or_eq_true, List.any_eq_true] at hc ⊢
      rcases hc with hodd | ⟨n, hn, hled⟩
      · exact .inl hodd
      · exact .inr ⟨n, hn, isLedBy_append hled hseam⟩
    · simpa only [if_neg hback] using hc

/-- Where a name of letters cannot stand at the end, all the more it need not. -/
theorem isCoded_final (h : isCoded bare false odd a) : isCoded bare true odd a := by
  have hnil : isCoded bare true (endsOdd odd a) [] := isCoded_nil
  simpa using isCoded_append h hnil (.inl rfl)

/-- More characters may be bare. -/
theorem isCoded_mono {bare' : List Char} (hsub : bare ⊆ bare') (h : isCoded bare final odd a) :
    isCoded bare' final odd a := by
  induction a generalizing odd with
  | nil => rfl
  | cons c a ih =>
    rw [isCoded, Bool.and_eq_true] at h ⊢
    refine ⟨?_, ih h.2⟩
    by_cases hback : c = '\\'
    · simpa only [if_pos hback] using h.1
    · have hc := h.1
      simp only [if_neg hback, Bool.or_eq_true, List.contains_iff_mem] at hc ⊢
      exact hc.imp_right (Or.imp_right fun hmem => hsub hmem)

/-- All reserved characters may be bare at once. -/
theorem isCoded_reserved (h : isCoded bare final odd a) : isCoded reserved final odd a := by
  induction a generalizing odd with
  | nil => rfl
  | cons c a ih =>
    rw [isCoded, Bool.and_eq_true] at h ⊢
    refine ⟨?_, ih h.2⟩
    by_cases hback : c = '\\'
    · simpa only [if_pos hback] using h.1
    · simp [if_neg hback]

/-- Text without backslashes shows only what it may. -/
theorem isCoded_of_no_backslash (h : ∀ c ∈ a, c ≠ '\\' ∧ (c ∈ reserved → c ∈ bare)) :
    isCoded bare final false a := by
  induction a with
  | nil => rfl
  | cons c a ih =>
    obtain ⟨hback, hbare⟩ := h c List.mem_cons_self
    have hrest := ih fun d hd => h d (List.mem_cons_of_mem _ hd)
    have hc : c ∉ reserved ∨ c ∈ bare := Classical.or_iff_not_imp_left.mpr fun hn => hbare (not_not.mp hn)
    simpa [isCoded, hback, hrest] using hc

/-- A group in a text, which may end in the name of a command. -/
theorem isCoded_group (h : isCoded bare true false a) (heven : endsOdd false a = false) :
    isCoded bare final false ('\x7b' :: (a ++ ['\x7d'])) := by
  rw [isCoded_cons_of_plain (by decide)]
  refine isCoded_append h ?_ (.inr ⟨'\x7d', rfl, by decide⟩)
  rw [heven, isCoded_cons_of_plain (by decide)]
  rfl

/-- Escaped text begins nothing but escape sequences, and shows nothing reserved. -/
theorem isCoded_escapeChar (c : Char) : isCoded bare false false (escapeChar c) := by
  have hsequences : ∀ e ∈ escapeSequences, isCoded [] false false e := by decide
  have hdashes : isCoded [] false false ['-', '-'] := by decide
  have hspecials : reserved.all (specials.contains ·) := by decide
  rcases escapeChar_cases c with hc | hc | ⟨hs, hc⟩
  · exact isCoded_mono (List.nil_subset _) (hsequences _ hc)
  · rw [hc]
    exact isCoded_mono (List.nil_subset _) hdashes
  · have hback : c ≠ '\\' := by
      rintro rfl
      exact hs (by decide)
    have hreserved : c ∉ reserved := fun hmem =>
      hs (List.contains_iff_mem.mp (List.all_eq_true.mp hspecials c hmem))
    rw [hc, isCoded_cons_of_plain ⟨hback, hreserved⟩]
    rfl

/-! ### Places of a text -/

/-- A command stands at the front of a text, with its whole name. -/
def Leads (n u : List Char) : Prop :=
  ∃ rest, u = n ++ rest ∧ (isWord n → ∀ c ∈ rest.head?, c ∈ nameEnds)

theorem leads_of_isLedBy {u n : List Char} (h : isLedBy final u n) : Leads n u := by
  rw [isLedBy] at h
  cases hdrop : dropPrefix? n u with
  | none => rw [hdrop] at h; exact absurd h (by simp)
  | some rest =>
    rw [hdrop] at h
    refine ⟨rest, eq_append_of_dropPrefix? hdrop, fun hword c hc => ?_⟩
    obtain ⟨rest, rfl⟩ := List.head?_eq_some_iff.mp hc
    simpa [hword] using h

/-- An odd number of backslashes is one more than an even number of them. -/
theorem exists_of_endsOdd {x : List Char} (h : endsOdd false x) :
    ∃ w, x = w ++ ['\\'] ∧ endsOdd false w = false := by
  rcases List.eq_nil_or_concat x with rfl | ⟨w, d, rfl⟩
  · exact absurd h (by decide)
  · rw [List.concat_eq_append, endsOdd_append] at h
    obtain ⟨rfl, hw⟩ : d = '\\' ∧ endsOdd false w = false := by simpa [endsOdd] using h
    exact ⟨w, List.concat_eq_append, hw⟩

/-- What is found at a place of a coded text. -/
theorem isCoded_at {x y : List Char} {c : Char} (h : isCoded bare final odd (x ++ c :: y))
    (hx : endsOdd odd x = false) :
    (c = '\\' → ∃ n ∈ vocabulary, isLedBy final (c :: y) n) ∧ (c ∈ reserved → c ∈ bare) := by
  induction x generalizing odd with
  | nil =>
    obtain rfl : odd = false := hx
    rw [List.nil_append, isCoded, Bool.false_or, Bool.and_eq_true] at h
    refine ⟨fun hback => ?_, fun hc => ?_⟩
    · simpa only [if_pos hback, List.any_eq_true] using h.1
    · have hback : c ≠ '\\' := by
        rintro rfl
        exact absurd hc (by decide)
      simpa [hback, hc] using h.1
  | cons d x ih =>
    rw [List.cons_append, isCoded, Bool.and_eq_true] at h
    exact ih h.2 hx

/-- A reserved character that is bare neither in the first nor in the last of three texts is in the
one between them. -/
theorem exists_in_middle {front middle back x y : List Char} {c : Char}
    (hfront : isCoded [] true false front) (hfrontEven : endsOdd false front = false)
    (hmiddleEven : endsOdd false middle = false) (hback : isCoded [] true false back)
    (hparts : front ++ (middle ++ back) = x ++ c :: y) (hx : endsOdd false x = false) (hc : c ∈ reserved) :
    ∃ t t', x = front ++ t ∧ c :: y = t' ++ back ∧ t' ≠ [] ∧ t ++ t' = middle := by
  have hbehind : ∀ t, x = front ++ t → middle ++ back = t ++ c :: y →
      ∃ t t', x = front ++ t ∧ c :: y = t' ++ back ∧ t' ≠ [] ∧ t ++ t' = middle := by
    intro t ht hrest
    rcases List.append_eq_append_iff.mp hrest with ⟨z, htz, hz⟩ | ⟨t', htt', hz⟩
    · have hzEven : endsOdd false z = false := by
        rwa [ht, htz, endsOdd_append, hfrontEven, endsOdd_append, hmiddleEven] at hx
      rw [hz] at hback
      exact absurd ((isCoded_at hback hzEven).2 hc) List.not_mem_nil
    · refine ⟨t, t', ht, hz, ?_, htt'.symm⟩
      rintro rfl
      rw [List.nil_append] at hz
      rw [← hz] at hback
      exact absurd ((isCoded_at (x := []) hback rfl).2 hc) List.not_mem_nil
  rcases List.append_eq_append_iff.mp hparts with ⟨t, ht, hrest⟩ | ⟨w, hw, hrest⟩
  · exact hbehind t ht hrest
  · cases w with
    | nil => exact hbehind [] (by simpa using hw.symm) hrest.symm
    | cons d w =>
      obtain ⟨rfl, -⟩ := List.cons.inj hrest
      rw [hw] at hfront
      exact absurd ((isCoded_at hfront hx).2 hc) List.not_mem_nil

/-- How often a character stands bare in a text. -/
def countBare (c : Char) : Bool → List Char → Nat
  | _, [] => 0
  | odd, d :: cs => (if odd = false ∧ d = c then 1 else 0) + countBare c (d = '\\' && !odd) cs

theorem countBare_append (c : Char) (odd : Bool) (a b : List Char) :
    countBare c odd (a ++ b) = countBare c odd a + countBare c (endsOdd odd a) b := by
  induction a generalizing odd with
  | nil => simp [countBare, endsOdd]
  | cons d a ih => simp only [List.cons_append, countBare, endsOdd, ih]; omega

theorem mem_of_countBare_ne_zero {c : Char} (h : countBare c odd a ≠ 0) : c ∈ a := by
  induction a generalizing odd with
  | nil => exact absurd rfl h
  | cons d a ih =>
    rw [countBare] at h
    split at h
    · rename_i hd
      rw [hd.2]
      exact List.mem_cons_self
    · rw [Nat.zero_add] at h
      exact List.mem_cons_of_mem _ (ih h)

/-- A reserved character that may not be bare is not. -/
theorem countBare_eq_zero {c : Char} (h : isCoded bare final odd a) (hc : c ∈ reserved) (hbare : c ∉ bare) :
    countBare c odd a = 0 := by
  induction a generalizing odd with
  | nil => rfl
  | cons d a ih =>
    have hd : ¬ (odd = false ∧ d = c) := by
      rintro ⟨rfl, rfl⟩
      exact hbare ((isCoded_at (x := []) h rfl).2 hc)
    rw [isCoded, Bool.and_eq_true] at h
    rw [countBare, if_neg hd, ih h.2]

end Vitae.Latex
