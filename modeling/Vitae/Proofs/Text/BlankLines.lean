import Vitae.Proofs.Text.Lines
import Vitae.Text.BlankLines

/-!
# What limiting blank lines leaves alone

The limit only acts on stretches of blanks that begin with a line feed, and what it puts
there instead ends with the indentation of the line that follows. So the lines that show
something stay as they are, in order (`shownLines_limitBlankLines`). The induction
follows the stretch that is being read; beside the lines that show something it keeps
the first line, blank or not, since the text before may go on in it (`SameLines`).
-/

namespace Vitae.Text

/-- The lines that show something. -/
def shownLines (ls : List (List Char)) : List (List Char) := ls.filter fun l => !isBlankChars l

@[simp] theorem shownLines_append (a b : List (List Char)) :
    shownLines (a ++ b) = shownLines a ++ shownLines b := List.filter_append ..

/-- Every line of blanks is blank. -/
theorem shownLines_splitChars_of_blank {cs : List Char} (h : ∀ c ∈ cs, isBlank c) :
    shownLines (splitChars '\n' cs) = [] := by
  rw [shownLines, List.filter_eq_nil_iff]
  intro l hl
  have hmem : ∀ c ∈ l, c ∈ cs := fun c hc => by
    rw [← intercalate_splitChars '\n' cs]
    exact mem_intercalate_of_mem hl hc
  simpa [isBlankChars] using fun c hc => h c (hmem c hc)

/-- Lines that begin with the same line, and agree after it on what shows something. -/
def SameLines (a b : List (List Char)) : Prop :=
  a.head? = b.head? ∧ shownLines a.tail = shownLines b.tail

theorem SameLines.refl (a : List (List Char)) : SameLines a a := ⟨rfl, rfl⟩

theorem SameLines.shownLines_eq {a b : List (List Char)} (h : SameLines a b) :
    shownLines a = shownLines b := by
  obtain ⟨hh, ht⟩ := h
  cases a with
  | nil => cases b with
    | nil => rfl
    | cons y b => simp at hh
  | cons x a => cases b with
    | nil => simp at hh
    | cons y b =>
      obtain rfl : x = y := by simpa using hh
      have ht : shownLines a = shownLines b := ht
      rw [← List.singleton_append, shownLines_append, ht, ← shownLines_append, List.singleton_append]

/-- More text in front of the first line. -/
theorem SameLines.prepend {a b : List Char} (u : List Char) (hu : '\n' ∉ u)
    (h : SameLines (splitChars '\n' a) (splitChars '\n' b)) :
    SameLines (splitChars '\n' (u ++ a)) (splitChars '\n' (u ++ b)) := by
  obtain ⟨x, xs, hx, hux⟩ := exists_splitChars_append hu a
  obtain ⟨y, ys, hy, huy⟩ := exists_splitChars_append hu b
  rw [hx, hy] at h
  rw [hux, huy]
  obtain ⟨hh, ht⟩ := h
  obtain rfl : x = y := by simpa using hh
  exact ⟨rfl, ht⟩

/-- Blank lines in front, other ones on each side. -/
theorem SameLines.replaceBlank {a b u v : List Char} (hu : ∀ c ∈ u, isBlank c) (hv : ∀ c ∈ v, isBlank c)
    (hhu : ∀ c ∈ u.head?, c = '\n') (hhv : ∀ c ∈ v.head?, c = '\n')
    (h : shownLines (splitChars '\n' a) = shownLines (splitChars '\n' b)) :
    SameLines (splitChars '\n' (u ++ '\n' :: a)) (splitChars '\n' (v ++ '\n' :: b)) := by
  have key : ∀ w : List Char, (∀ c ∈ w, isBlank c) → (∀ c ∈ w.head?, c = '\n') →
      ∃ ps, splitChars '\n' w = [] :: ps ∧ shownLines ps = [] := by
    intro w hw hhw
    cases w with
    | nil => exact ⟨[], rfl, rfl⟩
    | cons c w =>
      obtain rfl : c = '\n' := hhw c rfl
      exact ⟨_, splitChars_cons_self w,
        shownLines_splitChars_of_blank fun d hd => hw d (List.mem_cons_of_mem _ hd)⟩
  obtain ⟨ps, hps, hp⟩ := key u hu hhu
  obtain ⟨qs, hqs, hq⟩ := key v hv hhv
  rw [splitChars_append_cons, splitChars_append_cons, hps, hqs]
  refine ⟨rfl, ?_⟩
  simp only [List.cons_append, List.tail_cons, shownLines_append, hp, hq, h]

/-! ### Stretches -/

/-- A stretch of blanks that begins with a line feed. -/
structure IsGap (gap : List Char) : Prop where
  /-- It holds blanks only. -/
  blank : ∀ c ∈ gap, isBlank c
  /-- It begins with a line feed. -/
  feed : ∃ rest, gap = '\n' :: rest

/-- A text with a line feed ends with its last line feed and what stands after it. -/
theorem exists_eq_append_afterLastFeed {cs : List Char} (h : '\n' ∈ cs) :
    ∃ pre, cs = pre ++ '\n' :: afterLastFeed cs ∧ '\n' ∉ afterLastFeed cs := by
  induction cs with
  | nil => simp at h
  | cons c cs ih =>
    by_cases hc : '\n' ∈ cs
    · obtain ⟨pre, hpre, hnot⟩ := ih hc
      have : afterLastFeed (c :: cs) = afterLastFeed cs := by simp [afterLastFeed, hc]
      exact ⟨c :: pre, by rw [this, List.cons_append, ← hpre], by rwa [this]⟩
    · obtain rfl : '\n' = c := by simpa [hc] using h
      have : afterLastFeed ('\n' :: cs) = cs := by simp [afterLastFeed, hc]
      exact ⟨[], by rw [this]; rfl, by rwa [this]⟩

/-- A stretch and what becomes of it: blank lines, and then the same indentation. -/
theorem IsGap.limit {most : Int} (hm : 0 ≤ most) {gap : List Char} (h : IsGap gap) :
    ∃ u v i, gap = v ++ '\n' :: i ∧ limitGap most gap = u ++ '\n' :: i ∧ '\n' ∉ i ∧
      (∀ c ∈ u, isBlank c) ∧ (∀ c ∈ v, isBlank c) ∧
      (∀ c ∈ u.head?, c = '\n') ∧ ∀ c ∈ v.head?, c = '\n' := by
  obtain ⟨rest, hrest⟩ := h.feed
  have hfeed : '\n' ∈ gap := by rw [hrest]; exact List.mem_cons_self
  obtain ⟨v, hv, hi⟩ := exists_eq_append_afterLastFeed hfeed
  have hblank : ∀ c ∈ v, isBlank c := fun c hc => h.blank c (by rw [hv]; simp [hc])
  have hhead : ∀ c ∈ v.head?, c = '\n' := by
    cases v with
    | nil => simp
    | cons d v =>
      have : d = '\n' := by
        have := hv.symm.trans hrest
        simpa using congrArg List.head? this
      simp [this]
  by_cases hcount : gap.count '\n' < gapThreshold most
  · exact ⟨v, v, _, hv, by rw [limitGap, if_pos hcount]; exact hv, hi, hblank, hblank, hhead, hhead⟩
  · obtain ⟨k, hk⟩ : ∃ k : Nat, (most + 1).toNat = k + 1 := ⟨most.toNat, by omega⟩
    refine ⟨List.replicate k '\n', v, _, hv, ?_, hi, ?_, hblank, ?_, hhead⟩
    · rw [limitGap, if_neg hcount, hk, List.replicate_succ', List.append_assoc]; rfl
    · intro c hc
      rw [(List.mem_replicate.mp hc).2]; decide
    · intro c hc
      exact (List.mem_replicate.mp (List.mem_of_mem_head? hc)).2

/-- A stretch in front of a text, and what becomes of it. -/
theorem IsGap.sameLines {most : Int} (hm : 0 ≤ most) {gap : List Char} (h : IsGap gap) {a b : List Char}
    (hab : SameLines (splitChars '\n' a) (splitChars '\n' b)) :
    SameLines (splitChars '\n' (limitGap most gap ++ a)) (splitChars '\n' (gap ++ b)) := by
  obtain ⟨u, v, i, hv, hu, hi, hbu, hbv, hhu, hhv⟩ := h.limit hm
  rw [hu, hv, List.append_assoc, List.append_assoc, List.cons_append, List.cons_append]
  exact .replaceBlank hbu hbv hhu hhv (hab.prepend i hi).shownLines_eq

theorem limitGap_nil (most : Int) : limitGap most [] = [] := by
  have : 0 < gapThreshold most := by unfold gapThreshold; split <;> decide
  simp [limitGap, this]

/-- A stretch goes on with a blank, and begins with a line feed. -/
theorem isGap_cons {gap : List Char} (hg : gap = [] ∨ IsGap gap.reverse) {c : Char}
    (hc : c = '\n' || (isBlank c && !gap.isEmpty)) : IsGap (c :: gap).reverse := by
  rcases hg with rfl | hg
  · obtain rfl : c = '\n' := by simpa using hc
    exact ⟨List.forall_mem_singleton.mpr (by decide), [], rfl⟩
  · obtain ⟨rest, hrest⟩ := hg.feed
    refine ⟨?_, rest ++ [c], by rw [List.reverse_cons, hrest]; rfl⟩
    intro d hd
    rw [List.reverse_cons, List.mem_append, List.mem_singleton] at hd
    rcases hd with hd | rfl
    · exact hg.blank d hd
    · rcases (by simpa using hc : d = '\n' ∨ isBlank d = true ∧ ¬gap = []) with rfl | hd
      · decide
      · exact hd.1

/-- Limiting keeps the lines, as `SameLines` says. The induction is on the text that is
left; `gap` is the stretch that is being read. -/
theorem sameLines_limitFrom {most : Int} (hm : 0 ≤ most) (cs : List Char) {gap : List Char}
    (hg : gap = [] ∨ IsGap gap.reverse) :
    SameLines (splitChars '\n' (limitFrom most gap cs)) (splitChars '\n' (gap.reverse ++ cs)) := by
  induction cs generalizing gap with
  | nil =>
    rw [limitFrom]
    rcases hg with rfl | hg
    · rw [List.reverse_nil, limitGap_nil]; exact .refl _
    · simpa using hg.sameLines hm (.refl (splitChars '\n' []))
  | cons c cs ih =>
    rw [limitFrom]
    split
    · rename_i hgoes
      simpa using ih (.inr (isGap_cons hg hgoes))
    · rename_i hends
      have hne : c ≠ '\n' := by rintro rfl; simp at hends
      have hcons : SameLines (splitChars '\n' (c :: limitFrom most [] cs)) (splitChars '\n' (c :: cs)) :=
        .prepend [c] (by simpa using Ne.symm hne) (ih (.inl rfl))
      rcases hg with rfl | hg
      · rw [List.reverse_nil, limitGap_nil]; exact hcons
      · exact hg.sameLines hm hcons

/-- The lines that show something stay as they are. -/
theorem shownLines_limitBlankLines {most : Int} (hm : 0 ≤ most) (cs : List Char) :
    shownLines (splitChars '\n' (limitBlankLinesChars most cs)) = shownLines (splitChars '\n' cs) :=
  (sameLines_limitFrom hm cs (.inl rfl)).shownLines_eq

/-! ### The end of the text -/

/-- A stretch that ends with a line feed still does, since no indentation is behind that line feed. -/
theorem IsGap.limit_concat {most : Int} (hm : 0 ≤ most) {gap : List Char} (h : IsGap (gap ++ ['\n'])) :
    ∃ u, limitGap most (gap ++ ['\n']) = u ++ ['\n'] := by
  obtain ⟨u, v, i, hv, hu, hi, -⟩ := h.limit hm
  rcases List.eq_nil_or_concat i with rfl | ⟨i, d, rfl⟩
  · exact ⟨u, hu⟩
  · have hsplit : gap ++ ['\n'] = (v ++ '\n' :: i) ++ [d] := by rw [hv]; simp
    obtain ⟨-, hd⟩ := List.append_inj' hsplit rfl
    obtain rfl : '\n' = d := (List.cons.inj hd).1
    exact absurd (by simp) hi

/-- A text that ends with a line feed, or in what shows something, still does. -/
theorem exists_limitFrom_concat {most : Int} (hm : 0 ≤ most) {c : Char} (hc : c = '\n' ∨ isBlank c = false)
    (cs : List Char) {gap : List Char} (hg : gap = [] ∨ IsGap gap.reverse) :
    ∃ u, limitFrom most gap (cs ++ [c]) = u ++ [c] := by
  induction cs generalizing gap with
  | nil =>
    rw [List.nil_append, limitFrom]
    split
    · rename_i hgoes
      have hgap := isGap_cons hg hgoes
      obtain rfl : c = '\n' := by
        rcases hc with rfl | hc
        · rfl
        · simpa [hc] using hgoes
      rw [limitFrom, List.reverse_cons]
      rw [List.reverse_cons] at hgap
      exact hgap.limit_concat hm
    · exact ⟨limitGap most gap.reverse, by rw [limitFrom, List.reverse_nil, limitGap_nil]⟩
  | cons d cs ih =>
    rw [List.cons_append, limitFrom]
    split
    · rename_i hgoes
      exact ih (.inr (isGap_cons hg hgoes))
    · obtain ⟨u, hu⟩ := ih (.inl rfl)
      exact ⟨limitGap most gap.reverse ++ d :: u, by rw [hu, List.append_assoc, List.cons_append]⟩

/-! ### The characters of the text -/

theorem mem_of_mem_afterLastFeed {c : Char} {cs : List Char} (h : c ∈ afterLastFeed cs) : c ∈ cs := by
  induction cs with
  | nil => exact h
  | cons d cs ih =>
    rw [afterLastFeed] at h
    split at h
    · exact List.mem_cons_of_mem _ (ih h)
    · split at h
      · exact List.mem_cons_of_mem _ h
      · exact h

theorem mem_of_mem_limitGap {most : Int} {c : Char} {gap : List Char} (h : c ∈ limitGap most gap) :
    c = '\n' ∨ c ∈ gap := by
  rw [limitGap] at h
  split at h
  · exact .inr h
  · rcases List.mem_append.mp h with h | h
    · exact .inl (List.mem_replicate.mp h).2
    · exact .inr (mem_of_mem_afterLastFeed h)

theorem mem_of_mem_limitFrom {most : Int} {c : Char} {gap cs : List Char} (h : c ∈ limitFrom most gap cs) :
    c = '\n' ∨ c ∈ gap ∨ c ∈ cs := by
  induction cs generalizing gap with
  | nil =>
    rw [limitFrom] at h
    exact (mem_of_mem_limitGap h).imp id fun h => .inl (List.mem_reverse.mp h)
  | cons d cs ih =>
    rw [limitFrom] at h
    split at h
    · rcases ih h with h | h | h
      · exact .inl h
      · exact .inr ((List.mem_cons.mp h).elim (fun h => .inr (h ▸ List.mem_cons_self)) .inl)
      · exact .inr (.inr (List.mem_cons_of_mem _ h))
    · rcases List.mem_append.mp h with h | h
      · exact (mem_of_mem_limitGap h).imp id fun h => .inl (List.mem_reverse.mp h)
      · rcases List.mem_cons.mp h with rfl | h
        · exact .inr (.inr List.mem_cons_self)
        · rcases ih h with h | h | h
          · exact .inl h
          · exact absurd h List.not_mem_nil
          · exact .inr (.inr (List.mem_cons_of_mem _ h))

/-- Limiting blank lines puts in nothing but line feeds. -/
theorem mem_of_mem_limitBlankLinesChars {most : Int} {c : Char} {cs : List Char}
    (h : c ∈ limitBlankLinesChars most cs) : c = '\n' ∨ c ∈ cs := by
  rcases mem_of_mem_limitFrom h with h | h | h
  · exact .inl h
  · exact absurd h List.not_mem_nil
  · exact .inr h

end Vitae.Text
