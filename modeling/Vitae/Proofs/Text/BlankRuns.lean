import Vitae.Proofs.Text.BlankLines

/-!
# Runs of blank lines

Between two lines of a text that show something stands a run of blank lines (`innerRuns`), which
may be empty; there is one more run in front of the first and one behind the last of these lines
(`outerRuns`). The limit does not see lines, but the line feeds between two characters that show
something (`feedsFrom`): it replaces each of these numbers by one that depends on it alone
(`feedsFrom_limitFrom`). A run of `n` lines between two lines stands for `n + 1` line feeds
(`runsFrom_splitChars`), so the limit acts on each run by itself (`innerRuns_limitBlankLinesChars`).

What is limited once has nothing left to limit (`limitBlankLines_limitBlankLines`).
-/

namespace Vitae.Text

/-! ### Runs of lines -/

/-- The lengths of the runs of blank lines: one in front of each line that shows something, and one
at the end. `n` blank lines have been read since the last line that shows something. -/
def runsFrom (n : Nat) : List (List Char) → List Nat
  | [] => [n]
  | l :: ls => if isBlankChars l then runsFrom (n + 1) ls else n :: runsFrom 0 ls

/-- The lengths of the runs between two lines that show something, in order. -/
def innerRuns (ls : List (List Char)) : List Nat := (runsFrom 0 ls).tail.dropLast

/-- The lengths of the runs in front of the first and behind the last line that shows something. -/
def outerRuns (ls : List (List Char)) : List Nat :=
  (runsFrom 0 ls).head?.toList ++ (runsFrom 0 ls).getLast?.toList

/-! ### Line feeds between characters -/

/-- The numbers of line feeds in front of each character that shows something, counted from the one
before it, and at the end. `n` line feeds have been read since the last such character. -/
def feedsFrom (n : Nat) : List Char → List Nat
  | [] => [n]
  | c :: cs => if isBlank c then feedsFrom (if c = '\n' then n + 1 else n) cs else n :: feedsFrom 0 cs

theorem exists_feedsFrom (cs : List Char) : ∃ f fs, ∀ n, feedsFrom n cs = (n + f) :: fs := by
  induction cs with
  | nil => exact ⟨0, [], fun n => rfl⟩
  | cons c cs ih =>
    obtain ⟨f, fs, h⟩ := ih
    by_cases hc : isBlank c = true
    · by_cases hfeed : c = '\n'
      · exact ⟨1 + f, fs, fun n => by rw [feedsFrom, if_pos hc, if_pos hfeed, h, Nat.add_assoc]⟩
      · exact ⟨f, fs, fun n => by rw [feedsFrom, if_pos hc, if_neg hfeed, h]⟩
    · exact ⟨0, feedsFrom 0 cs, fun n => by rw [feedsFrom, if_neg hc, Nat.add_zero]⟩

/-- Blanks in front count by their line feeds. -/
theorem feedsFrom_append_of_blank {u : List Char} (hu : ∀ c ∈ u, isBlank c) (n : Nat) (cs : List Char) :
    feedsFrom n (u ++ cs) = feedsFrom (n + u.count '\n') cs := by
  induction u generalizing n with
  | nil => rfl
  | cons c u ih =>
    obtain ⟨hc, hu⟩ := List.forall_mem_cons.mp hu
    rw [List.cons_append, feedsFrom, if_pos hc, ih hu, List.count_cons]
    by_cases hfeed : c = '\n'
    · subst hfeed
      rw [if_pos rfl, if_pos (beq_self_eq_true '\n'), Nat.add_assoc, Nat.add_comm 1]
    · simp [hfeed]

/-! ### From line feeds to runs -/

/-- The runs behind a line that shows something, from the numbers of line feeds that follow it. A
character without a line feed in front of it is on the same line. -/
def runsBehind : List Nat → List Nat
  | [] => []
  | [f] => [f]
  | f :: g :: fs => if f = 0 then runsBehind (g :: fs) else (f - 1) :: runsBehind (g :: fs)

/-- The runs of a text, from its numbers of line feeds. -/
def runsOf : List Nat → List Nat
  | [] => []
  | [f] => [f + 1]
  | f :: g :: fs => f :: runsBehind (g :: fs)

/-- The runs of a text, and those behind its first line if that shows something already. The
induction needs both, since a text may go on in the line that has been begun: a line feed ends that line,
a blank leaves it as blank as it was, and any other character makes it one that shows something. -/
theorem runsFrom_splitChars_aux (cs : List Char) :
    (∀ n, runsFrom n (splitChars '\n' cs) = runsOf (feedsFrom n cs)) ∧
      runsFrom 0 (splitChars '\n' cs).tail = runsBehind (feedsFrom 0 cs) := by
  induction cs with
  | nil => exact ⟨fun n => rfl, rfl⟩
  | cons c cs ih =>
    obtain ⟨hfirst, hbehind⟩ := ih
    obtain ⟨f, fs, hfeeds⟩ := exists_feedsFrom cs
    by_cases hfeed : c = '\n'
    · subst hfeed
      have hcons : ∀ n, feedsFrom n ('\n' :: cs) = feedsFrom (n + 1) cs := fun n => rfl
      rw [splitChars_cons_self]
      refine ⟨fun n => ?_, ?_⟩
      · rw [hcons, ← hfirst]
        rfl
      · rw [List.tail_cons, hfirst, hcons, hfeeds, hfeeds, Nat.zero_add, Nat.add_comm 1 f]
        cases fs with
        | nil => rfl
        | cons g fs => rw [runsOf, runsBehind, if_neg (Nat.succ_ne_zero f), Nat.add_sub_cancel]
    · obtain ⟨p, ps, hp, hcp⟩ := exists_splitChars_cons hfeed cs
      rw [hp] at hfirst hbehind
      rw [hcp]
      by_cases hc : isBlank c = true
      · have hcons : ∀ n, feedsFrom n (c :: cs) = feedsFrom n cs := fun n => by
          rw [feedsFrom, if_pos hc, if_neg hfeed]
        have hline : isBlankChars (c :: p) = isBlankChars p := by simp [isBlankChars, hc]
        refine ⟨fun n => ?_, ?_⟩
        · rw [hcons, ← hfirst, runsFrom, runsFrom, hline]
        · rw [hcons]
          exact hbehind
      · have hcons : ∀ n, feedsFrom n (c :: cs) = n :: feedsFrom 0 cs := fun n => by
          rw [feedsFrom, if_neg hc]
        have hline : ¬ isBlankChars (c :: p) = true := by simp [isBlankChars, hc]
        have hbehind : runsFrom 0 ps = runsBehind (feedsFrom 0 cs) := hbehind
        refine ⟨fun n => ?_, ?_⟩
        · rw [hcons, runsFrom, if_neg hline, hbehind, hfeeds]
          rfl
        · rw [hcons, List.tail_cons, hbehind, hfeeds]
          rfl

theorem runsFrom_splitChars (cs : List Char) : runsFrom 0 (splitChars '\n' cs) = runsOf (feedsFrom 0 cs) :=
  (runsFrom_splitChars_aux cs).1 0

theorem runsBehind_ne_nil (f : Nat) (fs : List Nat) : runsBehind (f :: fs) ≠ [] := by
  induction fs generalizing f with
  | nil => simp [runsBehind]
  | cons g fs ih =>
    rw [runsBehind]
    split
    · exact ih g
    · simp

theorem dropLast_runsBehind (fs : List Nat) :
    (runsBehind fs).dropLast = (fs.dropLast.filter (· ≠ 0)).map (· - 1) := by
  match fs with
  | [] => rfl
  | [f] => rfl
  | f :: g :: fs =>
    have ih := dropLast_runsBehind (g :: fs)
    rw [runsBehind, List.dropLast_cons_of_ne_nil (List.cons_ne_nil g fs)]
    split
    · rename_i hf
      rw [ih, List.filter_cons_of_neg (by simpa using hf)]
    · rename_i hf
      rw [List.dropLast_cons_of_ne_nil (runsBehind_ne_nil g fs), ih,
        List.filter_cons_of_pos (by simpa using hf), List.map_cons]

theorem getLast?_runsBehind (fs : List Nat) : (runsBehind fs).getLast? = fs.getLast? := by
  match fs with
  | [] => rfl
  | [f] => rfl
  | f :: g :: fs =>
    have ih := getLast?_runsBehind (g :: fs)
    rw [runsBehind, List.getLast?_cons_cons, ← ih]
    split
    · rfl
    · obtain ⟨r, rs, hr⟩ := List.exists_cons_of_ne_nil (runsBehind_ne_nil g fs)
      rw [hr, List.getLast?_cons_cons]

/-- The runs between two lines are read off the line feeds between two characters. -/
theorem innerRuns_splitChars (cs : List Char) :
    innerRuns (splitChars '\n' cs) = ((feedsFrom 0 cs).tail.dropLast.filter (· ≠ 0)).map (· - 1) := by
  rw [innerRuns, runsFrom_splitChars]
  match feedsFrom 0 cs with
  | [] => rfl
  | [f] => rfl
  | f :: g :: fs => exact dropLast_runsBehind (g :: fs)

/-! ### Limiting -/

/-- What the limit makes of a stretch with `n` line feeds. -/
def limitFeeds (most : Int) (n : Nat) : Nat := if n < gapThreshold most then n else (most + 1).toNat

variable {most : Int}

theorem gapThreshold_pos (most : Int) : 0 < gapThreshold most := by
  unfold gapThreshold
  split <;> decide

theorem limitFeeds_zero (most : Int) : limitFeeds most 0 = 0 := if_pos (gapThreshold_pos most)

theorem limitFeeds_eq_zero_iff (hm : 0 ≤ most) {n : Nat} : limitFeeds most n = 0 ↔ n = 0 := by
  have := gapThreshold_pos most
  rw [limitFeeds]
  split <;> omega

theorem count_limitGap (most : Int) (gap : List Char) :
    (limitGap most gap).count '\n' = limitFeeds most (gap.count '\n') := by
  rw [limitGap, limitFeeds]
  split
  · rfl
  · rename_i hcount
    have hfeed : '\n' ∈ gap := List.count_pos_iff.mp (by have := gapThreshold_pos most; omega)
    obtain ⟨-, -, hnone⟩ := exists_eq_append_afterLastFeed hfeed
    rw [List.count_append, List.count_replicate_self, List.count_eq_zero.mpr hnone, Nat.add_zero]

theorem isBlank_of_mem_limitGap {gap : List Char} (hgap : ∀ c ∈ gap, isBlank c) :
    ∀ c ∈ limitGap most gap, isBlank c := by
  intro c hc
  rcases mem_of_mem_limitGap hc with rfl | hc
  · decide
  · exact hgap c hc

theorem isBlank_of_isGap {gap : List Char} (hg : gap = [] ∨ IsGap gap.reverse) : ∀ c ∈ gap.reverse, isBlank c := by
  rcases hg with rfl | hg
  · simp
  · exact hg.blank

/-- A stretch at the front of a text, once it is limited. -/
theorem feedsFrom_limitGap {gap : List Char} (hg : gap = [] ∨ IsGap gap.reverse) (cs : List Char) :
    feedsFrom 0 (limitGap most gap.reverse ++ cs) = feedsFrom (limitFeeds most (gap.count '\n')) cs := by
  rw [feedsFrom_append_of_blank (isBlank_of_mem_limitGap (isBlank_of_isGap hg)), Nat.zero_add, count_limitGap,
    List.count_reverse]

/-- The limit replaces each number of line feeds on its own. The induction is on the text that is left;
`gap` is the stretch that is being read. It goes on with line feeds and with the blanks behind them, and
a blank outside of a stretch is not part of any. -/
theorem feedsFrom_limitFrom (cs : List Char) {gap : List Char} (hg : gap = [] ∨ IsGap gap.reverse) :
    feedsFrom 0 (limitFrom most gap cs) = (feedsFrom (gap.count '\n') cs).map (limitFeeds most) := by
  induction cs generalizing gap with
  | nil =>
    rw [limitFrom, ← List.append_nil (limitGap most gap.reverse), feedsFrom_limitGap hg]
    rfl
  | cons c cs ih =>
    rw [limitFrom, feedsFrom]
    split
    · rename_i hgoes
      have hgap := isGap_cons hg hgoes
      have hc : isBlank c = true := hgap.blank c (by simp)
      have hcount : (c :: gap).count '\n' = if c = '\n' then gap.count '\n' + 1 else gap.count '\n' := by
        rw [List.count_cons]
        by_cases hfeed : c = '\n' <;> simp [hfeed]
      rw [ih (.inr hgap), if_pos hc, hcount]
    · rename_i hends
      have hfeed : c ≠ '\n' := by rintro rfl; simp at hends
      rw [feedsFrom_limitGap hg, feedsFrom]
      split
      · rename_i hblank
        obtain rfl : gap = [] := by simpa [hfeed, hblank] using hends
        rw [List.count_nil, limitFeeds_zero]
        exact ih (.inl rfl)
      · rw [List.map_cons, ih (.inl rfl), List.count_nil]

theorem feedsFrom_limitBlankLinesChars (cs : List Char) :
    feedsFrom 0 (limitBlankLinesChars most cs) = (feedsFrom 0 cs).map (limitFeeds most) :=
  feedsFrom_limitFrom cs (.inl rfl)

/-- The limit acts on each run of blank lines between two lines by itself. -/
theorem innerRuns_limitBlankLinesChars (hm : 0 ≤ most) (cs : List Char) :
    innerRuns (splitChars '\n' (limitBlankLinesChars most cs)) =
      (innerRuns (splitChars '\n' cs)).map fun n => limitFeeds most (n + 1) - 1 := by
  have hzero : ((fun f => decide (f ≠ 0)) ∘ limitFeeds most) = fun f => decide (f ≠ 0) := by
    funext f
    simp [limitFeeds_eq_zero_iff hm]
  rw [innerRuns_splitChars, innerRuns_splitChars, feedsFrom_limitBlankLinesChars, ← List.map_tail,
    ← List.map_dropLast, List.filter_map, hzero, List.map_map, List.map_map]
  refine List.map_congr_left fun f hf => ?_
  have hpos : f ≠ 0 := by simpa using (List.mem_filter.mp hf).2
  simp only [Function.comp_apply, Nat.sub_add_cancel (Nat.pos_of_ne_zero hpos)]

/-! ### Limiting once more -/

theorem afterLastFeed_append_cons {i : List Char} (hi : '\n' ∉ i) (u : List Char) :
    afterLastFeed (u ++ '\n' :: i) = i := by
  induction u with
  | nil => simp [afterLastFeed, hi]
  | cons c u ih => simpa [afterLastFeed] using ih

theorem limitGap_limitGap (hm : 0 ≤ most) (gap : List Char) :
    limitGap most (limitGap most gap) = limitGap most gap := by
  by_cases hcount : (limitGap most gap).count '\n' < gapThreshold most
  · rw [limitGap, if_pos hcount]
  · have hgap : ¬ gap.count '\n' < gapThreshold most := by
      intro h
      rw [limitGap, if_pos h] at hcount
      exact hcount h
    have hfeed : '\n' ∈ gap := List.count_pos_iff.mp (by have := gapThreshold_pos most; omega)
    obtain ⟨-, -, hnone⟩ := exists_eq_append_afterLastFeed hfeed
    obtain ⟨k, hk⟩ : ∃ k : Nat, (most + 1).toNat = k + 1 := ⟨most.toNat, by omega⟩
    have hlimited : limitGap most gap = List.replicate k '\n' ++ '\n' :: afterLastFeed gap := by
      rw [limitGap, if_neg hgap, hk, List.replicate_succ', List.append_assoc]
      rfl
    conv_lhs => rw [limitGap, if_neg hcount, hlimited, afterLastFeed_append_cons hnone, hk,
      List.replicate_succ', List.append_assoc]
    rw [hlimited]
    rfl

/-- A stretch that is limited is a stretch still. -/
theorem IsGap.limitGap (hm : 0 ≤ most) {gap : List Char} (h : IsGap gap) : IsGap (limitGap most gap) := by
  refine ⟨isBlank_of_mem_limitGap h.blank, ?_⟩
  obtain ⟨u, v, i, -, hu, -, -, -, hhead, -⟩ := h.limit hm
  rw [hu]
  cases u with
  | nil => exact ⟨i, rfl⟩
  | cons c u =>
    obtain rfl : c = '\n' := hhead c rfl
    exact ⟨u ++ '\n' :: i, rfl⟩

/-- A stretch that is being read takes in the blanks that follow. -/
theorem limitFrom_append_of_blank {u : List Char} (hu : ∀ c ∈ u, isBlank c) {gap : List Char} (hgap : gap ≠ [])
    (cs : List Char) : limitFrom most gap (u ++ cs) = limitFrom most (u.reverse ++ gap) cs := by
  induction u generalizing gap with
  | nil => rfl
  | cons c u ih =>
    obtain ⟨hc, hu⟩ := List.forall_mem_cons.mp hu
    have hgoes : (c = '\n' || (isBlank c && !gap.isEmpty)) = true := by simp [hc, hgap]
    rw [List.cons_append, limitFrom, if_pos hgoes, ih hu (List.cons_ne_nil c gap), List.reverse_cons,
      List.append_assoc, List.singleton_append]

/-- A stretch at the front of a text is limited on its own, if the text goes on with no blank. -/
theorem limitFrom_append_of_isGap {gap : List Char} (hg : IsGap gap) {cs : List Char}
    (hcs : ∀ c ∈ cs.head?, isBlank c = false) :
    limitFrom most [] (gap ++ cs) = limitGap most gap ++ limitFrom most [] cs := by
  obtain ⟨rest, rfl⟩ := hg.feed
  have hrest : ∀ c ∈ rest, isBlank c := fun c hc => hg.blank c (List.mem_cons_of_mem _ hc)
  have hread : limitFrom most [] ('\n' :: rest ++ cs) = limitFrom most ('\n' :: rest).reverse cs := by
    rw [List.cons_append, limitFrom, if_pos (by simp), limitFrom_append_of_blank hrest (List.cons_ne_nil _ _),
      List.reverse_cons]
  rw [hread]
  cases cs with
  | nil => rw [limitFrom, limitFrom, List.reverse_reverse, List.reverse_nil, limitGap_nil, List.append_nil]
  | cons c cs =>
    have hc : isBlank c = false := hcs c rfl
    have hfeed : c ≠ '\n' := by rintro rfl; exact absurd hc (by decide)
    have hends : ∀ gap : List Char, ¬ (c = '\n' || (isBlank c && !gap.isEmpty)) = true := by simp [hc, hfeed]
    rw [limitFrom, limitFrom, if_neg (hends _), if_neg (hends _), List.reverse_reverse, List.reverse_nil,
      limitGap_nil, List.nil_append]

theorem limitFrom_limitFrom (hm : 0 ≤ most) (cs : List Char) {gap : List Char} (hg : gap = [] ∨ IsGap gap.reverse) :
    limitFrom most [] (limitFrom most gap cs) = limitFrom most gap cs := by
  induction cs generalizing gap with
  | nil =>
    rw [limitFrom]
    rcases hg with rfl | hg
    · rw [List.reverse_nil, limitGap_nil, limitFrom, List.reverse_nil, limitGap_nil]
    · have hlimited : limitFrom most [] (limitGap most gap.reverse ++ []) =
          limitGap most (limitGap most gap.reverse) ++ limitFrom most [] [] :=
        limitFrom_append_of_isGap (hg.limitGap hm) (by simp)
      rw [List.append_nil] at hlimited
      rw [hlimited, limitGap_limitGap hm, limitFrom, List.reverse_nil, limitGap_nil, List.append_nil]
  | cons c cs ih =>
    rw [limitFrom]
    split
    · rename_i hgoes
      exact ih (.inr (isGap_cons hg hgoes))
    · rename_i hends
      have hfeed : c ≠ '\n' := by rintro rfl; simp at hends
      have hcons : limitFrom most [] (c :: limitFrom most [] cs) = c :: limitFrom most [] cs := by
        rw [limitFrom, if_neg (by simp [hfeed]), List.reverse_nil, limitGap_nil, List.nil_append, ih (.inl rfl)]
      rcases hg with rfl | hg
      · rw [List.reverse_nil, limitGap_nil]
        exact hcons
      · have hc : isBlank c = false := by
          have hne : gap ≠ [] := by rintro rfl; obtain ⟨rest, hrest⟩ := hg.feed; simp at hrest
          simpa [hfeed, hne] using hends
        rw [limitFrom_append_of_isGap (hg.limitGap hm) (by simpa using hc), limitGap_limitGap hm, hcons]

theorem limitBlankLines_limitBlankLines (hm : 0 ≤ most) (s : String) :
    limitBlankLines most (limitBlankLines most s) = limitBlankLines most s := by
  rw [limitBlankLines, limitBlankLines, String.toList_ofList, limitBlankLinesChars, limitBlankLinesChars,
    limitFrom_limitFrom hm _ (.inl rfl)]

/-! ### How many lines there are -/

/-- The sum of the numbers. -/
def total (ns : List Nat) : Nat := ns.foldr (· + ·) 0

theorem total_feedsFrom (n : Nat) (cs : List Char) : total (feedsFrom n cs) = n + cs.count '\n' := by
  induction cs generalizing n with
  | nil => rfl
  | cons c cs ih =>
    rw [feedsFrom, List.count_cons]
    split
    · rw [ih]
      by_cases hfeed : c = '\n'
      · simp only [hfeed, if_true, beq_self_eq_true]
        omega
      · simp [hfeed]
    · rename_i hc
      have hfeed : c ≠ '\n' := by rintro rfl; exact hc (by decide)
      have hsum : total (n :: feedsFrom 0 cs) = n + total (feedsFrom 0 cs) := rfl
      simp [hsum, ih, hfeed]

/-- Numbers of which none gets smaller keep their sum only if each stays as it is. -/
theorem total_map_eq_iff {f : Nat → Nat} {ns : List Nat} (h : ∀ n ∈ ns, n ≤ f n) :
    total ns ≤ total (ns.map f) ∧ (total (ns.map f) = total ns ↔ ∀ n ∈ ns, f n = n) := by
  induction ns with
  | nil => simp [total]
  | cons n ns ih =>
    obtain ⟨hn, hns⟩ := List.forall_mem_cons.mp h
    obtain ⟨hle, heq⟩ := ih hns
    have hsum : ∀ k ks, total (k :: ks) = k + total ks := fun k ks => rfl
    rw [List.map_cons, hsum, hsum, List.forall_mem_cons, ← heq]
    omega

theorem length_splitChars (sep : Char) (cs : List Char) : (splitChars sep cs).length = cs.count sep + 1 := by
  induction cs with
  | nil => rfl
  | cons c cs ih =>
    by_cases h : c = sep
    · subst h
      rw [splitChars_cons_self, List.length_cons, ih, List.count_cons_self]
    · obtain ⟨p, ps, hp, hcp⟩ := exists_splitChars_cons h cs
      rw [hp] at ih
      rw [hcp, List.count_cons_of_ne h, ← ih]
      rfl

/-- A number of line feeds belongs to a run between two lines, or is not larger than one of the runs at the
ends. -/
theorem mem_runs_of_mem_feedsFrom {cs : List Char} {f : Nat} (hf : f ∈ feedsFrom 0 cs) (hpos : f ≠ 0) :
    (∃ n ∈ outerRuns (splitChars '\n' cs), f ≤ n) ∨ f - 1 ∈ innerRuns (splitChars '\n' cs) := by
  rw [innerRuns_splitChars, outerRuns, runsFrom_splitChars]
  match hfeeds : feedsFrom 0 cs with
  | [] => simp [hfeeds] at hf
  | [g] =>
    obtain rfl : f = g := by simpa [hfeeds] using hf
    exact .inl ⟨f + 1, by simp [runsOf], Nat.le_succ f⟩
  | g :: h :: fs =>
    rw [hfeeds] at hf
    rcases List.mem_cons.mp hf with rfl | hf
    · exact .inl ⟨f, by simp [runsOf], Nat.le_refl f⟩
    · rw [← List.dropLast_append_getLast (List.cons_ne_nil h fs)] at hf
      rcases List.mem_append.mp hf with hf | hf
      · exact .inr (List.mem_map_of_mem (List.mem_filter.mpr ⟨hf, by simpa using hpos⟩))
      · refine .inl ⟨f, ?_, Nat.le_refl f⟩
        have hlast : (runsOf (g :: h :: fs)).getLast? = some f := by
          obtain ⟨r, rs, hr⟩ := List.exists_cons_of_ne_nil (runsBehind_ne_nil h fs)
          rw [runsOf, hr, List.getLast?_cons_cons, ← hr, getLast?_runsBehind,
            List.getLast?_eq_some_getLast (List.cons_ne_nil h fs), List.mem_singleton.mp hf]
        simp [hlast]

theorem mem_feedsFrom_of_mem_innerRuns {cs : List Char} {n : Nat} (hn : n ∈ innerRuns (splitChars '\n' cs)) :
    n + 1 ∈ feedsFrom 0 cs := by
  rw [innerRuns_splitChars] at hn
  obtain ⟨f, hf, rfl⟩ := List.mem_map.mp hn
  obtain ⟨hf, hpos⟩ := List.mem_filter.mp hf
  have hpos : f ≠ 0 := by simpa using hpos
  rw [Nat.sub_add_cancel (Nat.pos_of_ne_zero hpos)]
  exact List.mem_of_mem_tail (List.dropLast_subset _ hf)

/-! ### Limits of none and one -/

section

variable {limit : Nat}

/-- With a limit of at most one blank line, no run between two lines gets longer than that, and none
gets longer. -/
theorem innerRuns_limitBlankLinesChars_of_le_one (hlimit : limit ≤ 1) (cs : List Char) :
    innerRuns (splitChars '\n' (limitBlankLinesChars limit cs)) =
      (innerRuns (splitChars '\n' cs)).map fun n => min n limit := by
  rw [innerRuns_limitBlankLinesChars (by omega)]
  refine List.map_congr_left fun n _ => ?_
  rw [limitFeeds, gapThreshold]
  split <;> split <;> omega

/-! ### Limits of two and more -/

theorem limitFeeds_of_pos (hlimit : 0 < limit) (n : Nat) :
    limitFeeds limit n = if n < 3 then n else limit + 1 := by
  have hthreshold : gapThreshold limit = 3 := if_neg (by omega)
  have hfeeds : ((limit : Int) + 1).toNat = limit + 1 := by omega
  rw [limitFeeds, hthreshold, hfeeds]

/-- A text in which no run is too long has as many lines as before when no run is made longer. -/
theorem length_splitChars_limitBlankLinesChars_iff (hlimit : 2 ≤ limit) (cs : List Char)
    (hinner : ∀ n ∈ innerRuns (splitChars '\n' cs), n ≤ limit)
    (houter : ∀ n ∈ outerRuns (splitChars '\n' cs), n ≤ 2) :
    (splitChars '\n' (limitBlankLinesChars limit cs)).length = (splitChars '\n' cs).length ↔
      ∀ n ∈ innerRuns (splitChars '\n' cs), ¬ (2 ≤ n ∧ n < limit) := by
  have hfeeds : ∀ f, limitFeeds limit f = if f < 3 then f else limit + 1 := limitFeeds_of_pos (by omega)
  have hchanged : ∀ f ∈ feedsFrom 0 cs, f < 3 ∨ f - 1 ∈ innerRuns (splitChars '\n' cs) := by
    intro f hf
    by_cases hpos : f = 0
    · exact .inl (by omega)
    · rcases mem_runs_of_mem_feedsFrom hf hpos with ⟨n, hn, hle⟩ | hn
      · exact .inl (by have := houter n hn; omega)
      · exact .inr hn
  have hgrow : ∀ f ∈ feedsFrom 0 cs, f ≤ limitFeeds limit f := by
    intro f hf
    rw [hfeeds]
    rcases hchanged f hf with hf | hf
    · exact Nat.le_of_eq (if_pos hf).symm
    · have := hinner _ hf
      split <;> omega
  rw [length_splitChars, length_splitChars, Nat.add_right_cancel_iff]
  have htotal := (total_map_eq_iff hgrow).2
  rw [← feedsFrom_limitBlankLinesChars, total_feedsFrom, total_feedsFrom, Nat.zero_add, Nat.zero_add] at htotal
  rw [htotal]
  constructor
  · rintro hsame n hn ⟨htwo, hlt⟩
    have hn := hsame (n + 1) (mem_feedsFrom_of_mem_innerRuns hn)
    rw [hfeeds, if_neg (by omega)] at hn
    omega
  · intro hnone f hf
    rw [hfeeds]
    split
    · rfl
    · rename_i hlong
      have hn := (hchanged f hf).resolve_left hlong
      have hle := hinner _ hn
      have hnot := hnone _ hn
      omega

end

/-- **Limits of two and more.** The lines that show something stay as they are. A run of blank lines between two
of them stays as it is when it has at most one line, and becomes as long as the limit otherwise. So it becomes no
longer, and as long as the limit allows, exactly when it does not have two lines or more and yet fewer than the
limit, which cannot be for a limit of two. A text in which no run is too long then keeps its number of lines, and
only then. -/
theorem limitBlankLines_of_two_le (limit : Nat) (hlimit : 2 ≤ limit) (s : String) :
    shownLines (splitChars '\n' (limitBlankLines limit s).toList) = shownLines (splitChars '\n' s.toList) ∧
    innerRuns (splitChars '\n' (limitBlankLines limit s).toList) =
      (innerRuns (splitChars '\n' s.toList)).map (fun n => if n < 2 then n else limit) ∧
    (innerRuns (splitChars '\n' (limitBlankLines limit s).toList) =
        (innerRuns (splitChars '\n' s.toList)).map (fun n => min n limit) ↔
      ∀ n ∈ innerRuns (splitChars '\n' s.toList), ¬ (2 ≤ n ∧ n < limit)) ∧
    ((∀ n ∈ innerRuns (splitChars '\n' s.toList), n ≤ limit) →
      (∀ n ∈ outerRuns (splitChars '\n' s.toList), n ≤ 2) →
      ((splitChars '\n' (limitBlankLines limit s).toList).length = (splitChars '\n' s.toList).length ↔
        ∀ n ∈ innerRuns (splitChars '\n' s.toList), ¬ (2 ≤ n ∧ n < limit))) := by
  have hm : (0 : Int) ≤ limit := by omega
  have hruns : innerRuns (splitChars '\n' (limitBlankLinesChars limit s.toList)) =
      (innerRuns (splitChars '\n' s.toList)).map fun n => if n < 2 then n else limit := by
    rw [innerRuns_limitBlankLinesChars hm]
    refine List.map_congr_left fun n _ => ?_
    rw [limitFeeds_of_pos (by omega)]
    split <;> split <;> omega
  rw [limitBlankLines, String.toList_ofList]
  refine ⟨shownLines_limitBlankLines hm _, hruns, ?_, length_splitChars_limitBlankLinesChars_iff hlimit _⟩
  rw [hruns, List.map_inj_left]
  refine forall₂_congr fun n _ => ?_
  split <;> omega

/-- Three lines, the first two with two blank lines between them and a blank line at the end. -/
def spacedText : String := "a\n\n \n  b\nc\n"

theorem limitBlankLines_of_two_le_spacedText :
    2 ≤ 2 ∧
    shownLines (splitChars '\n' (limitBlankLines 2 spacedText).toList) = ["a".toList, "  b".toList, "c".toList] ∧
    innerRuns (splitChars '\n' (limitBlankLines 2 spacedText).toList) = [2, 0] ∧
    (∀ n ∈ innerRuns (splitChars '\n' spacedText.toList), n ≤ 2) ∧
    (∀ n ∈ outerRuns (splitChars '\n' spacedText.toList), n ≤ 2) ∧
    (splitChars '\n' (limitBlankLines 2 spacedText).toList).length = (splitChars '\n' spacedText.toList).length := by
  obtain ⟨hshown, hruns, -, hlength⟩ := limitBlankLines_of_two_le 2 (Nat.le_refl 2) spacedText
  have hlines : shownLines (splitChars '\n' spacedText.toList) = ["a".toList, "  b".toList, "c".toList] := by decide
  have hinner : innerRuns (splitChars '\n' spacedText.toList) = [2, 0] := by decide
  have houter : outerRuns (splitChars '\n' spacedText.toList) = [0, 1] := by decide
  have hshort : ∀ n ∈ innerRuns (splitChars '\n' spacedText.toList), n ≤ 2 := by rw [hinner]; decide
  have hends : ∀ n ∈ outerRuns (splitChars '\n' spacedText.toList), n ≤ 2 := by rw [houter]; decide
  refine ⟨Nat.le_refl 2, hshown.trans hlines, ?_, hshort, hends, (hlength hshort hends).mpr ?_⟩
  · rw [hinner] at hruns
    exact hruns
  · rintro n - ⟨htwo, hlt⟩
    exact absurd htwo (Nat.not_le_of_lt hlt)

/-- Two blank lines become three under a limit of three. -/
theorem limitBlankLines_three :
    limitBlankLines 3 "a\n\n\nb" = "a\n\n\n\nb" ∧
    innerRuns (splitChars '\n' "a\n\n\nb".toList) = [2] ∧
    innerRuns (splitChars '\n' (limitBlankLines 3 "a\n\n\nb").toList) = [3] ∧
    (splitChars '\n' (limitBlankLines 3 "a\n\n\nb").toList).length ≠ (splitChars '\n' "a\n\n\nb".toList).length := by
  decide

end Vitae.Text
