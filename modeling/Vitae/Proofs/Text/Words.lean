import Vitae.Proofs.Text.Trim

/-!
# Words

The single-line form of a text is its words with one space between them
(`intercalate_wordsChars`), and its words are what stands between its blanks
(`wordsChars_eq`). What rewrites characters one by one, and blanks and other
characters apart from each other (`KeepsBlanks`), may do so before or after the text is
brought into that form (`singleLineChars_flatMap`).
-/

namespace Vitae.Text

/-! ### The end of a text -/

theorem dropBlanks_append_eq (a b : List Char) :
    dropBlanks (a ++ b) = if dropBlanks a = [] then dropBlanks b else dropBlanks a ++ b := by
  induction a with
  | nil => simp [dropBlanks]
  | cons c a ih =>
    rw [List.cons_append, dropBlanks, dropBlanks]
    split
    · exact ih
    · simp

/-- The text without its trailing blanks. -/
def trimEndChars (cs : List Char) : List Char := (dropBlanks cs.reverse).reverse

theorem trimChars_eq (cs : List Char) : trimChars cs = trimEndChars (dropBlanks cs) := rfl

theorem trimEndChars_cons (c : Char) (cs : List Char) :
    trimEndChars (c :: cs) = if trimEndChars cs = [] ∧ isBlank c then [] else c :: trimEndChars cs := by
  rw [trimEndChars, trimEndChars, List.reverse_cons, dropBlanks_append_eq]
  by_cases hrest : dropBlanks cs.reverse = []
  · by_cases hc : isBlank c <;> simp [hrest, hc, dropBlanks]
  · simp [hrest]

/-- A run of blanks that goes on is not begun again. -/
theorem dropBlanks_collapseFrom_true (cs : List Char) :
    dropBlanks (collapseFrom true cs) = collapseFrom true cs := by
  induction cs with
  | nil => rfl
  | cons c cs ih =>
    rw [collapseFrom]
    split
    · exact ih
    · rename_i hc
      rw [dropBlanks, if_neg hc]

theorem collapseFrom_collapseFrom (inRun : Bool) (cs : List Char) :
    collapseFrom inRun (collapseFrom inRun cs) = collapseFrom inRun cs := by
  induction cs generalizing inRun with
  | nil => rfl
  | cons c cs ih =>
    by_cases hc : isBlank c
    · cases inRun with
      | true => simpa [collapseFrom, hc] using ih true
      | false => simp [collapseFrom, hc, ih]
    · simp [collapseFrom, hc, ih]

/-- A single line stays as it is. -/
theorem singleLineChars_singleLineChars (cs : List Char) :
    singleLineChars (singleLineChars cs) = singleLineChars cs := by
  have htrim : singleLineChars (singleLineChars cs) = singleLineChars (collapseFrom false cs) :=
    singleLineChars_trimChars _
  rw [htrim, singleLineChars, collapseFrom_collapseFrom, singleLineChars]

/-! ### What is left without blanks -/

theorem filter_dropBlanks (cs : List Char) :
    (dropBlanks cs).filter (fun c => !isBlank c) = cs.filter fun c => !isBlank c := by
  induction cs with
  | nil => rfl
  | cons c cs ih =>
    rw [dropBlanks]
    split
    · rename_i hc
      rw [ih, List.filter_cons_of_neg (by simp [hc])]
    · rfl

theorem filter_collapseFrom (inRun : Bool) (cs : List Char) :
    (collapseFrom inRun cs).filter (fun c => !isBlank c) = cs.filter fun c => !isBlank c := by
  induction cs generalizing inRun with
  | nil => rfl
  | cons c cs ih =>
    by_cases hc : isBlank c
    · cases inRun <;> simp [collapseFrom, hc, ih, isBlank_space]
    · simp [collapseFrom, hc, ih]

/-- The single-line form keeps every character that is not blank. -/
theorem filter_singleLineChars (cs : List Char) :
    (singleLineChars cs).filter (fun c => !isBlank c) = cs.filter fun c => !isBlank c := by
  rw [singleLineChars, trimChars, List.filter_reverse, filter_dropBlanks, List.filter_reverse, List.reverse_reverse,
    filter_dropBlanks, filter_collapseFrom]

/-- A text without blanks is a single line as it is. -/
theorem singleLineChars_of_no_blank {cs : List Char} (h : ∀ c ∈ cs, isBlank c = false) : singleLineChars cs = cs := by
  have hcollapse : collapseFrom false cs = cs := by
    induction cs with
    | nil => rfl
    | cons c cs ih =>
      obtain ⟨hc, hcs⟩ := List.forall_mem_cons.mp h
      rw [collapseFrom, if_neg (by simp [hc]), ih hcs]
  rw [singleLineChars, hcollapse, trimChars_of_no_blank h]

/-! ### The single-line form, from the front -/

theorem singleLineChars_eq (cs : List Char) : singleLineChars cs = trimEndChars (collapseFrom true cs) := by
  rw [singleLineChars, ← trimChars_collapseFrom_true, trimChars_eq, dropBlanks_collapseFrom_true]

theorem singleLineChars_of_blank {c : Char} (hc : isBlank c) (cs : List Char) :
    singleLineChars (c :: cs) = singleLineChars cs := by
  rw [singleLineChars_eq, singleLineChars_eq, collapseFrom, if_pos hc, if_pos rfl]

/-- Within a word. -/
theorem singleLineChars_of_not_blank {c d : Char} (hc : ¬ isBlank c) (hd : ¬ isBlank d) (cs : List Char) :
    singleLineChars (c :: d :: cs) = c :: singleLineChars (d :: cs) := by
  simp [singleLineChars_eq, collapseFrom, trimEndChars_cons, hc, hd]

/-- At the end of a word. -/
theorem singleLineChars_of_ends {c d : Char} (hc : ¬ isBlank c) (hd : isBlank d) (cs : List Char) :
    singleLineChars (c :: d :: cs) =
      if singleLineChars (d :: cs) = [] then [c] else c :: ' ' :: singleLineChars (d :: cs) := by
  have hrest : singleLineChars (d :: cs) = trimEndChars (collapseFrom true cs) := by
    rw [singleLineChars_of_blank hd, singleLineChars_eq]
  rw [hrest, singleLineChars_eq, collapseFrom, if_neg hc, collapseFrom, if_pos hd, if_neg Bool.false_ne_true,
    trimEndChars_cons, trimEndChars_cons]
  by_cases hnil : trimEndChars (collapseFrom true cs) = [] <;> simp [hnil, hc]

/-! ### Words -/

theorem intercalate_extendWord (c : Char) (ws : List (List Char)) :
    [' '].intercalate (extendWord c ws) = c :: [' '].intercalate ws := by
  match ws with
  | [] => rfl
  | [w] => simp [extendWord]
  | w :: w' :: ws => simp [extendWord, List.intercalate_cons_cons]

/-- No word is empty. -/
theorem ne_nil_of_mem_wordsChars {w cs : List Char} (h : w ∈ wordsChars cs) : w ≠ [] := by
  induction cs using wordsChars.induct generalizing w with
  | case1 => simp [wordsChars] at h
  | case2 c hc => simp [wordsChars, hc] at h
  | case3 c hc =>
    obtain rfl : w = [c] := by simpa [wordsChars, hc] using h
    exact List.cons_ne_nil _ _
  | case4 c d cs hc ih =>
    rw [wordsChars, if_pos hc] at h
    exact ih h
  | case5 c d cs hc hd ih =>
    rw [wordsChars, if_neg hc, if_pos hd] at h
    rcases List.mem_cons.mp h with rfl | h
    · exact List.cons_ne_nil _ _
    · exact ih h
  | case6 c d cs hc hd ih =>
    rw [wordsChars, if_neg hc, if_neg hd] at h
    cases hws : wordsChars (d :: cs) with
    | nil =>
      obtain rfl : w = [c] := by simpa [hws, extendWord] using h
      exact List.cons_ne_nil _ _
    | cons v ws =>
      rw [hws, extendWord] at h
      rcases List.mem_cons.mp h with rfl | h
      · exact List.cons_ne_nil _ _
      · exact ih (hws ▸ List.mem_cons_of_mem v h)

/-- The single-line form of a text is its words with one space between them. -/
theorem intercalate_wordsChars (cs : List Char) : [' '].intercalate (wordsChars cs) = singleLineChars cs := by
  induction cs using wordsChars.induct with
  | case1 => rfl
  | case2 c hc => simp [wordsChars, singleLineChars_of_blank, hc]; rfl
  | case3 c hc => simp [wordsChars, singleLineChars_eq, collapseFrom, trimEndChars_cons, hc]; rfl
  | case4 c d cs hc ih => rw [wordsChars, if_pos hc, ih, singleLineChars_of_blank hc]
  | case5 c d cs hc hd ih =>
    rw [wordsChars, if_neg hc, if_pos hd, singleLineChars_of_ends hc hd, ← ih]
    cases hws : wordsChars (d :: cs) with
    | nil => rfl
    | cons w ws =>
      have hne : w ≠ [] := ne_nil_of_mem_wordsChars (hws ▸ List.mem_cons_self)
      obtain ⟨e, w, rfl⟩ := List.exists_cons_of_ne_nil hne
      have hleft : [' '].intercalate ((e :: w) :: ws) ≠ [] := by
        cases ws <;> simp [List.intercalate_cons_cons]
      rw [if_neg hleft, List.intercalate_cons_cons]
      rfl
  | case6 c d cs hc hd ih =>
    rw [wordsChars, if_neg hc, if_neg hd, intercalate_extendWord, ih, singleLineChars_of_not_blank hc hd]

/-- The words of a text are what stands between its blanks, where that is not empty. -/
theorem wordsChars_eq (cs : List Char) :
    wordsChars cs = (cs.splitOnP isBlank).filter fun w => !w.isEmpty := by
  induction cs using wordsChars.induct with
  | case1 => rfl
  | case2 c hc => simp [wordsChars, List.splitOnP_cons_eq_if_modifyHead, hc]
  | case3 c hc => simp [wordsChars, List.splitOnP_cons_eq_if_modifyHead, hc]
  | case4 c d cs hc ih =>
    rw [wordsChars, if_pos hc, ih, List.splitOnP_cons_eq_if_modifyHead c, if_pos hc, List.filter_cons_of_neg (by simp)]
  | case5 c d cs hc hd ih =>
    rw [wordsChars, if_neg hc, if_pos hd, ih, List.splitOnP_cons_eq_if_modifyHead c, if_neg hc,
      List.splitOnP_cons_eq_if_modifyHead d, if_pos hd, List.modifyHead_cons, List.filter_cons_of_neg (by simp),
      List.filter_cons_of_pos (by simp)]
  | case6 c d cs hc hd ih =>
    obtain ⟨w, ws, hsplit⟩ := List.exists_cons_of_ne_nil (List.splitOnP_ne_nil isBlank cs)
    have hrest : (d :: cs).splitOnP isBlank = (d :: w) :: ws := by
      rw [List.splitOnP_cons_eq_if_modifyHead, if_neg hd, hsplit, List.modifyHead_cons]
    rw [hrest, List.filter_cons_of_pos (by simp)] at ih
    rw [wordsChars, if_neg hc, if_neg hd, ih, List.splitOnP_cons_eq_if_modifyHead, if_neg hc, hrest,
      List.modifyHead_cons, List.filter_cons_of_pos (by simp), extendWord]

/-- The words of a text. -/
def words (s : String) : List String := ((s.toList.splitOnP isBlank).filter fun w => !w.isEmpty).map String.ofList

theorem intercalate_words (s : String) : " ".intercalate (words s) = singleLine s := by
  have hwords : (words s).map String.toList = wordsChars s.toList := by
    rw [words, List.map_map, wordsChars_eq]
    exact (List.map_congr_left fun _ _ => String.toList_ofList).trans (List.map_id _)
  rw [← String.toList_inj, String.toList_intercalate, hwords, toList_singleLine, ← intercalate_wordsChars]
  rfl

/-! ### Rewriting characters one by one -/

/-- Blanks stay as they are, and any other character becomes a text without blanks that is not empty. -/
structure KeepsBlanks (f : Char → List Char) : Prop where
  /-- A blank stays as it is. -/
  blank : ∀ c, isBlank c → f c = [c]
  /-- Something is left of any other character. -/
  ne_nil : ∀ c, ¬ isBlank c → f c ≠ []
  /-- No blank comes from it. -/
  not_blank : ∀ c, ¬ isBlank c → ∀ d ∈ f c, ¬ isBlank d

variable {f : Char → List Char}

theorem KeepsBlanks.reverse (h : KeepsBlanks f) : KeepsBlanks fun c => (f c).reverse where
  blank c hc := by simp [h.blank c hc]
  ne_nil c hc := by simpa using h.ne_nil c hc
  not_blank c hc d hd := h.not_blank c hc d (List.mem_reverse.mp hd)

theorem dropBlanks_flatMap (h : KeepsBlanks f) (cs : List Char) :
    dropBlanks (cs.flatMap f) = (dropBlanks cs).flatMap f := by
  induction cs with
  | nil => rfl
  | cons c cs ih =>
    rw [List.flatMap_cons, dropBlanks]
    split
    · rename_i hc
      rw [h.blank c hc, List.singleton_append, dropBlanks, if_pos hc, ih]
    · rename_i hc
      obtain ⟨d, ds, hds⟩ := List.exists_cons_of_ne_nil (h.ne_nil c hc)
      have hd : ¬ isBlank d := h.not_blank c hc d (hds ▸ List.mem_cons_self)
      rw [List.flatMap_cons, hds, List.cons_append, dropBlanks, if_neg hd]

theorem trimChars_flatMap (h : KeepsBlanks f) (cs : List Char) :
    trimChars (cs.flatMap f) = (trimChars cs).flatMap f := by
  have hreverse : ∀ ds : List Char, (ds.flatMap f).reverse = ds.reverse.flatMap fun c => (f c).reverse :=
    fun ds => by rw [List.reverse_flatMap]; rfl
  rw [trimChars, trimChars, dropBlanks_flatMap h, hreverse, dropBlanks_flatMap h.reverse, ← List.reverse_inj,
    List.reverse_reverse, hreverse, List.reverse_reverse]

/-- A text without blanks ends the run of blanks in front of it. -/
theorem collapseFrom_append_of_not_blank {a : List Char} (ha : a ≠ []) (hblank : ∀ c ∈ a, ¬ isBlank c)
    (inRun : Bool) (cs : List Char) : collapseFrom inRun (a ++ cs) = a ++ collapseFrom false cs := by
  induction a generalizing inRun with
  | nil => exact absurd rfl ha
  | cons c a ih =>
    have hrest : ∀ d ∈ a, ¬ isBlank d := fun d hd => hblank d (List.mem_cons_of_mem _ hd)
    rw [List.cons_append, collapseFrom, if_neg (hblank c List.mem_cons_self), List.cons_append]
    by_cases hnil : a = []
    · rw [hnil, List.nil_append, List.nil_append]
    · rw [ih hnil hrest]

theorem collapseFrom_flatMap (h : KeepsBlanks f) (inRun : Bool) (cs : List Char) :
    collapseFrom inRun (cs.flatMap f) = (collapseFrom inRun cs).flatMap f := by
  induction cs generalizing inRun with
  | nil => rfl
  | cons c cs ih =>
    rw [List.flatMap_cons, collapseFrom]
    by_cases hc : isBlank c
    · rw [h.blank c hc, List.singleton_append, collapseFrom, if_pos hc, if_pos hc, ih]
      cases inRun with
      | true => rfl
      | false => simp [h.blank ' ' isBlank_space]
    · rw [collapseFrom_append_of_not_blank (h.ne_nil c hc) (h.not_blank c hc), if_neg hc, List.flatMap_cons, ih]

/-- Characters may be rewritten before or after a text is brought into its single-line form. -/
theorem singleLineChars_flatMap (h : KeepsBlanks f) (cs : List Char) :
    singleLineChars (cs.flatMap f) = (singleLineChars cs).flatMap f := by
  rw [singleLineChars, collapseFrom_flatMap h, trimChars_flatMap h, singleLineChars]

end Vitae.Text
