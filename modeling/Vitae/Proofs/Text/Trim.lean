import Mathlib.Tactic.Conv
import Vitae.Proofs.Text.Blank
import Vitae.Text.Scheme

/-!
# Outer blanks

A text is its trimmed form with blanks around it (`exists_eq_append_trimChars`), so what
does not change when blanks are put in front of a text and behind it is the same for the
text and for its trimmed form. This holds of the single-line form and of the lines that
show something (`singleLineChars_trimChars`, `trimmedLines_lines_trim`).

A value is trimmed to nothing when it shows nothing (`trimmed?`), and a list of texts keeps
only those that show something (`trimmedLines`). A function does not tell a value from
its trimmed form if it does not tell a text from its trimmed form, nor an empty text from
nothing (`apply_trimmed?`).
-/

namespace Vitae.Text

/-! ### Blanks at the ends -/

section blanks

variable {b : List Char} (hb : ∀ c ∈ b, isBlank c)
include hb

theorem dropBlanks_append (cs : List Char) : dropBlanks (b ++ cs) = dropBlanks cs := by
  induction b with
  | nil => rfl
  | cons c b ih =>
    rw [List.cons_append, dropBlanks, if_pos (hb c List.mem_cons_self)]
    exact ih fun d hd => hb d (List.mem_cons_of_mem _ hd)

theorem dropBlanks_of_blank : dropBlanks b = [] := by
  simpa [dropBlanks] using dropBlanks_append hb []

theorem trimChars_append_left (cs : List Char) : trimChars (b ++ cs) = trimChars cs := by
  rw [trimChars, dropBlanks_append hb, trimChars]

end blanks

/-- A text is what is left of it with blanks in front. -/
theorem exists_eq_append_dropBlanks (cs : List Char) :
    ∃ b, (∀ c ∈ b, isBlank c) ∧ cs = b ++ dropBlanks cs := by
  induction cs with
  | nil => exact ⟨[], by simp, rfl⟩
  | cons c cs ih =>
    rw [dropBlanks]
    split
    · rename_i hc
      obtain ⟨b, hb, hcs⟩ := ih
      exact ⟨c :: b, List.forall_mem_cons.mpr ⟨hc, hb⟩, by rw [List.cons_append, ← hcs]⟩
    · exact ⟨[], by simp, rfl⟩

/-- A text is its trimmed form with blanks around it. -/
theorem exists_eq_append_trimChars (cs : List Char) :
    ∃ b b', (∀ c ∈ b, isBlank c) ∧ (∀ c ∈ b', isBlank c) ∧ cs = b ++ (trimChars cs ++ b') := by
  obtain ⟨b, hb, hcs⟩ := exists_eq_append_dropBlanks cs
  obtain ⟨b', hb', hrest⟩ := exists_eq_append_dropBlanks (dropBlanks cs).reverse
  refine ⟨b, b'.reverse, hb, by simpa using hb', ?_⟩
  rw [trimChars, ← List.reverse_append, ← hrest, List.reverse_reverse, ← hcs]

theorem trimChars_append_right {b : List Char} (hb : ∀ c ∈ b, isBlank c) (cs : List Char) :
    trimChars (cs ++ b) = trimChars cs := by
  have hrest : ∀ cs, dropBlanks (cs ++ b) = dropBlanks cs ++ b ∨
      dropBlanks (cs ++ b) = [] ∧ dropBlanks cs = [] := by
    intro cs
    induction cs with
    | nil => exact .inr ⟨dropBlanks_of_blank hb, rfl⟩
    | cons c cs ih =>
      rw [List.cons_append, dropBlanks, dropBlanks]
      split
      · exact ih
      · exact .inl rfl
  rcases hrest cs with h | ⟨h, hcs⟩
  · have hreverse : ∀ c ∈ b.reverse, isBlank c := by simpa using hb
    rw [trimChars, h, List.reverse_append, dropBlanks_append hreverse, trimChars]
  · rw [trimChars, h, trimChars, hcs]

@[simp] theorem trimChars_trimChars (cs : List Char) : trimChars (trimChars cs) = trimChars cs := by
  obtain ⟨b, b', hb, hb', hcs⟩ := exists_eq_append_trimChars cs
  conv_rhs => rw [hcs, trimChars_append_left hb, trimChars_append_right hb']

/-! ### Runs of blanks -/

/-- Whether a text ends in a blank; `inRun` tells it of the text before. -/
def endsBlank : Bool → List Char → Bool
  | inRun, [] => inRun
  | _, c :: cs => endsBlank (isBlank c) cs

theorem endsBlank_concat (inRun : Bool) (cs : List Char) (c : Char) :
    endsBlank inRun (cs ++ [c]) = isBlank c := by
  induction cs generalizing inRun with
  | nil => rfl
  | cons d cs ih => exact ih _

theorem collapseFrom_append (inRun : Bool) (a b : List Char) :
    collapseFrom inRun (a ++ b) = collapseFrom inRun a ++ collapseFrom (endsBlank inRun a) b := by
  induction a generalizing inRun with
  | nil => rfl
  | cons c a ih =>
    rw [List.cons_append, collapseFrom, collapseFrom, endsBlank]
    cases isBlank c <;> cases inRun <;> simp [ih]

/-- In a run of blanks more blanks do not matter. -/
theorem collapseFrom_true_append {b : List Char} (hb : ∀ c ∈ b, isBlank c) (cs : List Char) :
    collapseFrom true (b ++ cs) = collapseFrom true cs := by
  induction b with
  | nil => rfl
  | cons c b ih =>
    rw [List.cons_append, collapseFrom, if_pos (hb c List.mem_cons_self), if_pos rfl]
    exact ih fun d hd => hb d (List.mem_cons_of_mem _ hd)

theorem isBlank_of_mem_collapseFrom {b : List Char} (hb : ∀ c ∈ b, isBlank c) {inRun : Bool} {c : Char}
    (h : c ∈ collapseFrom inRun b) : isBlank c := by
  induction b generalizing inRun with
  | nil => exact absurd h List.not_mem_nil
  | cons d b ih =>
    have hrest : ∀ e ∈ b, isBlank e := fun e he => hb e (List.mem_cons_of_mem _ he)
    rw [collapseFrom, if_pos (hb d List.mem_cons_self)] at h
    split at h
    · exact ih hrest h
    · rcases List.mem_cons.mp h with rfl | h
      · exact isBlank_space
      · exact ih hrest h

/-- A run of blanks at the front is trimmed whether it goes on or not. -/
theorem trimChars_collapseFrom_true (cs : List Char) :
    trimChars (collapseFrom true cs) = trimChars (collapseFrom false cs) := by
  cases cs with
  | nil => rfl
  | cons c cs =>
    have hspace : ∀ c ∈ [' '], isBlank c := List.forall_mem_singleton.mpr isBlank_space
    rw [collapseFrom, collapseFrom]
    split
    · exact (trimChars_append_left hspace _).symm
    · rfl

theorem singleLineChars_append_right {b : List Char} (hb : ∀ c ∈ b, isBlank c) (cs : List Char) :
    singleLineChars (cs ++ b) = singleLineChars cs := by
  rw [singleLineChars, collapseFrom_append, trimChars_append_right fun c => isBlank_of_mem_collapseFrom hb,
    singleLineChars]

@[simp] theorem singleLineChars_trimChars (cs : List Char) :
    singleLineChars (trimChars cs) = singleLineChars cs := by
  obtain ⟨b, b', hb, hb', hcs⟩ := exists_eq_append_trimChars cs
  conv_rhs => rw [hcs, ← List.append_assoc, singleLineChars_append_right hb']
  rw [singleLineChars, singleLineChars, ← trimChars_collapseFrom_true, ← trimChars_collapseFrom_true,
    collapseFrom_true_append hb]

/-- Behind a space the outer blanks of a text do not matter. -/
theorem singleLineChars_append_space (a cs : List Char) :
    singleLineChars (a ++ [' '] ++ trimChars cs) = singleLineChars (a ++ [' '] ++ cs) := by
  have hspace : ∀ cs, collapseFrom false (a ++ [' '] ++ cs) =
      collapseFrom false (a ++ [' ']) ++ collapseFrom true cs := by
    intro cs
    rw [collapseFrom_append, endsBlank_concat, isBlank_space]
  obtain ⟨b, b', hb, hb', hcs⟩ := exists_eq_append_trimChars cs
  conv_rhs => rw [hcs, ← List.append_assoc b, ← List.append_assoc, singleLineChars_append_right hb']
  rw [singleLineChars, singleLineChars, hspace, hspace, collapseFrom_true_append hb]

/-! ### Lines that show something -/

/-- The trimmed form of a line, if it shows something. -/
def shownPiece (line : List Char) : List (List Char) := [trimChars line].filter (· ≠ [])

/-- The lines of a text that show something, trimmed; `line` is the line so far. -/
def shownPieces (line : List Char) : List Char → List (List Char)
  | [] => shownPiece line
  | c :: cs => if isLineBreak c then shownPiece line ++ shownPieces [] cs else shownPieces (line ++ [c]) cs

/-- The lines of a text behind more text. -/
def behind (line : List Char) : List (List Char) → List (List Char)
  | [] => [line]
  | l :: ls => (line ++ l) :: ls

theorem behind_extendFirst (line : List Char) (c : Char) (ls : List (List Char)) :
    behind line (extendFirst c ls) = behind (line ++ [c]) ls := by
  cases ls <;> simp [behind, extendFirst]

theorem filter_map_behind_nil (ls : List (List Char)) :
    ((behind [] ls).map trimChars).filter (· ≠ []) = (ls.map trimChars).filter (· ≠ []) := by
  cases ls <;> rfl

/-- Reading the lines of a text one after the other. -/
theorem filter_map_behind_linesChars (line cs : List Char) :
    ((behind line (linesChars cs)).map trimChars).filter (· ≠ []) = shownPieces line cs := by
  induction cs using linesChars.induct generalizing line with
  | case1 => rfl
  | case2 rest ih =>
    have hreturn : isLineBreak '\r' = true := by decide
    have hfeed : isLineBreak '\n' = true := by decide
    have hnil : shownPiece [] = [] := by decide
    rw [linesChars, behind, List.append_nil, shownPieces, if_pos hreturn, shownPieces, if_pos hfeed, hnil,
      List.nil_append, ← ih, filter_map_behind_nil, List.map_cons, ← List.singleton_append, List.filter_append]
    rfl
  | case3 c rest hne hbreak ih =>
    rw [linesChars.eq_3 _ _ hne, if_pos hbreak, behind, List.append_nil, shownPieces, if_pos hbreak, ← ih,
      filter_map_behind_nil, List.map_cons, ← List.singleton_append, List.filter_append]
    rfl
  | case4 c rest hne hbreak ih =>
    rw [linesChars.eq_3 _ _ hne, if_neg hbreak, behind_extendFirst, ih, shownPieces, if_neg hbreak]

theorem shownPiece_append_left {b : List Char} (hb : ∀ c ∈ b, isBlank c) (line : List Char) :
    shownPiece (b ++ line) = shownPiece line := by
  rw [shownPiece, trimChars_append_left hb, shownPiece]

theorem shownPieces_append_left {b : List Char} (hb : ∀ c ∈ b, isBlank c) (line cs : List Char) :
    shownPieces (b ++ line) cs = shownPieces line cs := by
  induction cs generalizing line with
  | nil => exact shownPiece_append_left hb line
  | cons c cs ih =>
    rw [shownPieces, shownPieces, shownPiece_append_left hb, List.append_assoc, ih]

/-- Blanks in front of a text add no line that shows something. -/
theorem shownPieces_of_blank_append {b : List Char} (hb : ∀ c ∈ b, isBlank c) (cs : List Char) :
    shownPieces [] (b ++ cs) = shownPieces [] cs := by
  induction b with
  | nil => rfl
  | cons c b ih =>
    have hrest := ih fun d hd => hb d (List.mem_cons_of_mem _ hd)
    have hc : ∀ d ∈ [c], isBlank d := List.forall_mem_singleton.mpr (hb c List.mem_cons_self)
    rw [List.cons_append, shownPieces]
    split
    · exact hrest
    · exact (shownPieces_append_left hc [] _).trans hrest

/-- Nor do blanks behind it. -/
theorem shownPieces_append_blank {b : List Char} (hb : ∀ c ∈ b, isBlank c) (line cs : List Char) :
    shownPieces line (cs ++ b) = shownPieces line cs := by
  induction cs generalizing line with
  | nil =>
    rw [List.nil_append, shownPieces]
    induction b generalizing line with
    | nil => rfl
    | cons c b ih =>
      have hrest := ih fun d hd => hb d (List.mem_cons_of_mem _ hd)
      have hc : ∀ d ∈ [c], isBlank d := List.forall_mem_singleton.mpr (hb c List.mem_cons_self)
      rw [shownPieces]
      split
      · rw [hrest]
        exact List.append_nil _
      · rw [hrest, shownPiece, trimChars_append_right hc, shownPiece]
  | cons c cs ih => rw [List.cons_append, shownPieces, shownPieces, ih, ih]

theorem shownPieces_trimChars (cs : List Char) : shownPieces [] (trimChars cs) = shownPieces [] cs := by
  obtain ⟨b, b', hb, hb', hcs⟩ := exists_eq_append_trimChars cs
  conv_rhs => rw [hcs, shownPieces_of_blank_append hb, shownPieces_append_blank hb']

/-! ### On strings -/

theorem ofList_eq_empty_iff {cs : List Char} : String.ofList cs = "" ↔ cs = [] := by
  rw [← String.toList_inj, String.toList_ofList]
  rfl

@[simp] theorem trim_empty : trim "" = "" := by decide

@[simp] theorem trim_trim (s : String) : trim (trim s) = trim s := by
  rw [← String.toList_inj]
  simp

@[simp] theorem singleLine_trim (s : String) : singleLine (trim s) = singleLine s := by
  rw [← String.toList_inj]
  simp

/-- The value without outer blanks; nothing if it shows nothing. -/
def trimmed? (value : Option String) : Option String := (value.map trim).filter (· ≠ "")

/-- The texts that show something, without outer blanks. -/
def trimmedLines (ls : List String) : List String := (ls.map trim).filter (· ≠ "")

theorem trimmed?_some_of_eq {s : String} (h : trim s = "") : trimmed? (some s) = none := by
  simp [trimmed?, h]

theorem trimmed?_some_of_ne {s : String} (h : trim s ≠ "") : trimmed? (some s) = some (trim s) := by
  simp [trimmed?, h]

/-- What tells neither a text from its trimmed form nor an empty text from nothing does not tell a
value from its trimmed form. -/
theorem apply_trimmed? {α : Type} {f : Option String → α} (htrim : ∀ s, f (some (trim s)) = f (some s))
    (hempty : f (some "") = f none) (value : Option String) : f (trimmed? value) = f value := by
  cases value with
  | none => rfl
  | some s =>
    by_cases h : trim s = ""
    · rw [trimmed?_some_of_eq h, ← htrim s, h, hempty]
    · rw [trimmed?_some_of_ne h, htrim]

@[simp] theorem trimmed?_trimmed? (value : Option String) : trimmed? (trimmed? value) = trimmed? value :=
  apply_trimmed? (fun s => by simp [trimmed?]) (by simp [trimmed?]) value

@[simp] theorem isVisible_trimmed? (value : Option String) : isVisible (trimmed? value) = isVisible value :=
  apply_trimmed? (fun s => by simp [isVisible]) (by simp [isVisible]) value

@[simp] theorem singleLine?_trimmed? (value : Option String) : singleLine? (trimmed? value) = singleLine? value :=
  apply_trimmed? (fun s => by simp [singleLine?]) (by decide) value

@[simp] theorem stripScheme?_trimmed? (value : Option String) :
    stripScheme? (trimmed? value) = stripScheme? value :=
  apply_trimmed? (fun s => by simp [stripScheme?, stripSchemeChars]) (by decide) value

@[simp] theorem trim_getD_trimmed? (value : Option String) :
    trim ((trimmed? value).getD "") = trim (value.getD "") :=
  apply_trimmed? (f := fun v => trim (v.getD "")) (fun s => by simp) rfl value

/-- The values that show something, trimmed. -/
theorem filter_filterMap_trim (parts : List (Option String)) :
    (parts.filterMap (·.map trim)).filter (· ≠ "") = parts.filterMap trimmed? :=
  List.filter_filterMap

theorem trimJoin_eq (separator : String) (parts : List (Option String)) :
    trimJoin separator parts = separator.intercalate (parts.filterMap trimmed?) := by
  rw [trimJoin, ← filter_filterMap_trim]
  refine congrArg _ (List.filter_congr fun s _ => ?_)
  by_cases hs : s = "" <;> simp [hs]

/-! ### On lists of texts -/

/-- What is shown for a list of texts, one after the other, if a text is not told from its trimmed
form and nothing is shown for an empty text. -/
theorem flatMap_trimmedLines {α : Type} {f : String → List α} (htrim : ∀ s, f (trim s) = f s) (hempty : f "" = [])
    (ls : List String) : (trimmedLines ls).flatMap f = ls.flatMap f := by
  induction ls with
  | nil => rfl
  | cons l ls ih =>
    rw [List.flatMap_cons, ← ih, ← htrim l]
    by_cases h : trim l = "" <;> simp [trimmedLines, h, hempty]

theorem filter_map_trimmedLines {f : String → String} (htrim : ∀ s, f (trim s) = f s) (hempty : f "" = "")
    (ls : List String) : ((trimmedLines ls).map f).filter (· ≠ "") = (ls.map f).filter (· ≠ "") := by
  simp only [List.map_eq_flatMap, List.filter_flatMap]
  exact flatMap_trimmedLines (by simp [htrim]) (by simp [hempty]) ls

theorem map_filter_trimmedLines {f : String → String} (htrim : ∀ s, f (trim s) = f s) (ls : List String) :
    ((trimmedLines ls).filter fun l => isVisible (some l)).map f =
      (ls.filter fun l => isVisible (some l)).map f := by
  induction ls with
  | nil => rfl
  | cons l ls ih =>
    by_cases h : trim l = "" <;> simpa [trimmedLines, isVisible, h, htrim] using ih

theorem trimmedLines_map_ofList (pieces : List (List Char)) :
    trimmedLines (pieces.map String.ofList) = ((pieces.map trimChars).filter (· ≠ [])).map String.ofList := by
  induction pieces with
  | nil => rfl
  | cons piece pieces ih =>
    rw [trimmedLines] at ih ⊢
    by_cases h : trimChars piece = [] <;> simpa [trim, ofList_eq_empty_iff, h] using ih

/-- The lines that show something are the same for a text and for its trimmed form. -/
theorem trimmedLines_lines_trim (s : String) : trimmedLines (lines (trim s)) = trimmedLines (lines s) := by
  have key : ∀ s, trimmedLines (lines s) = (shownPieces [] s.toList).map String.ofList := by
    intro s
    rw [← filter_map_behind_linesChars, filter_map_behind_nil, lines, trimmedLines_map_ofList]
  rw [key, key, toList_trim, shownPieces_trimChars]

end Vitae.Text
