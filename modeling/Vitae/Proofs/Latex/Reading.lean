import Vitae.Proofs.Section.Wording

/-!
# Reading arguments back

The arguments of a command are read by their braces: the list is cut at the commas outside
of all groups (`piecesFrom`), and a piece is a key, an equals sign, and a group that ends
where its brace is closed (`argument?`). Escaped values are balanced, so no comma and no
bracket in a value stands outside of a group (`whole_argument`), whatever the value spells.
So what is read is what was written: the candidates that show something, with their
escaped values, and the bracket that closes the call is the first one outside of all
groups (`Candidates.text_readable`).
-/

namespace Vitae.Latex

open Text Section

/-! ### Marks outside of groups -/

/-- The first `mark` of a text outside of its groups stands right behind `before`. -/
structure FirstOutside (mark : Char) (before cs : List Char) : Prop where
  /-- A mark stands behind it. -/
  stands : before ++ [mark] <+: cs
  /-- This mark is outside of all groups. -/
  outside : depth false before = 0
  /-- The marks in front of it are in groups. -/
  first : ∀ x y, before = x ++ mark :: y → depth false x ≠ 0

/-- A text that closes its groups and holds `mark` within them only. -/
structure Whole (mark : Char) (cs : List Char) : Prop where
  /-- All groups are closed. -/
  closed : depth false cs = 0
  /-- The backslashes at its end are even in number. -/
  even : endsOdd false cs = false
  /-- The marks are in groups. -/
  inside : ∀ x y, cs = x ++ mark :: y → depth false x ≠ 0

variable {mark : Char} {a b cs : List Char}

/-- A mark in `a ++ b` that is none of `a` stands in `b`. -/
theorem exists_append_of_not_mem (ha : mark ∉ a) {x y : List Char} (h : a ++ b = x ++ mark :: y) :
    ∃ z, x = a ++ z ∧ b = z ++ mark :: y := by
  rcases List.append_eq_append_iff.mp h with ⟨z, hx, hb⟩ | ⟨z, hz, hy⟩
  · exact ⟨z, hx, hb⟩
  · cases z with
    | nil => exact ⟨[], by simpa using hz.symm, by simpa using hy.symm⟩
    | cons c z =>
      rw [List.cons_append] at hy
      exact absurd (hz ▸ by simp [(List.cons.inj hy).1]) ha

theorem Whole.of_not_mem (hclosed : depth false cs = 0) (heven : endsOdd false cs = false) (hmark : mark ∉ cs) :
    Whole mark cs where
  closed := hclosed
  even := heven
  inside := by
    rintro x y rfl
    exact absurd (by simp) hmark

theorem Whole.append (ha : Whole mark a) (hb : Whole mark b) : Whole mark (a ++ b) where
  closed := by rw [depth_append, ha.closed, ha.even, hb.closed, Int.zero_add]
  even := by rw [endsOdd_append, ha.even, hb.even]
  inside := by
    intro x y hxy
    rcases List.append_eq_append_iff.mp hxy with ⟨z, rfl, hz⟩ | ⟨z, hz, hy⟩
    · rw [depth_append, ha.closed, ha.even, Int.zero_add]
      exact hb.inside z y hz
    · cases z with
      | nil => exact absurd rfl (hb.inside [] y hy.symm)
      | cons c z =>
        obtain ⟨rfl, -⟩ := List.cons.inj hy
        exact ha.inside x z hz

/-- A text in braces holds every mark within them. -/
theorem Whole.group (hcs : Balanced cs) (heven : endsOdd false cs = false) (hopen : mark ≠ '\x7b')
    (hclose : mark ≠ '\x7d') : Whole mark ('\x7b' :: (cs ++ ['\x7d'])) where
  closed := (hcs.group heven).closed
  even := endsOdd_group cs heven
  inside := by
    intro x y hxy
    obtain ⟨z, rfl, hz⟩ := exists_append_of_not_mem (a := ['\x7b']) (by simpa using hopen) hxy
    have hprefix : z <+: cs := by
      rcases List.append_eq_append_iff.mp hz with ⟨w, -, hw⟩ | ⟨w, hw, -⟩
      · rcases w with _ | ⟨c, w⟩
        · exact absurd (List.cons.inj hw).1.symm hclose
        · exact absurd (List.cons.inj hw).2 (by simp)
      · exact ⟨w, hw.symm⟩
    have hnonneg := hcs.nonneg z hprefix
    have hdepth : depth false (['\x7b'] ++ z) = 1 + depth false z := by simp [depth, weight]
    omega

/-! ### The argument list -/

/-- A key of an argument: letters of ASCII, at least one of them. -/
def IsKey (key : String) : Prop := key.toList ≠ [] ∧ key.toList.all Char.isAlpha = true

instance (key : String) : Decidable (IsKey key) := inferInstanceAs (Decidable (_ ∧ _))

/-- A value that can stand in braces. -/
def IsValue (value : String) : Prop := Balanced value.toList ∧ endsOdd false value.toList = false

theorem isValue_escape? (value : Option String) : IsValue (escape? value) := by
  have hclean : Clean callWatch (escape? value) := clean_escape? value
  exact ⟨hclean.balanced, hclean.even⟩

/-- The text of one argument. -/
def argumentChars (p : String × String) : List Char :=
  p.1.toList ++ '=' :: '\x7b' :: (p.2.toList ++ ['\x7d'])

/-- The argument list is its arguments with commas and spaces between them. -/
theorem toList_argumentText_cons (p : String × String) (pairs : List (String × String)) :
    (argumentText (p :: pairs)).toList =
      if pairs = [] then argumentChars p else argumentChars p ++ ',' :: ' ' :: (argumentText pairs).toList := by
  cases pairs with
  | nil => simp [argumentText, argumentChars, braced]
  | cons q pairs => simp [argumentText, argumentChars, braced, String.intercalate_cons_cons]

theorem whole_of_letters {key : List Char} (h : key.all Char.isAlpha = true) (hmark : ¬ mark.isAlpha) :
    Whole mark key := by
  have hletters : ∀ c ∈ key, c.isAlpha = true := List.all_eq_true.mp h
  have hplain : ∀ c ∈ key, isGrouping c = false := fun c hc =>
    isGrouping_eq_false_of (·.isAlpha = true) (hletters c hc) (by decide)
  exact .of_not_mem (depth_of_not_isGrouping hplain) (endsOdd_of_not_isGrouping hplain)
    fun hc => hmark (hletters mark hc)

/-- An argument holds commas and brackets only in its value. -/
theorem whole_argument {p : String × String} (hkey : IsKey p.1) (hvalue : IsValue p.2)
    (hmark : mark ∈ [',', ']']) : Whole mark (argumentChars p) := by
  obtain ⟨hletter, hequals, hopen, hclose⟩ :
      ¬ mark.isAlpha ∧ mark ≠ '=' ∧ mark ≠ '\x7b' ∧ mark ≠ '\x7d' := by
    rcases List.mem_pair.mp hmark with rfl | rfl <;> decide
  have hsign : Whole mark ['='] := .of_not_mem rfl rfl (by simpa using hequals)
  exact (whole_of_letters hkey.2 hletter).append (hsign.append (.group hvalue.1 hvalue.2 hopen hclose))

variable {pairs : List (String × String)}

/-- The argument list holds brackets only in its values. -/
theorem whole_argumentText (h : ∀ p ∈ pairs, IsKey p.1 ∧ IsValue p.2) :
    Whole ']' (argumentText pairs).toList := by
  induction pairs with
  | nil => exact .of_not_mem rfl rfl (by decide)
  | cons p pairs ih =>
    obtain ⟨hp, hpairs⟩ := List.forall_mem_cons.mp h
    have hargument : Whole ']' (argumentChars p) := whole_argument hp.1 hp.2 (by decide)
    rw [toList_argumentText_cons]
    split
    · exact hargument
    · have hcomma : Whole ']' [',', ' '] := .of_not_mem rfl rfl (by decide)
      exact hargument.append (hcomma.append (ih hpairs))

/-! ### Cutting at commas -/

/-- The pieces of a text between the commas outside of its groups; `d` groups are open in front of the
text, and `odd` tells whether an odd number of backslashes stands there. -/
def piecesFrom (odd : Bool) (d : ℤ) : List Char → List (List Char)
  | [] => [[]]
  | c :: cs =>
    if c = ',' ∧ d = 0 then [] :: piecesFrom false 0 cs
    else extendFirst c (piecesFrom (c = '\\' && !odd) (d + weight odd c) cs)

/-- A text without commas outside of its groups is part of one piece. -/
theorem piecesFrom_append {odd : Bool} {d : ℤ} {piece : List Char} {pieces : List (List Char)}
    (h : ∀ x y, a = x ++ ',' :: y → d + depth odd x ≠ 0)
    (hb : piecesFrom (endsOdd odd a) (d + depth odd a) b = piece :: pieces) :
    piecesFrom odd d (a ++ b) = (a ++ piece) :: pieces := by
  induction a generalizing odd d with
  | nil => simpa [endsOdd, depth] using hb
  | cons c a ih =>
    have hc : ¬ (c = ',' ∧ d = 0) := by
      rintro ⟨rfl, rfl⟩
      exact h [] a rfl rfl
    have hrest : ∀ x y, a = x ++ ',' :: y → d + weight odd c + depth (c = '\\' && !odd) x ≠ 0 := by
      rintro x y rfl
      have hdepth := h (c :: x) y rfl
      simp only [depth] at hdepth
      omega
    rw [endsOdd, depth, ← Int.add_assoc] at hb
    rw [List.cons_append, piecesFrom, if_neg hc, ih hrest hb]
    rfl

/-- The text in front of the first comma outside of groups is a piece. -/
theorem piecesFrom_append_comma (ha : Whole ',' a) (b : List Char) :
    piecesFrom false 0 (a ++ ',' :: b) = a :: piecesFrom false 0 b := by
  have hcomma : piecesFrom (endsOdd false a) (0 + depth false a) (',' :: b) = [] :: piecesFrom false 0 b := by
    rw [ha.closed, piecesFrom, if_pos ⟨rfl, rfl⟩]
  have hinside : ∀ x y, a = x ++ ',' :: y → 0 + depth false x ≠ 0 := by simpa using ha.inside
  rw [piecesFrom_append hinside hcomma, List.append_nil]

/-- A text without such a comma is one piece. -/
theorem piecesFrom_of_whole (ha : Whole ',' a) : piecesFrom false 0 a = [a] := by
  have hinside : ∀ x y, a = x ++ ',' :: y → 0 + depth false x ≠ 0 := by simpa using ha.inside
  simpa using piecesFrom_append hinside (b := []) rfl

/-! ### Reading an argument -/

/-- The text of an open group up to the brace that closes it, and what stands behind that brace; `d`
groups are open in front of the text. -/
def closeFrom (odd : Bool) (d : ℤ) : List Char → Option (List Char × List Char)
  | [] => none
  | c :: cs =>
    if d + weight odd c = 0 then some ([], cs)
    else (closeFrom (c = '\\' && !odd) (d + weight odd c) cs).map fun p => (c :: p.1, p.2)

/-- The key and the value of an argument: a key of letters, an equals sign, and one group. -/
def argument? (piece : List Char) : Option (String × String) :=
  let text := piece.dropWhile (· = ' ')
  let key := text.takeWhile Char.isAlpha
  match text.dropWhile Char.isAlpha with
  | '=' :: '\x7b' :: rest =>
    match closeFrom false 1 rest with
    | some (value, []) => if key = [] then none else some (String.ofList key, String.ofList value)
    | _ => none
  | _ => none

/-- The arguments of an argument list with their keys, if it is one. -/
def readArguments (s : String) : Option (List (String × String)) :=
  if s = "" then some [] else (piecesFrom false 0 s.toList).mapM argument?

/-- A group ends where its brace is closed. -/
theorem closeFrom_append {odd : Bool} {d : ℤ} {rest : List Char} (h : ∀ x, x <+: a → 0 < d + depth odd x)
    (hd : d + depth odd a = 1) (heven : endsOdd odd a = false) :
    closeFrom odd d (a ++ '\x7d' :: rest) = some (a, rest) := by
  induction a generalizing odd d with
  | nil =>
    obtain rfl : odd = false := heven
    have hclosed : d + weight false '\x7d' = 0 := by
      have hweight : weight false '\x7d' = -1 := rfl
      simp only [depth] at hd
      omega
    rw [List.nil_append, closeFrom, if_pos hclosed]
  | cons c a ih =>
    have hc : d + weight odd c ≠ 0 := by
      have hfirst := h [c] ⟨a, rfl⟩
      simp only [depth] at hfirst
      omega
    have hrest : ∀ x, x <+: a → 0 < d + weight odd c + depth (c = '\\' && !odd) x := by
      intro x hx
      have hdepth := h (c :: x) (List.cons_prefix_cons.mpr ⟨rfl, hx⟩)
      simp only [depth] at hdepth
      omega
    rw [depth, ← Int.add_assoc] at hd
    rw [List.cons_append, closeFrom, if_neg hc, ih hrest hd heven]
    rfl

/-- The group of a value ends behind the value. -/
theorem IsValue.closeFrom_eq {value : String} (h : IsValue value) (rest : List Char) :
    closeFrom false 1 (value.toList ++ '\x7d' :: rest) = some (value.toList, rest) := by
  refine closeFrom_append (fun x hx => ?_) ?_ h.2
  · have hnonneg := h.1.nonneg x hx
    omega
  · rw [h.1.closed, Int.add_zero]

/-- An argument is read as its key and its value, with or without a space in front. -/
theorem argument?_append {lead : List Char} (hlead : lead.all (· = ' ')) {p : String × String} (hkey : IsKey p.1)
    (hvalue : IsValue p.2) : argument? (lead ++ argumentChars p) = some p := by
  have hletters : ∀ c ∈ p.1.toList, c.isAlpha = true := List.all_eq_true.mp hkey.2
  have hspaces : (lead ++ argumentChars p).dropWhile (· = ' ') = argumentChars p := by
    obtain ⟨c, key, hc⟩ := List.exists_cons_of_ne_nil hkey.1
    have hletter : c ≠ ' ' := by
      rintro rfl
      exact absurd (hletters ' ' (hc ▸ List.mem_cons_self)) (by decide)
    rw [List.dropWhile_append_of_pos (List.all_eq_true.mp hlead), argumentChars, hc]
    simp [hletter]
  have hsign : ¬ '='.isAlpha := by decide
  have htake : (argumentChars p).takeWhile Char.isAlpha = p.1.toList := by
    rw [argumentChars, List.takeWhile_append_of_pos hletters]
    simp [hsign]
  have hdrop : (argumentChars p).dropWhile Char.isAlpha = '=' :: '\x7b' :: (p.2.toList ++ ['\x7d']) := by
    rw [argumentChars, List.dropWhile_append_of_pos hletters]
    simp [hsign]
  simp only [argument?, hspaces, htake, hdrop, hvalue.closeFrom_eq [], if_neg hkey.1, String.ofList_toList]

theorem mapM_piecesFrom (hpairs : pairs ≠ []) (h : ∀ p ∈ pairs, IsKey p.1 ∧ IsValue p.2) {lead : List Char}
    (hlead : lead.all (· = ' ')) :
    (piecesFrom false 0 (lead ++ (argumentText pairs).toList)).mapM argument? = some pairs := by
  induction pairs generalizing lead with
  | nil => exact absurd rfl hpairs
  | cons p pairs ih =>
    obtain ⟨⟨hkey, hvalue⟩, hrest⟩ := List.forall_mem_cons.mp h
    have hargument := argument?_append hlead hkey hvalue
    have hwhole : Whole ',' (lead ++ argumentChars p) := by
      have hspaces : ∀ c ∈ lead, c = ' ' := by simpa using hlead
      have hplain : ∀ c ∈ lead, isGrouping c = false := fun c hc => by rw [hspaces c hc]; decide
      have hcomma : ',' ∉ lead := fun hc => absurd (hspaces _ hc) (by decide)
      exact (Whole.of_not_mem (depth_of_not_isGrouping hplain) (endsOdd_of_not_isGrouping hplain) hcomma).append
        (whole_argument hkey hvalue (by decide))
    rw [toList_argumentText_cons]
    split
    · rename_i hnil
      rw [piecesFrom_of_whole hwhole, hnil]
      simp [hargument]
    · rename_i hne
      have hspace : [' '].all (· = ' ') = true := by decide
      have hnext := ih hne hrest hspace
      rw [List.singleton_append] at hnext
      rw [← List.append_assoc, piecesFrom_append_comma hwhole, List.mapM_cons, hargument, hnext]
      rfl

/-! ### Calls -/

namespace Candidates

variable {args : Candidates}

/-- The arguments that are written are the candidates that show something. -/
theorem shown_eq (args : Candidates) :
    args.shown = (args.filter fun p => isVisible p.2).map fun p => (p.1, escape? p.2) := by
  rw [Candidates.shown, List.filter_map]
  refine congrArg _ (List.filter_congr fun p _ => ?_)
  rw [Bool.eq_iff_iff, isVisible_iff, ← escape?_ne_empty_iff]
  simp

theorem isKey_of_mem_shown (hkeys : ∀ p ∈ args, IsKey p.1) : ∀ p ∈ args.shown, IsKey p.1 ∧ IsValue p.2 := by
  rw [shown_eq]
  intro p hp
  obtain ⟨q, hq, rfl⟩ := List.mem_map.mp hp
  exact ⟨hkeys q (List.mem_filter.mp hq).1, isValue_escape? q.2⟩

theorem readArguments_text (hkeys : ∀ p ∈ args, IsKey p.1) : readArguments args.text = some args.shown := by
  have hpairs := isKey_of_mem_shown hkeys
  rw [text_eq]
  generalize args.shown = pairs at hpairs ⊢
  cases pairs with
  | nil => rfl
  | cons p pairs =>
    have hne : argumentText (p :: pairs) ≠ "" := by
      rw [ne_eq, ← String.toList_inj, toList_argumentText_cons]
      split <;> simp [argumentChars]
    have hlead : ([] : List Char).all (· = ' ') = true := rfl
    have hread := mapM_piecesFrom (List.cons_ne_nil p pairs) hpairs hlead
    rw [readArguments, if_neg hne]
    exact hread

theorem whole_text (hkeys : ∀ p ∈ args, IsKey p.1) : Whole ']' args.text.toList := by
  rw [text_eq]
  exact whole_argumentText (isKey_of_mem_shown hkeys)

/-- The bracket behind the argument list is the first one outside of its groups. -/
theorem firstOutside_text (hkeys : ∀ p ∈ args, IsKey p.1) {before : List Char} (hbefore : Whole ']' before) :
    FirstOutside ']' (before ++ args.text.toList) (before ++ args.text.toList ++ [']']) := by
  have hwhole := hbefore.append (whole_text hkeys)
  exact ⟨List.prefix_rfl, hwhole.closed, hwhole.inside⟩

/-- The name of a command with its opening bracket, if it neither groups nor holds a bracket itself. The
backslash makes the next character count for nothing, and that one is plain anyway. -/
theorem whole_name {name : List Char} (h : ∀ c ∈ name, isGrouping c = false ∧ c ≠ ']') :
    Whole ']' ('\\' :: (name ++ ['['])) := by
  have hplain : ∀ c ∈ name ++ ['['], isGrouping c = false := by
    intro c hc
    rcases List.mem_append.mp hc with hc | hc
    · exact (h c hc).1
    · rw [List.mem_singleton.mp hc]
      decide
  have hne : name ++ ['['] ≠ [] := List.append_ne_nil_of_right_ne_nil name (List.cons_ne_nil '[' [])
  obtain ⟨c, cs, hcs⟩ := List.exists_cons_of_ne_nil hne
  have hrest : ∀ d ∈ cs, isGrouping d = false := fun d hd => hplain d (hcs ▸ List.mem_cons_of_mem c hd)
  refine .of_not_mem ?_ ?_ ?_
  · rw [hcs]
    simpa [depth, weight] using depth_of_not_isGrouping hrest
  · rw [hcs]
    simpa [endsOdd] using endsOdd_of_not_isGrouping hrest
  · simp only [List.mem_cons, List.mem_append, List.not_mem_nil, or_false, not_or]
    exact ⟨by decide, fun hc => (h _ hc).2 rfl, by decide⟩

/-- **Arguments can be read back.** From the argument list are read the candidates that show something,
in order, each under its key and with its escaped value. A command is written unless no candidate shows
something, and the bracket that closes it is the first one outside of groups behind its opening bracket,
and the first one at all if its name has no bracket, brace or backslash. -/
theorem text_readable (args : Candidates) (hkeys : ∀ p ∈ args, IsKey p.1) :
    readArguments args.text =
        some ((args.filter fun p => isVisible p.2).map fun p => (p.1, escape? p.2)) ∧
      ∀ name, (args.command? name = none ↔ ∀ p ∈ args, ¬ Shows p.2) ∧
        ∀ call, args.command? name = some call →
          call.toList = '\\' :: (name.toList ++ ['[']) ++ args.text.toList ++ [']'] ∧
          FirstOutside ']' args.text.toList (args.text.toList ++ [']']) ∧
          ((∀ c ∈ name.toList, isGrouping c = false ∧ c ≠ ']') →
            FirstOutside ']' ('\\' :: (name.toList ++ ['[']) ++ args.text.toList) call.toList) := by
  refine ⟨by rw [readArguments_text hkeys, shown_eq], fun name => ⟨?_, fun call hcall => ?_⟩⟩
  · rw [command?_eq_none_iff]
    simp
  · have htext : call.toList = '\\' :: (name.toList ++ ['[']) ++ args.text.toList ++ [']'] := by
      rw [Candidates.command?, Latex.command?] at hcall
      split at hcall
      · cases hcall
      · rw [← Option.some.inj hcall]
        simp
    refine ⟨htext, firstOutside_text hkeys (.of_not_mem rfl rfl List.not_mem_nil), fun hname => ?_⟩
    rw [htext]
    exact firstOutside_text hkeys (whole_name hname)

/-- A company whose name spells the end of a call, and no position. -/
def misleading : Candidates := [("position", some " "), ("company", some "A\x7d, key=\x7bB\x7d]")]

theorem text_readable_misleading :
    readArguments misleading.text = some [("company", escape "A\x7d, key=\x7bB\x7d]")] ∧
      FirstOutside ']' misleading.text.toList (misleading.text.toList ++ [']']) := by
  have hkeys : ∀ p ∈ misleading, IsKey p.1 := by
    simp only [misleading, List.forall_mem_cons]
    exact ⟨by decide, by decide, List.forall_mem_nil _⟩
  obtain ⟨hread, hcalls⟩ := text_readable misleading hkeys
  obtain ⟨-, hcall⟩ := hcalls "experienceItem"
  exact ⟨hread.trans (by decide), (hcall _ rfl).2.1⟩

end Candidates

end Vitae.Latex
