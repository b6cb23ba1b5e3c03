import Vitae.Proofs.Latex.Arguments
import Vitae.Proofs.Latex.Braces
import Vitae.Proofs.Latex.Controls
import Vitae.Proofs.Latex.Occurrence
import Vitae.Proofs.Text.Blank

/-!
# Clean text

The parts of a line are clean text: their only blank is the space, their braces are
balanced, they neither hold nor open an empty argument, their backslashes begin commands
that bodies are written with, with their whole names, no reserved character is bare, and
no watched command begins in them. Clean texts can be put one behind the other, so a line
that is made of fixed pieces and of escaped values is clean when its fixed pieces are,
which a check finds out (`isClean`). Escaped text is clean whatever it was before
(`clean_escape`).

A `Firm` text is one that a group can follow whose text may be empty: it does not end in
an equals sign, but may end in the name of a command. So may the `Ending` of a line.
-/

namespace Vitae.Latex

open Text

/-- Commands that are watched. -/
structure Watch where
  /-- What they begin with, as far as it tells them from the other commands. -/
  stems : List (List Char)
  /-- They are commands, and no escape sequence can be taken for one of them. -/
  areCommands : ∀ n ∈ stems,
    n.head? = some '\\' ∧ ∀ e ∈ escapeSequences, NowhereIn n e := by decide
  /-- The reserved characters that may be bare. -/
  bare : List Char := []

/-- Text that is closed in itself. -/
structure Closed (W : Watch) (s : String) : Prop where
  /-- The only blank is the space. -/
  spaces : ∀ c ∈ s.toList, isBlank c → c = ' '
  /-- All groups are closed. -/
  balanced : Balanced s.toList
  /-- The backslashes at its end are even in number. -/
  even : endsOdd false s.toList = false
  /-- No watched command begins in it. -/
  nowhere : ∀ n ∈ W.stems, NowhereIn n s.toList

/-- Closed text that neither holds nor opens an empty argument. -/
structure Clean (W : Watch) (s : String) : Prop extends Closed W s where
  /-- It leads from outside of arguments to outside of arguments. -/
  calm : Calm s.toList
  /-- Its backslashes begin commands, and it does not end within the name of one. -/
  coded : isCoded W.bare false false s.toList

/-- Closed text that a group can follow. -/
structure Firm (W : Watch) (s : String) : Prop extends Closed W s where
  /-- It does not end in an equals sign. -/
  settled : Settled s.toList
  /-- Its backslashes begin commands. -/
  coded : isCoded W.bare true false s.toList

/-- Closed text with which a line can end. -/
structure Ending (W : Watch) (s : String) : Prop extends Closed W s where
  /-- It leads from outside of arguments to outside of arguments. -/
  calm : Calm s.toList
  /-- Its backslashes begin commands. -/
  coded : isCoded W.bare true false s.toList

variable {V W : Watch} {s t : String}

theorem Closed.append (hs : Closed W s) (ht : Closed W t) : Closed W (s ++ t) := by
  refine ⟨?_, ?_, ?_, ?_⟩
  · intro c hc
    rw [String.toList_append, List.mem_append] at hc
    exact hc.elim (hs.spaces c) (ht.spaces c)
  · rw [String.toList_append]
    exact hs.balanced.append hs.even ht.balanced
  · rw [String.toList_append, endsOdd_append, hs.even, ht.even]
  · intro n hn
    rw [String.toList_append]
    exact (hs.nowhere n hn).append (ht.nowhere n hn)

theorem clean_empty : Clean W "" where
  spaces := by simp
  balanced := balanced_nil
  even := rfl
  nowhere := fun _ _ => nowhereIn_nil
  calm := calm_nil
  coded := isCoded_nil

theorem Clean.append (hs : Clean W s) (ht : Clean W t) : Clean W (s ++ t) := by
  refine ⟨hs.toClosed.append ht.toClosed, ?_, ?_⟩
  · rw [String.toList_append]
    exact hs.calm.append ht.calm
  · rw [String.toList_append]
    exact isCoded_append hs.coded (by rw [hs.even]; exact ht.coded) (.inl rfl)

/-- Clean texts with a clean text between them. -/
theorem Clean.intercalate (hs : Clean W s) {ts : List String} (hts : ∀ t ∈ ts, Clean W t) :
    Clean W (s.intercalate ts) := by
  induction ts with
  | nil => exact clean_empty
  | cons t ts ih =>
    have ht := hts t List.mem_cons_self
    cases ts with
    | nil => rwa [String.intercalate_singleton]
    | cons u ts =>
      rw [String.intercalate_cons_cons]
      exact (ht.append hs).append (ih fun v hv => hts v (List.mem_cons_of_mem _ hv))

/-- Fewer commands are watched, and more characters may be bare. -/
theorem Clean.mono (hVW : V.stems ⊆ W.stems) (hbare : W.bare ⊆ V.bare) (h : Clean W s) : Clean V s :=
  { h with
    nowhere := fun n hn => h.nowhere n (hVW hn)
    coded := isCoded_mono hbare h.coded }

theorem Ending.mono (hVW : V.stems ⊆ W.stems) (hbare : W.bare ⊆ V.bare) (h : Ending W s) : Ending V s :=
  { h with
    nowhere := fun n hn => h.nowhere n (hVW hn)
    coded := isCoded_mono hbare h.coded }

theorem Firm.mono (hVW : V.stems ⊆ W.stems) (hbare : W.bare ⊆ V.bare) (h : Firm W s) : Firm V s :=
  { h with
    nowhere := fun n hn => h.nowhere n (hVW hn)
    coded := isCoded_mono hbare h.coded }

/-- Clean text is firm if it does not end in an equals sign. -/
theorem Clean.firm (h : Clean W s) (hs : Settled s.toList) : Firm W s :=
  ⟨h.toClosed, hs, isCoded_final h.coded⟩

theorem Clean.ending (h : Clean W s) : Ending W s := ⟨h.toClosed, h.calm, isCoded_final h.coded⟩

theorem Firm.ending (h : Firm W s) : Ending W s := ⟨h.toClosed, h.settled.calm, h.coded⟩

theorem Clean.append_ending (hs : Clean W s) (ht : Ending W t) : Ending W (s ++ t) := by
  refine ⟨hs.toClosed.append ht.toClosed, ?_, ?_⟩
  · rw [String.toList_append]
    exact hs.calm.append ht.calm
  · rw [String.toList_append]
    exact isCoded_append hs.coded (by rw [hs.even]; exact ht.coded) (.inl rfl)

/-! ### Fixed texts -/

/-- Whether the space is the only blank. -/
def isSpaced (cs : List Char) : Bool := cs.all fun c => c = ' ' || !isBlank c

theorem eq_space_of_isSpaced {cs : List Char} (h : isSpaced cs) : ∀ c ∈ cs, isBlank c → c = ' ' := by
  intro c hc hblank
  simpa [hblank] using List.all_eq_true.mp h c hc

/-- Whether a text is closed. Commands are looked for only where a backslash stands. -/
def isClosed (W : Watch) (cs : List Char) : Bool :=
  isSpaced cs && closesAll false 0 cs &&
    cs.tails.all fun u => u.head? ≠ some '\\' || W.stems.all fun n => decide (Apart n u)

/-- Whether a text is clean. -/
def isClean (W : Watch) (cs : List Char) : Bool :=
  isClosed W cs && decide (Calm cs) && isCoded W.bare false false cs

/-- Whether a text is firm. -/
def isFirm (W : Watch) (cs : List Char) : Bool :=
  isClosed W cs && decide (Settled cs) && isCoded W.bare true false cs

theorem closed_of_isClosed (h : isClosed W s.toList) : Closed W s := by
  simp only [isClosed, Bool.and_eq_true, List.all_eq_true, Bool.or_eq_true,
    decide_eq_true_eq] at h
  obtain ⟨⟨hspaced, hcloses⟩, hnowhere⟩ := h
  obtain ⟨hbalanced, heven⟩ := balanced_of_closesAll hcloses
  refine ⟨eq_space_of_isSpaced hspaced, hbalanced, heven, fun n hn u hu hne => ?_⟩
  rcases hnowhere u hu with hhead | hapart
  · exact apart_of_head? (W.areCommands n hn).1 hhead hne
  · exact hapart n hn

theorem clean_of_isClean (h : isClean W s.toList) : Clean W s := by
  simp only [isClean, Bool.and_eq_true, decide_eq_true_eq] at h
  exact ⟨closed_of_isClosed h.1.1, h.1.2, h.2⟩

/-- The check of a text that is spelled out, which need not be decoded first. -/
theorem clean_literal {cs : List Char} (h : isClean W cs) : Clean W (String.ofList cs) :=
  clean_of_isClean (by rwa [String.toList_ofList])

theorem firm_literal {cs : List Char} (h : isFirm W cs) : Firm W (String.ofList cs) := by
  simp only [isFirm, Bool.and_eq_true, decide_eq_true_eq] at h
  refine ⟨closed_of_isClosed ?_, ?_, ?_⟩
  · rw [String.toList_ofList]
    exact h.1.1
  · rw [String.toList_ofList]
    exact h.1.2
  · rw [String.toList_ofList]
    exact h.2

/-! ### Groups -/

@[simp] theorem toList_braced (s : String) : (braced s).toList = '\x7b' :: (s.toList ++ ['\x7d']) := by
  simp [braced]

/-- No command begins where there is no backslash. -/
theorem Watch.nowhere_of_no_backslash (W : Watch) {a : List Char} (ha : '\\' ∉ a) :
    ∀ n ∈ W.stems, NowhereIn n a := fun n hn => nowhereIn_of_no_backslash (W.areCommands n hn).1 ha

theorem Closed.group (h : Closed W s) : Closed W (braced s) := by
  refine ⟨?_, ?_, ?_, ?_⟩
  · intro c hc hb
    rw [toList_braced, List.mem_cons, List.mem_append, List.mem_singleton] at hc
    rcases hc with rfl | hc | rfl
    · exact absurd hb (by decide)
    · exact h.spaces c hc hb
    · exact absurd hb (by decide)
  · rw [toList_braced]
    exact h.balanced.group h.even
  · rw [toList_braced]
    exact endsOdd_group _ h.even
  · intro n hn
    have hopen := W.nowhere_of_no_backslash (a := ['\x7b']) (by decide) n hn
    have hclose := W.nowhere_of_no_backslash (a := ['\x7d']) (by decide) n hn
    rw [toList_braced]
    exact hopen.append ((h.nowhere n hn).append hclose)

/-- A firm text with a group behind it, which may be empty. -/
theorem Firm.argument_of_ending (hs : Firm W s) (ht : Ending W t) : Clean W (s ++ braced t) := by
  refine ⟨hs.toClosed.append ht.toClosed.group, ?_, ?_⟩
  · rw [String.toList_append, toList_braced]
    exact (hs.settled.braced ht.calm).calm
  · rw [String.toList_append, toList_braced]
    refine isCoded_append hs.coded ?_ (.inr ⟨'\x7b', rfl, by decide⟩)
    rw [hs.even]
    exact isCoded_group ht.coded ht.even

theorem Firm.argument (hs : Firm W s) (ht : Clean W t) : Clean W (s ++ braced t) :=
  hs.argument_of_ending ht.ending

/-- One more group can follow. -/
theorem Firm.braced (hs : Firm W s) (ht : Clean W t) : Firm W (s ++ braced t) := by
  refine (hs.argument ht).firm ?_
  rw [String.toList_append, toList_braced]
  exact hs.settled.braced ht.calm

/-- A group that is not empty. -/
theorem Clean.braced_of_filled (h : Clean W s) (hf : Filled s.toList) : Clean W (braced s) := by
  refine ⟨h.toClosed.group, ?_, ?_⟩
  · rw [toList_braced]
    exact hf.braced.calm
  · rw [toList_braced]
    exact isCoded_group (isCoded_final h.coded) h.even

/-! ### Text without braces and backslashes -/

theorem calm_of_not_isGrouping {cs : List Char} (h : ∀ c ∈ cs, isGrouping c = false) : Calm cs := by
  induction cs with
  | nil => exact calm_nil
  | cons c cs ih =>
    intro s hs
    have hc := h c List.mem_cons_self
    simp only [isGrouping, Bool.or_eq_false_iff, decide_eq_false_iff_not] at hc
    have hf : s ≠ .found := by rintro rfl; exact absurd hs (by decide)
    have hnext : s.next c ∈ Progress.outer := by
      by_cases he : c = '=' <;> simp [Progress.next, Progress.outer, hf, he, hc]
    exact ih (fun d hd => h d (List.mem_cons_of_mem _ hd)) _ hnext

theorem closed_of_not_isGrouping (h : ∀ c ∈ s.toList, isGrouping c = false)
    (hb : ∀ c ∈ s.toList, isBlank c → c = ' ') : Closed W s where
  spaces := hb
  balanced := balanced_of_not_isGrouping h
  even := endsOdd_of_not_isGrouping h
  nowhere := W.nowhere_of_no_backslash fun hc => absurd (h _ hc) (by decide)

theorem clean_of_not_isGrouping (h : ∀ c ∈ s.toList, isGrouping c = false)
    (hb : ∀ c ∈ s.toList, isBlank c → c = ' ') (hbare : ∀ c ∈ s.toList, c ∈ reserved → c ∈ W.bare) :
    Clean W s where
  toClosed := closed_of_not_isGrouping h hb
  calm := calm_of_not_isGrouping h
  coded := isCoded_of_no_backslash fun c hc =>
    ⟨fun hback => absurd (h c hc) (by rw [hback]; decide), hbare c hc⟩

/-! ### The escaper -/

theorem closed_escapeChar {c : Char} (hc : isBlank c → c = ' ') :
    Closed W (String.ofList (escapeChar c)) := by
  have key : ∀ cs ∈ escapeSequences, isSpaced cs ∧ closesAll false 0 cs := by decide
  have plain : ∀ cs, (∀ e ∈ cs, isGrouping e = false ∧ (isBlank e → e = ' ')) →
      Closed W (String.ofList cs) := fun cs hcs =>
    closed_of_not_isGrouping (by simpa using fun e he => (hcs e he).1)
      (by simpa using fun e he => (hcs e he).2)
  rcases escapeChar_cases c with hs | hdash | ⟨hs, hself⟩
  · obtain ⟨hspaced, hcloses⟩ := key _ hs
    obtain ⟨hbalanced, heven⟩ := balanced_of_closesAll hcloses
    refine ⟨?_, ?_, ?_, ?_⟩
    · rw [String.toList_ofList]
      exact eq_space_of_isSpaced hspaced
    · rwa [String.toList_ofList]
    · rwa [String.toList_ofList]
    · rw [String.toList_ofList]
      exact fun n hn => (W.areCommands n hn).2 _ hs
  · rw [hdash]
    refine plain _ fun e he => ?_
    obtain rfl : e = '-' := by simpa using he
    exact ⟨by decide, fun hblank => absurd hblank (by decide)⟩
  · rw [hself]
    refine plain _ fun e he => ?_
    rw [List.mem_singleton] at he
    subst he
    exact ⟨isGrouping_eq_false_of (· ∉ specials) hs (by decide), hc⟩

theorem clean_escapeChars {cs : List Char} (hcs : ∀ c ∈ cs, isBlank c → c = ' ') :
    Clean W (String.ofList (escapeChars cs)) := by
  induction cs with
  | nil => exact clean_empty
  | cons c cs ih =>
    have hc : Clean W (String.ofList (escapeChar c)) :=
      ⟨closed_escapeChar (hcs c List.mem_cons_self), by
        rw [String.toList_ofList]; exact (filled_escapeChar c).calm, by
        rw [String.toList_ofList]; exact isCoded_escapeChar c⟩
    rw [escapeChars, List.flatMap_cons, String.ofList_append]
    exact hc.append (ih fun d hd => hcs d (List.mem_cons_of_mem _ hd))

/-- Escaped text is clean, whatever it was before. -/
theorem clean_escape (s : String) : Clean W (escape s) :=
  clean_escapeChars fun _ hc hb => eq_space_of_mem_singleLineChars hb hc

theorem clean_escape? (value : Option String) : Clean W (escape? value) := by
  cases value with
  | none => exact clean_empty
  | some s => exact clean_escape s

/-- Escaped text that is not empty makes an argument more than empty. -/
theorem filled_escape (h : escape s ≠ "") : Filled (escape s).toList := by
  rw [toList_escape]
  refine filled_escapeChars fun hs => h ?_
  rw [escape, hs]
  rfl

end Vitae.Latex
