import Vitae.Proofs.Layout.Body
import Vitae.Proofs.Text.Place

/-!
# Backslashes and reserved characters in bodies

What stands at a place of a body stands on the line through it, and so do the backslashes
directly in front of it. So what is known of lines tells what stands at places: a
backslash begins a command or an escape sequence (`exists_leads`), and a reserved character
stands bare only where one may (`isAllowed_of_mem_reserved`). It may in a comment, and in
the lines that are exempt: in the link of the footer within the target only
(`inTarget_of_linkLine`), and in the rows at the head as the separator of columns.
-/

namespace Vitae.Layout

open Text Latex Section

/-! ### Lines that may show reserved characters -/

/-- Comments show a percent sign at the front and nothing else. -/
theorem eq_nil_of_mem_comments {l : String} (hl : l ∈ comments) {x y : List Char} {c : Char}
    (hline : l.toList = x ++ c :: y) (hx : endsOdd false x = false) (hc : c ∈ reserved) :
    x = [] ∧ c = '%' := by
  obtain ⟨rest, rfl, hrest⟩ := exists_of_mem_comments hl
  have hline : '%' :: rest.toList = x ++ c :: y := by simpa using hline
  cases x with
  | nil => exact ⟨rfl, (List.cons.inj hline).1.symm⟩
  | cons d x =>
    obtain ⟨rfl, hrest'⟩ := List.cons.inj hline
    have hcoded := hrest.coded
    rw [hrest'] at hcoded
    exact absurd ((isCoded_at hcoded hx).2 hc) List.not_mem_nil

/-- A place in the target of the link in the footer, given what stands before and behind it on
its line. -/
def InTarget (url : Option String) (x y : List Char) : Prop :=
  ∃ t t' rest, x = linkStart.toList ++ '\x7b' :: t ∧ y = t' ++ '\x7d' :: rest ∧ t' ≠ [] ∧
    t ++ t' = (linkTarget (compactUrl url)).toList

/-- The link shows reserved characters in its target only. -/
theorem inTarget_of_linkLine {url : Option String} {x y : List Char} {c : Char}
    (hline : (linkLine url).toList = x ++ c :: y) (hx : endsOdd false x = false) (hc : c ∈ reserved) :
    InTarget url x (c :: y) := by
  have htarget := (clean_linkTarget (compactUrl url)).even
  have hescape : Clean fullWatch (escape (compactUrl url)) := clean_escape _
  have hopen : isCoded [] true (endsOdd false linkStart.toList) ['\x7b'] := by
    rw [firm_linkStart.even]
    rfl
  have hfront := isCoded_append firm_linkStart.coded hopen (.inr ⟨'\x7b', rfl, by decide⟩)
  have hfrontEven : endsOdd false (linkStart.toList ++ ['\x7b']) = false := by
    rw [endsOdd_append, firm_linkStart.even]
    rfl
  have hback : isCoded [] true false
      ('\x7d' :: '\x7b' :: ((escape (compactUrl url)).toList ++ ['\x7d'])) := by
    rw [isCoded_cons_of_plain (by decide)]
    exact isCoded_group (isCoded_final hescape.coded) hescape.even
  have hparts : (linkStart.toList ++ ['\x7b']) ++ ((linkTarget (compactUrl url)).toList ++
      '\x7d' :: '\x7b' :: ((escape (compactUrl url)).toList ++ ['\x7d'])) = x ++ c :: y := by
    rw [← hline, linkLine, String.toList_append, String.toList_append, toList_braced, toList_braced]
    simp only [List.append_assoc, List.cons_append, List.nil_append]
  obtain ⟨t, t', hxt, hy, hne, htt'⟩ := exists_in_middle hfront hfrontEven htarget hback hparts hx hc
  exact ⟨t, t', _, by rw [hxt, List.append_assoc]; rfl, hy, hne, htt'⟩

/-! ### Places of bodies -/

/-- Where a reserved character may stand bare. -/
inductive IsAllowed (layout : Layout) (r : Resume) (x y : List Char) : Char → Prop where
  /-- Any of them in the target of the link. -/
  | target {c : Char} : layout = .standard →
      InTarget r.trackingUrl (afterLastFeed x) (c :: y.takeWhile (· ≠ '\n')) → IsAllowed layout r x y c
  /-- A percent sign at the front of a comment. -/
  | comment {l : String} : l ∈ comments → l.toList = '%' :: y.takeWhile (· ≠ '\n') →
      afterLastFeed x = [] → IsAllowed layout r x y '%'
  /-- The separator of columns in a row at the head. -/
  | separator {l : String} : layout = .regional → l ∈ Regional.headerRows r →
      l.toList = afterLastFeed x ++ '&' :: y.takeWhile (· ≠ '\n') → IsAllowed layout r x y '&'

theorem IsAllowed.inTarget {layout : Layout} {r : Resume} {x y : List Char} {c : Char}
    (h : IsAllowed layout r x y c) (hpercent : c ≠ '%') (hseparator : c ≠ '&') :
    InTarget r.trackingUrl (afterLastFeed x) (c :: y.takeWhile (· ≠ '\n')) := by
  cases h with
  | target _ htarget => exact htarget
  | comment => exact absurd rfl hpercent
  | separator => exact absurd rfl hseparator

/-- The backslashes directly in front of a place are on its line. -/
theorem endsOdd_afterLastFeed (x : List Char) : endsOdd false (afterLastFeed x) = endsOdd false x := by
  rcases afterLastFeed_cases x with hx | ⟨lines, hlines⟩
  · rw [hx]
  · conv_rhs => rw [hlines, endsOdd_append]
    rfl

section places

variable {lines exempt : List String} (h : Tidy lines exempt) {x y : List Char} {c : Char}
  (htext : bodyText lines = x ++ c :: y)
include h htext

/-- What is not blank stands on a line of the blocks. -/
theorem exists_line_of_place (hc : isBlank c = false) :
    ∃ l ∈ lines, l.toList = afterLastFeed x ++ c :: y.takeWhile (· ≠ '\n') := by
  have hfeed : c ≠ '\n' := by
    rintro rfl
    exact absurd hc (by decide)
  have hline : lineAt x (c :: y) = afterLastFeed x ++ c :: y.takeWhile (· ≠ '\n') := by
    rw [lineAt, List.takeWhile_cons_of_pos (by simpa using hfeed)]
  have hmem := lineAt_mem_splitChars x (c :: y)
  rw [← htext, hline] at hmem
  rcases blank_or_mem_of_mem_lines h hmem with hblank | hl
  · have hcb : isBlank c := List.all_eq_true.mp hblank c (by simp)
    rw [hc] at hcb
    exact absurd hcb (by decide)
  · exact hl

/-- A backslash begins a command or an escape sequence. -/
theorem exists_leads (hc : c = '\\') (hx : endsOdd false x = false) : ∃ n ∈ vocabulary, Leads n (c :: y) := by
  obtain ⟨l, hl, hline⟩ := exists_line_of_place h htext (by rw [hc]; decide)
  have hcoded := (h.sound l hl).coded
  rw [hline] at hcoded
  obtain ⟨n, hn, hled⟩ := (isCoded_at hcoded (by rw [endsOdd_afterLastFeed, hx])).1 hc
  refine ⟨n, hn, ?_⟩
  rcases takeWhile_feed_cases y with hy | ⟨rest, hrest⟩
  · rw [hy] at hled
    exact leads_of_isLedBy hled
  · have hsplit : c :: y = (c :: y.takeWhile (· ≠ '\n')) ++ '\n' :: rest := by
      rw [List.cons_append, ← hrest]
    have hled : isLedBy true (c :: y) n := by
      rw [hsplit]
      exact isLedBy_append hled (.inr ⟨'\n', rfl, by decide⟩)
    exact leads_of_isLedBy hled

/-- A reserved character is bare only in comments and in exempt lines. -/
theorem exists_loose_line (hx : endsOdd false x = false) (hc : c ∈ reserved) :
    ∃ l, (l ∈ comments ∨ l ∈ exempt) ∧ l.toList = afterLastFeed x ++ c :: y.takeWhile (· ≠ '\n') := by
  have hblank : reserved.all (!isBlank ·) := by decide
  obtain ⟨l, hl, hline⟩ := exists_line_of_place h htext (by simpa using List.all_eq_true.mp hblank c hc)
  rcases h.guarded l hl with (hcoded | hcomment) | hexempt
  · rw [hline] at hcoded
    exact absurd ((isCoded_at hcoded (by rw [endsOdd_afterLastFeed, hx])).2 hc) List.not_mem_nil
  · exact ⟨l, .inl hcomment, hline⟩
  · exact ⟨l, .inr hexempt, hline⟩

end places

/-- In the body of a layout a reserved character is bare only where it may be. -/
theorem isAllowed_of_mem_reserved {layout : Layout} {r : Resume} {lines : List String}
    (h : Tidy lines (layout.exempt r)) {x y : List Char} {c : Char} (htext : bodyText lines = x ++ c :: y)
    (hx : endsOdd false x = false) (hc : c ∈ reserved) : IsAllowed layout r x y c := by
  have hx' : endsOdd false (afterLastFeed x) = false := by rw [endsOdd_afterLastFeed, hx]
  obtain ⟨l, hcomment | hexempt, hline⟩ := exists_loose_line h htext hx hc
  · obtain ⟨hnil, rfl⟩ := eq_nil_of_mem_comments hcomment hline hx' hc
    rw [hnil] at hline
    exact .comment hcomment hline hnil
  · cases layout with
    | standard =>
      rw [List.mem_singleton.mp hexempt] at hline
      exact .target rfl (inTarget_of_linkLine hline hx' hc)
    | regional =>
      have hrow := (Regional.isRow_of_mem_headerRows hexempt).separated
      rw [hline] at hrow
      obtain rfl := List.mem_singleton.mp ((isCoded_at hrow hx').2 hc)
      exact .separator rfl hexempt hline
    | undefined => exact absurd hexempt List.not_mem_nil

/-- A line that shows something stays a line of the body. -/
theorem mem_splitChars_bodyText {lines exempt : List String} (h : Tidy lines exempt) {l : String}
    (hl : l ∈ lines) (hshown : isBlankChars l.toList = false) :
    l.toList ∈ splitChars '\n' (bodyText lines) := by
  have hmem : l.toList ∈ shownLines (lines.map String.toList) :=
    List.mem_filter.mpr ⟨List.mem_map_of_mem hl, by rw [hshown]; rfl⟩
  rw [← shownLines_bodyText h] at hmem
  exact (List.mem_filter.mp hmem).1

/-- The rows at the head are lines of the body, each with one separator of columns. -/
theorem headerRows_bodyText {r : Resume} {exempt : List String}
    (h : Tidy (Regional.blocks r).flatten exempt) {l : String} (hl : l ∈ Regional.headerRows r) :
    l.toList ∈ splitChars '\n' (bodyText (Regional.blocks r).flatten) ∧ countBare '&' false l.toList = 1 := by
  have hsingle := (Regional.isRow_of_mem_headerRows hl).single
  have hamp : '&' ∈ l.toList := mem_of_countBare_ne_zero (by rw [hsingle]; decide)
  have hshown : isBlankChars l.toList = false := by
    rw [isBlankChars, List.all_eq_false]
    exact ⟨'&', hamp, by decide⟩
  have hlines : l ∈ (Regional.blocks r).flatten :=
    List.mem_flatten.mpr ⟨_, List.mem_cons_self, List.mem_of_mem_drop (List.mem_of_mem_take hl)⟩
  exact ⟨mem_splitChars_bodyText h hlines hshown, hsingle⟩

end Vitae.Layout
