import Vitae.Proofs.Latex.Commands
import Vitae.Proofs.Latex.Decoding
import Vitae.Proofs.Section.Shown
import Vitae.Proofs.Section.Standard
import Vitae.Proofs.Text.PercentDecoding

/-!
# The link in the footer

The footer shows an address twice: as the target of a link, which is the one text of a résumé that is not
escaped but quoted, and as a text to be read. Both are read back from the lines of the footer, as the groups of
its only link (`readLinks_footer`). The target is plain for LaTeX and names the same bytes as the address without
its blanks (`IsTargetOf`), and the text is read as that address.
-/

namespace Vitae.Section

open Text Latex

/-! ### The reader -/

/-- The name of a link. -/
def linkName : List Char := "\\href".toList

/-- The commands of a line from its first link on; none if there is no link in it. -/
def lineLinks? (l : String) : Option (List Command) :=
  (breakAt? linkName l.toList).elim (some []) fun p => readCommands (linkName ++ p.2)

/-- The links of lines. -/
def readLinks (b : Block) : Option (List Command) := (b.mapM lineLinks?).map List.flatten

/-- A line in which no link begins. -/
theorem lineLinks?_eq_nil {l : String} (h : occursIn linkName l.toList = false) : lineLinks? l = some [] := by
  rw [lineLinks?, Option.not_isSome_iff_eq_none.mp (Bool.eq_false_iff.mp h)]
  rfl

/-! ### The target -/

/-- What the target of a link is for an address. -/
structure IsTargetOf (address target : String) : Prop where
  /-- It is made of the characters that need no quoting. -/
  kept : ∀ c ∈ target.toList, isTargetChar c
  /-- These are printed ones of ASCII, and no brace and no backslash is among them. -/
  plain : ∀ c ∈ target.toList, 32 < c.toNat ∧ c.toNat < 127 ∧ isGrouping c = false
  /-- It names the same bytes. -/
  sameBytes : percentDecode target = percentDecode address
  /-- It is the address if that is made of such characters. -/
  verbatim : target = address ↔ ∀ c ∈ address.toList, isTargetChar c
  /-- Nothing is left to be quoted in it. -/
  settled : linkTarget target = target

theorem isTargetOf_linkTarget (address : String) : IsTargetOf address (linkTarget address) where
  kept _ hc := isTargetChar_of_mem_linkTarget hc
  plain c hc := by
    have hkept := isTargetChar_of_mem_linkTarget hc
    obtain ⟨hlow, hhigh⟩ := printed_of_isTargetChar hkept
    exact ⟨hlow, hhigh, isGrouping_eq_false_of (isTargetChar ·) hkept (by decide)⟩
  sameBytes := percentDecode_linkTarget address
  verbatim := linkTarget_eq_self_iff
  settled := linkTarget_eq_self_iff.mpr fun _ hc => isTargetChar_of_mem_linkTarget hc

/-! ### The lines -/

/-- What stands in front of the link. -/
def linkLead : List Char := "\\footnotesize \\color\x7bgray\x7d View the latest version of this resume at ".toList

set_option maxRecDepth 2000 in
theorem toList_linkStart : linkStart.toList = linkLead ++ linkName := by decide

theorem nowhereIn_linkLead : NowhereIn linkName linkLead := by decide

/-- The line with the address shows one link, with its target and its text. -/
theorem lineLinks?_linkLine (url : Option String) :
    lineLinks? (linkLine url) = some [⟨"href", [linkTarget (compactUrl url), escape (compactUrl url)]⟩] := by
  have htarget : IsValue (linkTarget (compactUrl url)) :=
    ⟨(clean_linkTarget (compactUrl url)).balanced, (clean_linkTarget (compactUrl url)).even⟩
  have htext : IsValue (escape (compactUrl url)) := isValue_escape? (some (compactUrl url))
  unfold linkLine
  generalize linkTarget (compactUrl url) = target at htarget ⊢
  generalize escape (compactUrl url) = text at htext ⊢
  have hline : (linkStart ++ braced target ++ braced text).toList =
      linkLead ++ (linkName ++ '\x7b' :: ((target.toList ++ ['\x7d']) ++ (braced text).toList)) := by
    rw [String.toList_append, String.toList_append, toList_linkStart, toList_braced target]
    simp only [List.append_assoc, List.cons_append]
  have hgroups := (Supplies.group htarget).append (Supplies.group htext)
  rw [toList_braced target, List.cons_append] at hgroups
  have hname : IsKey "href" := by decide
  have hread := readAs_command hname (by decide) hgroups
  rw [lineLinks?, hline, nowhereIn_linkLead.breakAt?_eq]
  exact hread.readCommands_eq

/-- The link is the only one of the footer. -/
theorem readLinks_footer {url : Option String} (h : Shows url) :
    readLinks (footer url) = some [⟨"href", [linkTarget (compactUrl url), escape (compactUrl url)]⟩] := by
  have hfooter : footer url = ["", banner "Tracking Footer", "\\vfill", "\\begin\x7bcenter\x7d", linkLine url,
      "\\end\x7bcenter\x7d"] := by
    rw [footer, if_neg (compactUrl_ne_empty_iff.mpr h)]
    rfl
  have hother : ∀ l ∈ ["", banner "Tracking Footer", "\\vfill", "\\begin\x7bcenter\x7d", "\\end\x7bcenter\x7d"],
      lineLinks? l = some [] := by
    have hnone : (["", banner "Tracking Footer", "\\vfill", "\\begin\x7bcenter\x7d", "\\end\x7bcenter\x7d"].all
        fun l => !occursIn linkName l.toList) = true := by decide
    exact fun l hl => lineLinks?_eq_nil (by simpa using List.all_eq_true.mp hnone l hl)
  simp only [List.forall_mem_cons] at hother
  obtain ⟨hempty, hbanner, hfill, hbegin, hend, -⟩ := hother
  simp [readLinks, hfooter, hempty, hbanner, hfill, hbegin, hend, lineLinks?_linkLine]

/-- **The footer shows the address.** It is empty when there is no address or a blank one. Otherwise it has one
link, whose target stands for the address without its blanks, and whose text is read as that address, with two
hyphens for each long dash. -/
theorem footer_links_address :
    (∀ url, footer url = [] ↔ ¬ Shows url) ∧
    ∀ s, Shown s → ∃ address target text, address.toList = s.toList.filter (fun c => !isBlank c) ∧
      readLinks (footer (some s)) = some [⟨"href", [target, text]⟩] ∧ IsTargetOf address target ∧
      decode text = String.ofList (address.toList.flatMap hyphens) := by
  refine ⟨fun url => footer_eq_nil_iff, fun s hs => ?_⟩
  refine ⟨compactUrl (some s), _, _, ?_, readLinks_footer (shows_some.mpr hs), isTargetOf_linkTarget _, ?_⟩
  · rw [compactUrl_some, String.toList_ofList]
  · have hblank : ∀ c ∈ (compactUrl (some s)).toList, isBlank c = false := by
      intro c hc
      rw [compactUrl_some, String.toList_ofList] at hc
      simpa using (List.mem_filter.mp hc).2
    rw [decode, toList_escape, decodeFrom_escapeChars, singleLineChars_of_no_blank hblank]

/-- An address that is quoted in part, with a percent sign in front of a character that has to be quoted. -/
def quotedUrl : String := " https://a.b/ %7e%\u00e9%4\u2014\n"

theorem footer_links_address_quotedUrl : Shown quotedUrl ∧ ∃ address target text,
    address.toList = quotedUrl.toList.filter (fun c => !isBlank c) ∧
      readLinks (footer (some quotedUrl)) = some [⟨"href", [target, text]⟩] ∧ IsTargetOf address target ∧
      decode text = String.ofList (address.toList.flatMap hyphens) :=
  ⟨by decide, footer_links_address.2 quotedUrl (by decide)⟩

end Vitae.Section
