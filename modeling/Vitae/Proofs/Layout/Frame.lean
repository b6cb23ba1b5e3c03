import Vitae.Proofs.Layout.Reserved
import Vitae.Proofs.Text.Seam
import Vitae.Template.Shell

/-!
# The ends of bodies

Each block of a layout begins with a comment, a command or an empty line, and ends with a
group or an empty line (`Framed`), and so does a body. Within a body no reserved character
stands bare in braces that are not those of the link, so the placeholder of a shell comes up
neither in a body nor where a body is put between two other texts (`sealed_bodyText`).
-/

namespace Vitae.Section

open Text Latex Calendar

/-- A line with which a block can begin: a comment, a command, or nothing. -/
def Opens (l : String) : Prop := l.toList.head? ∈ [none, some '%', some '\\']

/-- A line with which a block can end: the end of a group, or nothing. -/
def Shuts (l : String) : Prop := l.toList.getLast? ∈ [none, some '\x7d']

instance (l : String) : Decidable (Opens l) := inferInstanceAs (Decidable (_ ∈ [_, _, _]))
instance (l : String) : Decidable (Shuts l) := inferInstanceAs (Decidable (_ ∈ [_, _]))

/-- A block with its first and its last line, which are two. -/
def Framed (b : Block) : Prop :=
  b = [] ∨ ∃ first middle last, b = first :: (middle ++ [last]) ∧ Opens first ∧ Shuts last

theorem Framed.append {a b : Block} (ha : Framed a) (hb : Framed b) : Framed (a ++ b) := by
  rcases ha with rfl | ⟨first, middle, last, rfl, hfirst, hlast⟩
  · exact hb
  · rcases hb with rfl | ⟨first', middle', last', rfl, -, hlast'⟩
    · rw [List.append_nil]
      exact .inr ⟨first, middle, last, rfl, hfirst, hlast⟩
    · exact .inr ⟨first, middle ++ [last] ++ first' :: middle', last', by simp, hfirst, hlast'⟩

theorem framed_flatten {bs : List Block} (h : ∀ b ∈ bs, Framed b) : Framed bs.flatten := by
  induction bs with
  | nil => exact .inl rfl
  | cons b bs ih =>
    rw [List.flatten_cons]
    exact (h b List.mem_cons_self).append (ih fun c hc => h c (List.mem_cons_of_mem _ hc))

/-! ### Blocks of the standard layout -/

theorem opens_banner (name : String) : Opens (banner name) := by
  have hfirst : (banner name).toList.head? = some '%' := by simp [banner]
  rw [Opens, hfirst]
  decide

theorem shuts_braced (s t : String) : Shuts (s ++ braced t) := by
  have hlast : (s ++ braced t).toList = (s.toList ++ '\x7b' :: t.toList) ++ ['\x7d'] := by simp
  rw [Shuts, hlast, List.getLast?_concat]
  decide

theorem framed_wrap {comment : String} (hcomment : Opens comment) (environment title : String) (body : Block) :
    Framed (wrap comment environment title body) := by
  unfold wrap
  split
  · exact .inl rfl
  · exact .inr ⟨comment, beginTitled environment (escape title) :: (body ++ [endEnvironment environment]), "",
      by simp, hcomment, by decide⟩

theorem framed_contact (p : Person) : Framed (contact p) := by
  unfold contact
  split
  · exact .inl rfl
  · exact .inr ⟨_, [_], _, rfl, opens_banner _, by decide⟩

theorem framed_summary (text : Option String) : Framed (summary text) := by
  unfold summary
  split
  · exact .inl rfl
  · exact .inr ⟨_, [_], _, rfl, opens_banner _, by decide⟩

theorem framed_education {studies : List Study} {today : Date} {b : Block}
    (h : education studies today = .ok b) : Framed b := by
  rw [education] at h
  obtain ⟨items, -, h⟩ := exists_of_bind_eq_ok h
  rw [← Except.ok.inj h]
  exact framed_wrap (opens_banner _) _ _ _

theorem framed_hobbies (entries : List Hobby) : Framed (hobbies entries) := by
  unfold hobbies
  split
  · exact .inl rfl
  · exact framed_wrap (opens_banner _) _ _ _

theorem framed_volunteering (roles : List VolunteerRole) : Framed (volunteering roles) := by
  unfold volunteering
  split
  · exact framed_wrap (opens_banner _) _ _ _
  · exact .inl rfl

theorem framed_extras (entries : List ExtraSection) : Framed (extras entries) := by
  rw [extras]
  split
  · exact .inl rfl
  · exact .inr ⟨_, entries.flatMap extra, _, rfl, opens_banner _, by decide⟩

theorem framed_footer (url : Option String) : Framed (footer url) := by
  rw [footer]
  split
  · exact .inl rfl
  · exact .inr ⟨_, [_, _, _, _], _, rfl, by decide, by decide⟩

end Vitae.Section

namespace Vitae.Regional

open Text Latex Section

theorem framed_header (r : Resume) : Framed (header r) :=
  .inr ⟨_, [_, _, _, _], _, rfl, by decide, by decide⟩

theorem framed_listSection (title : String) (body : Block) : Framed (listSection title body) := by
  have hopens : Opens ("\\section" ++ braced title) := by
    have hfirst : ("\\section" ++ braced title).toList.head? = some '\\' := by simp
    rw [Opens, hfirst]
    decide
  unfold listSection
  split
  · exact .inl rfl
  · exact .inr ⟨_, "  \\resumeSubHeadingListStart" :: (body ++ ["  \\resumeSubHeadingListEnd"]), "", by simp, hopens,
      by decide⟩

theorem framed_declaration (r : Resume) : Framed (declaration r) := by
  rw [declaration]
  split
  · exact .inl rfl
  · exact .inr ⟨_, [], _, rfl, by decide, shuts_braced _ _⟩

end Vitae.Regional

namespace Vitae.Layout

open Text Latex Calendar Section

theorem framed_of_standardSections {r : Resume} {today : Date} {sections : List Block}
    (h : standardSections r today = .ok sections) : ∀ b ∈ sections, Framed b := by
  rw [standardSections] at h
  obtain ⟨education, heducation, h⟩ := exists_of_bind_eq_ok h
  rw [← Except.ok.inj h]
  have hbanner := opens_banner
  simp only [List.forall_mem_cons, List.not_mem_nil, false_implies, implies_true, and_true]
  exact ⟨framed_contact _, framed_summary _, framed_education heducation, framed_wrap (hbanner _) _ _ _,
    framed_wrap (hbanner _) _ _ _, framed_wrap (hbanner _) _ _ _, framed_wrap (hbanner _) _ _ _,
    framed_wrap (hbanner _) _ _ _, framed_wrap (hbanner _) _ _ _, framed_volunteering _,
    framed_wrap (hbanner _) _ _ _, framed_hobbies _, framed_wrap (hbanner _) _ _ _, framed_extras _,
    framed_footer _⟩

/-- The blocks of a layout have a frame together, and they have lines. -/
theorem framed_blocks {layout : Layout} {r : Resume} {today : Date} {bs : List Block}
    (h : layout.blocks r today = .ok bs) : Framed bs.flatten ∧ bs.flatten ≠ [] := by
  cases layout with
  | standard =>
    cases hstandard : standardBlocks r today with
    | error e =>
      rw [blocks, hstandard] at h
      cases h
    | ok standard =>
      rw [blocks, hstandard] at h
      obtain rfl := Except.ok.inj h
      rw [standardBlocks] at hstandard
      obtain ⟨sections, hsections, hstandard⟩ := exists_of_bind_eq_ok hstandard
      rw [← Except.ok.inj hstandard]
      split
      · exact ⟨.inr ⟨_, [_, _, _, _], _, rfl, by decide, by decide⟩, by decide⟩
      · rename_i hsome
        refine ⟨framed_flatten (framed_of_standardSections hsections), fun hnil => hsome ?_⟩
        simpa using List.flatten_eq_nil_iff.mp hnil
  | regional =>
    obtain rfl := Except.ok.inj h
    refine ⟨framed_flatten ?_, by simp [Regional.blocks, Regional.header]⟩
    simp only [Regional.blocks, List.forall_mem_cons, List.not_mem_nil, false_implies, implies_true, and_true]
    exact ⟨Regional.framed_header r, Regional.framed_listSection _ _, Regional.framed_listSection _ _,
      Regional.framed_listSection _ _, Regional.framed_listSection _ _, Regional.framed_listSection _ _,
      Regional.framed_declaration r⟩
  | undefined => exact absurd h (by simp [blocks])

/-! ### The ends of a body -/

section ends

variable {lines exempt : List String} (hframed : Framed lines) (hne : lines ≠ [])
include hframed hne

/-- A body ends with a line feed or a group. -/
theorem exists_bodyText_concat : ∃ w c, bodyText lines = w ++ [c] ∧ (c = '\n' ∨ c = '\x7d') := by
  obtain ⟨first, middle, last, rfl, -, hlast⟩ := hframed.resolve_left hne
  have hmost : (0 : Int) ≤ 1 := by decide
  obtain ⟨w, hw⟩ : ∃ w, ['\n'].intercalate (first.toList :: middle.map String.toList ++ [last.toList]) =
      w ++ '\n' :: last.toList := exists_intercalate_concat _ (List.cons_ne_nil _ _)
  have htext : bodyText (first :: (middle ++ [last])) = limitBlankLinesChars 1 (w ++ '\n' :: last.toList) := by
    rw [bodyText, ← hw]
    simp
  rw [htext]
  rcases List.eq_nil_or_concat last.toList with hnil | ⟨l, c, hl⟩
  · rw [hnil]
    obtain ⟨u, hu⟩ := exists_limitFrom_concat (c := '\n') hmost (.inl rfl) w (.inl rfl)
    exact ⟨u, '\n', hu, .inl rfl⟩
  · rw [List.concat_eq_append] at hl
    obtain rfl : c = '\x7d' := by
      rw [Shuts, hl, List.getLast?_concat] at hlast
      simpa using hlast
    rw [hl, ← List.cons_append, ← List.append_assoc]
    obtain ⟨u, hu⟩ :=
      exists_limitFrom_concat (c := '\x7d') hmost (.inr (by decide)) (w ++ '\n' :: l) (.inl rfl)
    exact ⟨u, '\x7d', hu, .inr rfl⟩

/-- A body begins with a comment, a command or a line feed, as its first line is not limited. -/
theorem exists_bodyText_cons (h : Tidy lines exempt) :
    ∃ c rest, bodyText lines = c :: rest ∧ c ∈ ['%', '\\', '\n'] := by
  obtain ⟨w, d, hend, -⟩ := exists_bodyText_concat hframed hne
  obtain ⟨first, middle, last, hlines, hfirst, -⟩ := hframed.resolve_left hne
  have hmost : (0 : Int) ≤ 1 := by decide
  have hsame := (sameLines_limitFrom hmost (['\n'].intercalate (lines.map String.toList)) (.inl rfl)).1
  rw [List.reverse_nil, List.nil_append, splitChars_intercalate (by simpa using hne) (not_mem_of_tidy h), hlines]
    at hsame
  obtain ⟨ps, hps⟩ := List.head?_eq_some_iff.mp hsame
  have htext : bodyText lines = ['\n'].intercalate (first.toList :: ps) := by
    rw [← hps, intercalate_splitChars, bodyText, hlines]
    rfl
  cases hchars : first.toList with
  | cons c f =>
    have hc : c = '%' ∨ c = '\\' := by
      rw [Opens, hchars] at hfirst
      simpa using hfirst
    refine ⟨c, f ++ (['\n'].intercalate ([] :: ps)), ?_, by simpa using hc.imp_right .inl⟩
    rw [htext, hchars]
    cases ps <;> simp
  | nil =>
    rw [hchars] at htext
    cases ps with
    | nil =>
      rw [htext] at hend
      simp at hend
    | cons p ps => exact ⟨'\n', ['\n'].intercalate (p :: ps), by rw [htext]; simp, by simp⟩

end ends

/-! ### Placeholders -/

/-- A text is cut in one way at the last place of a character. -/
theorem eq_of_append_cons {a a' b b' : List Char} {c : Char} (h : a ++ c :: b = a' ++ c :: b')
    (hb : c ∉ b) (hb' : c ∉ b') : a = a' := by
  rcases List.append_eq_append_iff.mp h with ⟨z, ha, hz⟩ | ⟨z, ha, hz⟩
  · cases z with
    | nil => simpa using ha.symm
    | cons d z => exact absurd (by rw [(List.cons.inj hz).2]; simp) hb
  · cases z with
    | nil => simpa using ha
    | cons d z => exact absurd (by rw [(List.cons.inj hz).2]; simp) hb'

/-- What is special about a placeholder: braces, and a reserved character behind them. -/
def stem : List Char := "\x7b\x7bTEMPLATE_".toList

/-- The stem does not come up in a body. Its reserved character could only stand in the target of the link,
and the brace before that target does not follow another one. -/
theorem stem_not_infix_bodyText {layout : Layout} {r : Resume} {lines : List String}
    (h : Tidy lines (layout.exempt r)) : ¬ stem <:+: bodyText lines := by
  have hstem : stem = "\x7b\x7bTEMPLATE".toList ++ ['_'] := by decide
  have heven : ∀ odd, endsOdd odd "\x7b\x7bTEMPLATE".toList = false := by decide
  have hname : '\x7b' ∉ "TEMPLATE".toList := by decide
  rintro ⟨x, y, hxy⟩
  have htext : bodyText lines = (x ++ "\x7b\x7bTEMPLATE".toList) ++ '_' :: y := by
    rw [← hxy, hstem]
    simp
  have hallowed := isAllowed_of_mem_reserved h htext (by rw [endsOdd_append, heven]) (by decide)
  obtain ⟨t, t', -, hline, -, -, ht⟩ := hallowed.inTarget (by decide) (by decide)
  rw [afterLastFeed_append x (by decide)] at hline
  have hbraces : (afterLastFeed x ++ ['\x7b']) ++ '\x7b' :: "TEMPLATE".toList = linkStart.toList ++ '\x7b' :: t := by
    rw [← hline]
    simp
  have hbrace : '\x7b' ∉ t := by
    intro hmem
    have hmem : '\x7b' ∈ (linkTarget (compactUrl r.trackingUrl)).toList := by
      rw [← ht]
      exact List.mem_append_left _ hmem
    exact absurd (isTargetChar_of_mem_linkTarget hmem) (by decide)
  have hlast : linkStart.toList.getLast? = some 'f' := by decide
  rw [← eq_of_append_cons hbraces hname hbrace, List.getLast?_concat] at hlast
  exact absurd hlast (by decide)

/-- No placeholder comes up where a body is put between two texts, nor in the body. A beginning of the
placeholder that ends like a body is long enough to be known by. -/
theorem sealed_bodyText {layout : Layout} {r : Resume} {today : Date} {bs : List Block}
    (h : layout.blocks r today = .ok bs) (u v : List Char) :
    Sealed placeholder.toList u (bodyText bs.flatten) v := by
  have hstem := stem_not_infix_bodyText (tidy_blocks h)
  obtain ⟨hframed, hne⟩ := framed_blocks h
  obtain ⟨c, rest, hfirst, hc⟩ := exists_bodyText_cons hframed hne (tidy_blocks h)
  obtain ⟨w, d, hlast, hd⟩ := exists_bodyText_concat hframed hne
  refine sealed_of_separate ?_ ?_ ?_
  · have hforeign : ['%', '\\', '\n'].all (!placeholder.toList.contains ·) := by decide
    rw [hfirst]
    exact separate_cons (by simpa using List.all_eq_true.mp hforeign c hc)
  · have hbeginnings : ∀ p ∈ placeholder.toList.inits,
        p.getLast? = some '\n' ∨ p.getLast? = some '\x7d' → stem <+: p := by decide
    refine separate_of_not_suffix fun p k hp hne' _ hsuffix => hstem ?_
    have hplast : p.getLast? = some d := by
      rw [getLast?_of_suffix hsuffix hne', hlast, List.getLast?_concat]
    have hstart := hbeginnings p ((List.mem_inits _ _).mpr ⟨k, hp.symm⟩) (by rw [hplast]; simpa using hd)
    exact hstart.isInfix.trans hsuffix.isInfix
  · have hstart : stem <+: placeholder.toList := by decide
    exact fun hinfix => hstem (hstart.isInfix.trans hinfix)

end Vitae.Layout
