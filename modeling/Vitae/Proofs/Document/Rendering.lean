import Vitae.Document
import Vitae.Proofs.Layout.Reserved
import Vitae.Proofs.Layout.Trimmed

/-!
# What the body of a document promises

Whatever a résumé holds, its body calls the keyed commands only with arguments that they
take and that show something (`renderBody_wellCalled`), it is closed in itself, that is its
braces, its lines, its environments and its lists are (`renderBody_closed`), and it brings
no command and no reserved character of its own in (`renderBody_shielded`). This holds of
every layout that draws bodies, as long as each date can be judged, and says as well that
there is a body then.

Outer blanks of a value do not matter, nor does it whether a value is missing or shows
nothing (`renderBody_trimmed`).
-/

namespace Vitae.Assembler

open Text Latex Layout

/-- A body, with what `Tidy` lines make of it. -/
theorem exists_renderBody {a : Assembler} {id : String} {r : Resume} {today : Calendar.Date}
    (h : (a.layoutFor id).IsJudged r today) :
    ∃ bs text, (a.layoutFor id).blocks r today = .ok bs ∧ (a.renderBody id r today).1 = .ok text ∧
      text.toList = bodyText bs.flatten ∧
      Section.Tidy bs.flatten ((a.layoutFor id).exempt r) := by
  obtain ⟨bs, hbs⟩ := (isJudged_iff _ r today).mp h
  obtain ⟨text, htext⟩ : ∃ text : String, text.toList = bodyText bs.flatten :=
    ⟨String.ofList (bodyText bs.flatten), String.toList_ofList⟩
  exact ⟨bs, text, hbs, body_eq_ok_iff.mpr ⟨bs, hbs, htext⟩, htext, tidy_blocks hbs⟩

/-- **Keyed commands are called well.** A body holds no empty argument. Wherever the name of a keyed
command stands in it, a call begins with at least one argument, with keys that the packaged
definitions declare for the command, none of them twice, and with escaped values none of which is
empty. -/
theorem renderBody_wellCalled (a : Assembler) (id : String) (r : Resume) (today : Calendar.Date)
    (h : (a.layoutFor id).IsJudged r today) :
    ∃ text, (a.renderBody id r today).1 = .ok text ∧ ¬ "=\x7b\x7d".toList <:+: text.toList ∧
      ∀ c ∈ keyedCommands, c.declaration.toList <:+: Template.Packaged.commandDefinitions.toList ∧
        ∀ before after, text.toList = before ++ (c.start ++ after) →
          ∃ pairs, IsCall c pairs ∧ (callText c.name pairs).toList <+: c.start ++ after := by
  obtain ⟨bs, text, -, hbody, htext, htidy⟩ := exists_renderBody h
  refine ⟨text, hbody, ?_, fun c hc => ⟨declaration_infix_commandDefinitions hc, ?_⟩⟩
  · rw [htext]
    exact no_empty_argument_bodyText htidy
  · rw [htext]
    exact wellCalled_bodyText htidy c hc

/-- A graduate to come, whose name is an empty argument. -/
def graduate : Resume :=
  { person := { firstName := some "=\x7b\x7d" }
    studies := [{ institution := some "\\end\x7bitemize\x7d", graduationDate := some (.text "05/2026") }] }

/-- The day on which the graduate is looked at. -/
def newYear : Calendar.Date := ⟨2025, 1, 1, by decide⟩

theorem isJudged_graduate :
    (layoutFor { library := default } "template01").IsJudged graduate newYear := by
  have hlayout : layoutFor { library := default } "template01" = .standard := by decide
  rw [hlayout]
  intro s hs
  rw [List.mem_singleton.mp hs]
  exact ⟨true, by decide⟩

theorem renderBody_wellCalled_graduate :
    ∃ text, (renderBody { library := default } "template01" graduate newYear).1 = .ok text ∧
      ¬ "=\x7b\x7d".toList <:+: text.toList := by
  obtain ⟨text, htext, hempty, -⟩ :=
    renderBody_wellCalled { library := default } "template01" graduate newYear isJudged_graduate
  exact ⟨text, htext, hempty⟩

/-- What a body and the lines it is made of promise together. -/
structure IsClosed (rendered : List String) (text : String) : Prop where
  /-- No group is closed that was not opened, and none is left open. -/
  balanced : Balanced text.toList
  /-- Nor is this so of a line on its own. -/
  line_balanced : ∀ l ∈ splitChars '\n' text.toList, Balanced l
  /-- Lines end with line feeds only. -/
  lines_end : ∀ c ∈ text.toList, isLineBreak c → c = '\n'
  /-- The lines that show something are the rendered ones, each a line of the body. -/
  lines_eq : shownLines (splitChars '\n' text.toList) = shownLines (rendered.map String.toList)
  /-- Environments and lists end in the order in which they begin, under the same name. -/
  nested : Nested (marks text.toList)

/-- **Bodies are closed in themselves.** -/
theorem renderBody_closed (a : Assembler) (id : String) (r : Resume) (today : Calendar.Date)
    (h : (a.layoutFor id).IsJudged r today) :
    ∃ bs text, (a.layoutFor id).blocks r today = .ok bs ∧ (a.renderBody id r today).1 = .ok text ∧
      IsClosed bs.flatten text := by
  obtain ⟨bs, text, hbs, hbody, htext, htidy⟩ := exists_renderBody h
  refine ⟨bs, text, hbs, hbody, ?_, ?_, ?_, ?_, ?_⟩
  · rw [htext]
    exact balanced_bodyText htidy
  · rw [htext]
    exact fun l hl => balanced_of_mem_lines htidy hl
  · rw [htext]
    exact fun c hc hb => eq_feed_of_mem_bodyText htidy hc hb
  · rw [htext]
    exact shownLines_bodyText htidy
  · rw [htext]
    exact nested_bodyText htidy

theorem renderBody_closed_graduate :
    ∃ bs text, (layoutFor { library := default } "template01").blocks graduate newYear = .ok bs ∧
      (renderBody { library := default } "template01" graduate newYear).1 = .ok text ∧
      IsClosed bs.flatten text :=
  renderBody_closed { library := default } "template01" graduate newYear isJudged_graduate

/-- What a body promises about its backslashes and its reserved characters. -/
structure IsShielded (layout : Layout) (r : Resume) (text : List Char) : Prop where
  /-- A backslash begins a command, with its whole name, or an escape sequence, unless it is the second
  backslash of a line break. -/
  backslash : ∀ x y, text = x ++ '\\' :: y →
    (endsOdd false x = false ∧ ∃ n ∈ vocabulary, Leads n ('\\' :: y)) ∨
      ∃ w, x = w ++ ['\\'] ∧ endsOdd false w = false ∧ Leads "\\\\".toList ('\\' :: '\\' :: y)
  /-- A reserved character is bare only where it may be. -/
  allowed : ∀ x c y, text = x ++ c :: y → endsOdd false x = false → c ∈ reserved → IsAllowed layout r x y c
  /-- The three rows at the head of the regional layout are lines of the body, and each shows the
  separator of columns once. -/
  rows : layout = .regional → (Regional.headerRows r).length = 3 ∧ ∀ l ∈ Regional.headerRows r,
    l.toList ∈ splitChars '\n' text ∧ countBare '&' false l.toList = 1

/-- **No value brings LaTeX in.** The backslashes of a body begin commands that bodies are written with
and escape sequences, and the characters that LaTeX reserves are bare in the target of the link,
at the front of comments, and between the columns of the rows at the head. -/
theorem renderBody_shielded (a : Assembler) (id : String) (r : Resume) (today : Calendar.Date)
    (h : (a.layoutFor id).IsJudged r today) :
    ∃ text, (a.renderBody id r today).1 = .ok text ∧ IsShielded (a.layoutFor id) r text.toList := by
  obtain ⟨bs, text, hbs, hbody, htext, htidy⟩ := exists_renderBody h
  refine ⟨text, hbody, ?_, ?_, ?_⟩
  · intro x y hxy
    rw [htext] at hxy
    cases hx : endsOdd false x with
    | false => exact .inl ⟨rfl, exists_leads htidy hxy rfl hx⟩
    | true =>
      obtain ⟨w, hw, heven⟩ := exists_of_endsOdd hx
      exact .inr ⟨w, hw, heven, y, rfl, fun hword => absurd hword (by decide)⟩
  · intro x c y hxy hx hc
    rw [htext] at hxy
    exact isAllowed_of_mem_reserved htidy hxy hx hc
  · intro hregional
    rw [hregional] at hbs
    rw [htext]
    obtain rfl := Except.ok.inj hbs
    exact ⟨rfl, fun l hl => headerRows_bodyText htidy hl⟩

theorem renderBody_shielded_graduate :
    ∃ text, (renderBody { library := default } "template01" graduate newYear).1 = .ok text ∧
      IsShielded (layoutFor { library := default } "template01") graduate text.toList :=
  renderBody_shielded { library := default } "template01" graduate newYear isJudged_graduate

/-- **Blanks around values do not matter.** A résumé has the same body as its trimmed form, in which no
text and no textual date has outer blanks and what shows nothing is missing, or neither has one, for the
same cause. -/
theorem renderBody_trimmed (a : Assembler) (id : String) (r : Resume) (today : Calendar.Date) :
    a.renderBody id r.trimmed today = a.renderBody id r today := by
  rw [renderBody, Layout.body, blocks_trimmed, renderBody, Layout.body]

end Vitae.Assembler
