import Vitae.Proofs.Calendar.Shown
import Vitae.Proofs.Latex.Commands
import Vitae.Proofs.Layout.Regional
import Vitae.Proofs.Section.Entries

/-!
# Reading headings back

Courses of study, jobs and references are shown by one command of the regional layout, which
takes four cells by position. A section of them is read as commands with their groups, that
is, by its braces alone. The commands of its list are cut at the headings (`gather`): what
stands between two of them belongs to the first one, and is one list of items or nothing
(`items?`). Commands at any other place, and any other text, stop the reader.

All cells and items are escaped text and fixed wording, whose braces are balanced
(`isValue_escape?`), so a section is read as the entries that it was made from, whatever
their texts spell (`headings_readable`).
-/

namespace Vitae.Regional

open Text Latex Calendar Section

/-! ### The reader -/

/-- A heading as it is read. -/
structure Heading where
  /-- The cells of its command. -/
  cells : List String
  /-- The items of the list behind it, if there is one. -/
  items : Option (List String)
  deriving DecidableEq

/-- The text of a block, each line with its end. -/
def blockText (b : Block) : List Char := b.flatMap fun l => l.toList ++ ['\n']

/-- The command of a heading. -/
def headingCommand (cells : List String) : Command := ⟨"resumeSubheading", cells⟩

/-- The command of an item. -/
def itemCommand (item : String) : Command := ⟨"resumeItemWithoutTitle", [item]⟩

/-- The beginning of a list of items. -/
def itemsStart : Command := ⟨"resumeItemListStart", []⟩

/-- The end of a list of items. -/
def itemsEnd : Command := ⟨"resumeItemListEnd", []⟩

/-- The beginning of the headings of a section. -/
def headingsStart : Command := ⟨"resumeSubHeadingListStart", []⟩

/-- The end of the headings. -/
def headingsEnd : Command := ⟨"resumeSubHeadingListEnd", []⟩

/-- The commands between a first and a last one. -/
def within? (first last : Command) (commands : List Command) : Option (List Command) :=
  if commands.head? = some first ∧ commands.getLast? = some last then some commands.tail.dropLast else none

/-- The text of an item. -/
def itemOf? (command : Command) : Option String := command.groups.head?.filter fun item => command = itemCommand item

/-- The items of the commands between two headings: of one list, if there are any commands. -/
def items? (commands : List Command) : Option (Option (List String)) :=
  if commands = [] then some none
  else (within? itemsStart itemsEnd commands).bind fun inside => (inside.mapM itemOf?).map some

/-- The commands in front of the first heading, and the cells of each heading with the commands up to the next
one. -/
def gather : List Command → List Command × List (List String × List Command)
  | [] => ([], [])
  | command :: commands =>
    if command = headingCommand command.groups then
      ([], (command.groups, (gather commands).1) :: (gather commands).2)
    else (command :: (gather commands).1, (gather commands).2)

/-- The headings that commands make, if they begin with one. -/
def headings? (commands : List Command) : Option (List Heading) :=
  if (gather commands).1 = [] then
    (gather commands).2.mapM fun h => (items? h.2).map fun items => ⟨h.1, items⟩
  else none

/-- The headings of a section with the given title; nothing if it is no such section. -/
def readHeadings (title : String) (b : Block) : Option (List Heading) :=
  (readCommands (blockText b)).bind fun commands =>
    if commands = [] then some []
    else (within? ⟨"section", [title]⟩ headingsEnd commands).bind fun inside =>
      if inside.head? = some headingsStart then headings? inside.tail else none

/-! ### Commands of headings -/

/-- The commands that a list of items is made of; no list without items. -/
def itemCommands (items : List String) : List Command :=
  if items = [] then [] else itemsStart :: (items.map itemCommand ++ [itemsEnd])

theorem within?_eq (first last : Command) (commands : List Command) :
    within? first last (first :: (commands ++ [last])) = some commands := by
  simp [within?, List.getLast?_cons]

/-- What was printed part by part is read part by part. -/
theorem mapM_map {α β γ : Type} {print : α → β} {read : β → Option γ} {shown : α → γ}
    (h : ∀ e, read (print e) = some (shown e)) (es : List α) : (es.map print).mapM read = some (es.map shown) := by
  induction es with
  | nil => rfl
  | cons e es ih =>
    rw [List.map_cons, List.mapM_cons, h, ih]
    rfl

theorem items?_itemCommands (items : List String) : items? (itemCommands items) = some (listOf? items) := by
  have hitem : ∀ item, itemOf? (itemCommand item) = some (id item) := by simp [itemOf?, itemCommand]
  rw [itemCommands, listOf?]
  split
  · rfl
  · rw [items?, if_neg (List.cons_ne_nil _ _), within?_eq, Option.bind_some, mapM_map hitem, List.map_id, Option.map_some]

/-- The commands of items are no headings. -/
theorem ne_headingCommand_of_mem {items : List String} {command : Command} (h : command ∈ itemCommands items) :
    command ≠ headingCommand command.groups := by
  rw [itemCommands] at h
  split at h
  · cases h
  · simp only [List.mem_cons, List.mem_append, List.mem_map, List.not_mem_nil, or_false] at h
    rcases h with rfl | ⟨item, -, rfl⟩ | rfl
    · simp [itemsStart, headingCommand]
    · simp [itemCommand, headingCommand]
    · simp [itemsEnd, headingCommand]

theorem gather_append {front : List Command} (h : ∀ command ∈ front, command ≠ headingCommand command.groups)
    (commands : List Command) :
    gather (front ++ commands) = (front ++ (gather commands).1, (gather commands).2) := by
  induction front with
  | nil => rfl
  | cons command front ih =>
    obtain ⟨hcommand, hfront⟩ := List.forall_mem_cons.mp h
    rw [List.cons_append, gather, ih hfront, if_neg hcommand]
    rfl

/-- What stands behind a heading belongs to it. -/
theorem gather_flatMap {α : Type} (cells items : α → List String) (es : List α) :
    gather (es.flatMap fun e => headingCommand (cells e) :: itemCommands (items e)) =
      ([], es.map fun e => (cells e, itemCommands (items e))) := by
  induction es with
  | nil => rfl
  | cons e es ih =>
    rw [List.flatMap_cons, List.cons_append, gather, gather_append fun _ => ne_headingCommand_of_mem, ih]
    simp [headingCommand]

/-- The commands of entries are read as their headings. -/
theorem headings?_flatMap {α : Type} (cells items : α → List String) (es : List α) :
    headings? (es.flatMap fun e => headingCommand (cells e) :: itemCommands (items e)) =
      some (es.map fun e => ⟨cells e, listOf? (items e)⟩) := by
  rw [headings?, gather_flatMap, if_pos rfl]
  exact mapM_map (fun e => by rw [items?_itemCommands, Option.map_some]) es

/-! ### Blocks as commands -/

theorem readAs_append {b b' : Block} {commands commands' : List Command} (h : ReadAs (blockText b) commands)
    (h' : ReadAs (blockText b') commands') : ReadAs (blockText (b ++ b')) (commands ++ commands') := by
  rw [blockText, List.flatMap_append]
  exact h.append h'

theorem readAs_blocks {α : Type} {print : α → Block} {commands : α → List Command} {es : List α}
    (h : ∀ e ∈ es, ReadAs (blockText (print e)) (commands e)) :
    ReadAs (blockText (es.flatMap print)) (es.flatMap commands) := by
  rw [blockText, List.flatMap_assoc]
  exact readAs_flatMap h

/-- A line with a command. -/
theorem readAs_line {name l : String} (indent : String) (hindent : indent.toList.all isBlank) (hname : IsKey name)
    (hl : indent ++ "\\" ++ name = l) : ReadAs (blockText [l]) [⟨name, []⟩] := by
  have hread := readAs_command hname (by decide) (supplies_blanks (by decide : ['\n'].all isBlank))
  simpa [blockText, ← hl] using (readAs_blanks hindent).append hread

/-- A line with a command and one group. -/
theorem readAs_lineWith {name l value : String} (indent : String) (hindent : indent.toList.all isBlank) (hname : IsKey name)
    (hvalue : IsValue value) (hl : indent ++ "\\" ++ name ++ braced value = l) :
    ReadAs (blockText [l]) [⟨name, [value]⟩] := by
  have hgroup : Supplies ('\x7b' :: (value.toList ++ ['\x7d', '\n'])) [value] := by
    simpa using (Supplies.group hvalue).append (supplies_blanks (by decide : ['\n'].all isBlank))
  simpa [blockText, ← hl] using (readAs_blanks hindent).append (readAs_command hname (by decide) hgroup)

theorem readAs_subheading {a b c d : String} (ha : IsValue a) (hb : IsValue b) (hc : IsValue c) (hd : IsValue d) :
    ReadAs (blockText (subheading a b c d)) [headingCommand [a, b, c, d]] := by
  have hindent : Supplies "      ".toList [] := supplies_blanks (by decide)
  have hend : Supplies ['\n'] [] := supplies_blanks (by decide)
  have htop := hindent.append ((Supplies.group ha).append ((Supplies.group hb).append hend))
  have hbottom := hindent.append ((Supplies.group hc).append ((Supplies.group hd).append hend))
  have hname : IsKey "resumeSubheading" := by decide
  have hread := readAs_command hname (by decide) (hend.append (htop.append hbottom))
  have hblanks : ReadAs "    ".toList [] := readAs_blanks (by decide)
  simpa [blockText, subheading, headingCommand] using hblanks.append hread

theorem readAs_itemList {items : List String} (h : ∀ item ∈ items, IsValue item) :
    ReadAs (blockText (itemList items)) (itemCommands items) := by
  have hstart : ReadAs (blockText ["      \\resumeItemListStart"]) [itemsStart] :=
    readAs_line "      " (by decide) (by decide) rfl
  have hend : ReadAs (blockText ["      \\resumeItemListEnd"]) [itemsEnd] :=
    readAs_line "      " (by decide) (by decide) rfl
  have hitems : ReadAs (blockText (items.flatMap fun item => ["        \\resumeItemWithoutTitle" ++ braced item]))
      (items.flatMap fun item => [itemCommand item]) :=
    readAs_blocks fun item hitem => readAs_lineWith "        " (by decide) (by decide) (h item hitem) rfl
  rw [itemList, itemCommands]
  split
  · exact readAs_nil
  · rw [List.map_eq_flatMap, List.map_eq_flatMap, List.append_assoc]
    exact readAs_append hstart (readAs_append hitems hend)

/-- A section of entries is read as the headings of its entries. Without a body there are no commands,
so there are no entries. -/
theorem readHeadings_listSection {title : String} (htitle : IsValue title) {α : Type} {print : α → Block}
    {cells items : α → List String} {es : List α}
    (h : ∀ e ∈ es, ReadAs (blockText (print e)) (headingCommand (cells e) :: itemCommands (items e))) :
    readHeadings title (listSection title (es.flatMap print)) = some (es.map fun e => ⟨cells e, listOf? (items e)⟩) := by
  have hbody := readAs_blocks h
  have hread := headings?_flatMap cells items es
  rw [listSection]
  split
  · rename_i hnil
    rw [hnil] at hbody
    rw [← Option.some.inj hbody.readCommands_eq] at hread
    exact hread
  · have hsection : ReadAs (blockText ["\\section" ++ braced title]) [⟨"section", [title]⟩] :=
      readAs_lineWith "" (by decide) (by decide) htitle rfl
    have hstart : ReadAs (blockText ["  \\resumeSubHeadingListStart"]) [headingsStart] :=
      readAs_line "  " (by decide) (by decide) rfl
    have hend : ReadAs (blockText ["  \\resumeSubHeadingListEnd"]) [headingsEnd] :=
      readAs_line "  " (by decide) (by decide) rfl
    have hempty : ReadAs (blockText [""]) [] := readAs_blanks (by decide)
    have hall := readAs_append hsection (readAs_append hstart (readAs_append hbody (readAs_append hend hempty)))
    generalize es.flatMap (fun e => headingCommand (cells e) :: itemCommands (items e)) = commands at hread hall
    have hcommands : readCommands (blockText (["\\section" ++ braced title, "  \\resumeSubHeadingListStart"] ++
        es.flatMap print ++ ["  \\resumeSubHeadingListEnd", ""])) =
        some (⟨"section", [title]⟩ :: (headingsStart :: commands ++ [headingsEnd])) := by
      rw [List.append_assoc]
      exact hall.readCommands_eq
    rw [readHeadings, hcommands, Option.bind_some, if_neg (List.cons_ne_nil _ _), within?_eq]
    exact hread

/-! ### Entries -/

/-- A value if it shows something, escaped, and a fixed wording otherwise. -/
def shownOr (value : Option String) (wording : String) : String :=
  if isVisible value then escape? value else wording

/-- The cells of an entry: two names, a place and its dates. -/
def entryCells (first place second : Option String) (dates : String) : List String :=
  [escape? first, shownOr place "South Africa", escape? second, escape dates]

/-- The heading of a course of study. It ends at the graduation, or at the end date when that shows nothing. -/
def studyHeading (s : Study) : Heading where
  cells := entryCells s.institution s.location s.degree
    (range s.startDate (if DateShows s.graduationDate then s.graduationDate else s.endDate) false)
  items := listOf? (if studyDetails s = [] then [] else [", ".intercalate (studyDetails s)])

/-- The heading of a job, with the lines of its responsibilities that show something. -/
def jobHeading (j : Job) : Heading where
  cells := entryCells j.company j.location j.jobTitle (range j.startDate j.endDate j.isCurrent)
  items := listOf? (((j.responsibilities.flatMap lines).filter fun l => Shown l).map escape)

/-- The heading of a person who gives a reference. -/
def refereeHeading (p : Referee) : Heading where
  cells :=
    [escape? p.name ++ " - " ++ shownOr p.title "Reference", escape? p.company,
      "Contact: " ++ (if isVisible p.phone then escape? p.phone else shownOr p.email "Available upon request"),
      "Available upon request"]
  items := none

theorem isValue_of_clean {W : Watch} {s : String} (h : Clean W s) : IsValue s := ⟨h.balanced, h.even⟩

theorem isValue_escape (s : String) : IsValue (escape s) := isValue_escape? (some s)

/-- The fixed wordings are not changed by escaping. -/
theorem escape?_orElse {wording : String} (h : escape wording = wording) (value : Option String) :
    escape? (orElse value wording) = shownOr value wording := by
  rw [orElse, shownOr]
  split
  · rfl
  · exact h

theorem escape?_contactOf (p : Referee) :
    escape? (contactOf p) = if isVisible p.phone then escape? p.phone else shownOr p.email "Available upon request" := by
  rw [contactOf]
  split
  · rfl
  · exact escape?_orElse (by decide) p.email

theorem graduationOf_eq (s : Study) :
    graduationOf s = if DateShows s.graduationDate then s.graduationDate else s.endDate := by
  simp only [graduationOf, display?_ne_empty_iff]

/-- The lines that are not empty when escaped are those that show something. -/
theorem dutyLines_eq (j : Job) :
    dutyLines j = ((j.responsibilities.flatMap lines).filter fun l => Shown l).map escape := by
  rw [dutyLines, List.filter_map]
  refine congrArg _ (List.filter_congr fun l _ => ?_)
  have hshown : escape? (some l) ≠ "" ↔ Shown l := escape?_ne_empty_iff.trans shows_some
  rw [Function.comp_apply, decide_eq_decide]
  exact hshown

theorem studyHeading_cells (s : Study) : (studyHeading s).cells =
    entryCells s.institution s.location s.degree (range s.startDate (graduationOf s) false) := by
  rw [graduationOf_eq]
  rfl

theorem readAs_entry (first place second : Option String) (dates : String) :
    ReadAs (blockText (subheading (escape? first) (escape? (orElse place defaultLocation)) (escape? second) (escape dates)))
      [headingCommand (entryCells first place second dates)] := by
  have hplace : escape? (orElse place defaultLocation) = shownOr place "South Africa" := escape?_orElse (by decide) place
  have hheading := readAs_subheading (isValue_escape? first) (isValue_escape? (orElse place defaultLocation))
    (isValue_escape? second) (isValue_escape dates)
  rw [hplace] at hheading ⊢
  exact hheading

theorem readAs_study (s : Study) :
    ReadAs (blockText (study s)) (headingCommand (studyHeading s).cells ::
      itemCommands (if studyDetails s = [] then [] else [", ".intercalate (studyDetails s)])) := by
  have hcomma : Clean fullWatch ", " := clean_literal (by decide)
  rw [study, studyHeading_cells]
  refine readAs_append (readAs_entry _ _ _ _) (readAs_itemList fun item hitem => ?_)
  split at hitem
  · cases hitem
  · rw [List.mem_singleton.mp hitem]
    exact isValue_of_clean (hcomma.intercalate (clean_studyDetails s))

theorem readAs_job (j : Job) :
    ReadAs (blockText (job j)) (headingCommand (jobHeading j).cells :: itemCommands (dutyLines j)) := by
  rw [job]
  refine readAs_append (readAs_entry _ _ _ _) (readAs_itemList fun item hitem => ?_)
  obtain ⟨line, -, rfl⟩ := List.mem_map.mp (List.mem_filter.mp hitem).1
  exact isValue_escape line

/-- A person with a name is read as a heading without items. -/
theorem readAs_referee {p : Referee} (h : isVisible p.name) :
    ReadAs (blockText (referee p)) (headingCommand (refereeHeading p).cells :: itemCommands []) := by
  have hdash : Clean fullWatch " - " := clean_literal (by decide)
  have hcontact : Clean fullWatch "Contact: " := clean_literal (by decide)
  have hunavailable : Clean fullWatch unavailable := clean_literal (by decide)
  have hname := ((clean_escape? p.name).append hdash).append (clean_escape? (orElse p.title "Reference"))
  have hheading := readAs_subheading (isValue_of_clean hname) (isValue_escape? p.company)
    (isValue_of_clean (hcontact.append (clean_escape? (contactOf p)))) (isValue_of_clean hunavailable)
  rw [referee, if_pos h]
  rw [escape?_contactOf, escape?_orElse (by decide)] at hheading ⊢
  exact hheading

/-- Only the people with a name are shown. -/
theorem flatMap_referee (ps : List Referee) :
    ps.flatMap referee = (ps.filter fun p => isVisible p.name).flatMap referee := by
  refine (flatMap_ite (fun p => isVisible p.name) _ ps).trans (List.flatMap_congr fun p hp => ?_)
  exact (if_pos (List.mem_filter.mp hp).2).symm

theorem readHeadings_education (r : Resume) :
    readHeadings "Education" (education r) = some (r.studies.map studyHeading) :=
  readHeadings_listSection (isValue_of_clean (W := fullWatch) (clean_literal (by decide))) fun s _ => readAs_study s

theorem readHeadings_experience (r : Resume) :
    readHeadings "Professional Experience" (experience r) = some (r.jobs.map jobHeading) := by
  have htitle : Clean fullWatch "Professional Experience" := clean_literal (by decide)
  rw [experience, readHeadings_listSection (isValue_of_clean htitle) fun j _ => readAs_job j]
  refine congrArg some (List.map_congr_left fun j _ => ?_)
  rw [dutyLines_eq]
  rfl

theorem readHeadings_references (r : Resume) :
    readHeadings "References" (references r) =
      some ((r.referees.filter fun p => isVisible p.name).map refereeHeading) := by
  have htitle : Clean fullWatch "References" := clean_literal (by decide)
  rw [references, flatMap_referee]
  exact readHeadings_listSection (isValue_of_clean htitle) fun p hp => readAs_referee (List.mem_filter.mp hp).2

/-- **Headings can be read back.** By its braces alone, each section of headings is read as its entries in
order: a course of study and a job by its four values, and a person who gives a reference by the name, the
company and the contact, if there is a name. Behind a job stand its lines, in one list if there are any. -/
theorem headings_readable (r : Resume) :
    readHeadings "Education" (education r) = some (r.studies.map studyHeading) ∧
    readHeadings "Professional Experience" (experience r) = some (r.jobs.map jobHeading) ∧
    readHeadings "References" (references r) =
      some ((r.referees.filter fun p => isVisible p.name).map refereeHeading) :=
  ⟨readHeadings_education r, readHeadings_experience r, readHeadings_references r⟩

set_option maxRecDepth 8000 in
/-- A company whose name spells the end of a cell, and a blank line between two others. -/
example :
    readHeadings "Professional Experience"
        (experience { jobs :=
          [{ company := some "A\x7d\x7bB" }, { jobTitle := some "C", responsibilities := ["d\n \ne", " "] }] }) =
      some [⟨["A\\\x7d\\\x7bB", "South Africa", "", ""], none⟩, ⟨["", "South Africa", "C", ""], some ["d", "e"]⟩] := by
  decide

end Vitae.Regional
