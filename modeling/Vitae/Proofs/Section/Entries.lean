import Vitae.Proofs.Latex.Joined
import Vitae.Proofs.Latex.Signs
import Vitae.Proofs.Section.Standard

/-!
# Reading entries back

The lines of a section of entries are read one after the other. What a line is, is told by
the command that stands at its front (`kindOf?`), and which lines may follow each other by
the place that a reader has reached (`Place.next`): a command begins an entry, a bullet list
belongs to the command in front of it, and an empty line ends the entry. Any other line
stops the reader, so a section that can be read holds nothing else.

No text of a résumé can be taken for a line: a bullet stands behind the command of its own
line, and the arguments of a command within its brackets. So a section is read as the
entries that it was made from (`readSection_entries`), for jobs and voluntary roles as they
are given (`work_readable`).
-/

namespace Vitae.Section

open Text Latex Calendar

/-! ### The reader -/

/-- An entry as it is read. -/
structure ShownEntry where
  /-- The arguments of its command, with their keys. -/
  arguments : List (String × String)
  /-- The items of its bullet list, if it has one. -/
  items : Option (List String)
  deriving DecidableEq

/-- What a line is. -/
inductive LineKind where
  /-- An empty line. -/
  | empty
  /-- A comment. -/
  | comment
  /-- The line that begins the section. -/
  | opensSection
  /-- The line that ends the section. -/
  | closesSection
  /-- The command of an entry. -/
  | command (arguments : List (String × String))
  /-- The line that begins a bullet list. -/
  | opensList
  /-- The line that ends a bullet list. -/
  | closesList
  /-- A line about the spacing of a bullet list. -/
  | spacing
  /-- An item of a bullet list. -/
  | item (text : String)
  deriving DecidableEq

/-- The command at the front of a line, behind its indentation, and what stands behind the name. -/
def front? (l : String) : Option (String × List Char) :=
  match l.toList.dropWhile (· = ' ') with
  | '\\' :: cs => some (String.ofList (cs.takeWhile Char.isAlpha), cs.dropWhile Char.isAlpha)
  | _ => none

/-- The arguments in the brackets that a line ends with. -/
def bracketed? (cs : List Char) : Option (List (String × String)) :=
  match signs cs with
  | ['['] :: ss =>
    match breakOutside? [']'] 0 ss with
    | some (arguments, []) => readArguments (String.ofList arguments.flatten)
    | _ => none
  | _ => none

/-- What a line is, in a section of entries with the given command. -/
def kindOf? (name l : String) : Option LineKind :=
  match front? l with
  | none => if l = "" then some .empty else if l.toList.head? = some '%' then some .comment else none
  | some (command, rest) =>
    if command = name then (bracketed? rest).map .command
    else if command = "item" then some (.item (String.ofList (rest.dropWhile (· = ' '))))
    else if command ∈ ["itemsep", "vspace"] then some .spacing
    else if command = "begin" then
      if rest = (braced "itemize").toList then some .opensList
      else if (braced experienceSection).toList.isPrefixOf rest then some .opensSection else none
    else if command = "end" then
      if rest = (braced "itemize").toList then some .closesList
      else if rest = (braced experienceSection).toList then some .closesSection else none
    else none

/-- What has been read of a section. -/
inductive Place where
  /-- Nothing. -/
  | start
  /-- The comment over the section. -/
  | titled
  /-- The line that begins the section, and entries. -/
  | between (entries : List ShownEntry)
  /-- The command of one more entry. -/
  | behindCommand (entries : List ShownEntry) (arguments : List (String × String))
  /-- The command of one more entry, and the beginning of its list. -/
  | inList (entries : List ShownEntry) (arguments : List (String × String)) (items : List String)
  /-- The command of one more entry, and its list. -/
  | behindList (entries : List ShownEntry) (arguments : List (String × String)) (items : List String)
  /-- The line that ends the section. -/
  | closed (entries : List ShownEntry)
  /-- All of it. -/
  | done (entries : List ShownEntry)

/-- What has been read with one more line; nothing if the line cannot follow. -/
def Place.next : Place → LineKind → Option Place
  | .start, .comment => some .titled
  | .titled, .opensSection => some (.between [])
  | .between entries, .command arguments => some (.behindCommand entries arguments)
  | .between entries, .closesSection => some (.closed entries)
  | .behindCommand entries arguments, .opensList => some (.inList entries arguments [])
  | .behindCommand entries arguments, .empty => some (.between (entries ++ [⟨arguments, none⟩]))
  | .inList entries arguments [], .spacing => some (.inList entries arguments [])
  | .inList entries arguments items, .item text => some (.inList entries arguments (items ++ [text]))
  | .inList entries arguments items, .closesList => some (.behindList entries arguments items)
  | .behindList entries arguments items, .empty => some (.between (entries ++ [⟨arguments, some items⟩]))
  | .closed entries, .empty => some (.done entries)
  | _, _ => none

/-- The entries that have been read when nothing follows any more. -/
def Place.entries? : Place → Option (List ShownEntry)
  | .start => some []
  | .done entries => some entries
  | _ => none

/-- What has been read with more lines. -/
def follow (name : String) (p : Place) (b : Block) : Option Place :=
  b.foldlM (fun p l => (kindOf? name l).bind p.next) p

/-- The entries of a section; nothing if it is no section of entries, or a line break stands within a line. -/
def readSection (name : String) (b : Block) : Option (List ShownEntry) :=
  if b.all fun l => l.toList.all (!isLineBreak ·) then (follow name .start b).bind Place.entries? else none

/-- The items of a bullet list; without items there is no list. -/
def listOf? (items : List String) : Option (List String) := if items = [] then none else some items

/-- The values that show something, escaped, with their keys. -/
def shownArguments (values : Candidates) : List (String × String) :=
  (values.filter fun p => isVisible p.2).map fun p => (p.1, escape? p.2)

/-- An entry with the given values and bullets: of both those that show something. -/
def shownEntry (values : Candidates) (texts : List (Option String)) : ShownEntry where
  arguments := shownArguments values
  items := listOf? ((texts.filter isVisible).map escape?)

/-! ### What a line is -/

/-- The commands of sections of entries. -/
def entryCommands : List String := [experienceItem, projectItem]

/-- The texts that show something, escaped, are those that are not empty when escaped. -/
theorem filter_escape?_eq (texts : List (Option String)) :
    (texts.map escape?).filter (· ≠ "") = (texts.filter isVisible).map escape? := by
  rw [List.filter_map]
  refine congrArg _ (List.filter_congr fun value _ => ?_)
  rw [Bool.eq_iff_iff, isVisible_iff, ← escape?_ne_empty_iff]
  simp

/-- An escaped value does not begin with a space. -/
theorem head?_escape?_ne (value : Option String) : (escape? value).toList.head? ≠ some ' ' := by
  cases value with
  | none => simp [escape?]
  | some s =>
    rw [escape?, ne_eq, head?_escape (by decide) (by decide)]
    exact not_begins_of_isBlank isBlank_space s

theorem dropWhile_space {cs : List Char} (h : cs.head? ≠ some ' ') : (' ' :: cs).dropWhile (· = ' ') = cs := by
  cases cs with
  | nil => rfl
  | cons c cs =>
    have hc : c ≠ ' ' := by simpa using h
    simp [hc]

theorem front?_of_toList {l name : String} {indent : List Char} (hindent : indent.all (· = ' ')) {rest : List Char} {c : Char}
    (hname : name.toList.all Char.isAlpha) (hc : ¬ c.isAlpha)
    (hl : l.toList = indent ++ '\\' :: (name.toList ++ c :: rest)) : front? l = some (name, c :: rest) := by
  have hdrop : l.toList.dropWhile (· = ' ') = '\\' :: (name.toList ++ c :: rest) := by
    rw [hl, List.dropWhile_append_of_pos (List.all_eq_true.mp hindent)]
    rfl
  have hletters : ∀ c ∈ name.toList, c.isAlpha = true := List.all_eq_true.mp hname
  rw [front?, hdrop]
  simp only [List.takeWhile_append_of_pos hletters, List.dropWhile_append_of_pos hletters]
  simp [hc]

/-- A command is its name behind a backslash, and its arguments in brackets. -/
theorem toList_of_command? {args : Candidates} {name call : String} (h : args.command? name = some call) :
    call.toList = '\\' :: (name.toList ++ '[' :: (args.text.toList ++ [']'])) := by
  rw [Candidates.command?, Latex.command?] at h
  split at h
  · cases h
  · rw [← Option.some.inj h]
    simp

theorem kindOf?_banner (name text : String) : kindOf? name (banner text) = some .comment := by
  have hline : (banner text).toList = '%' :: (" --------- " ++ text ++ " -----------").toList := by
    simp [banner]
  have hfront : front? (banner text) = none := by
    rw [front?, hline]
    rfl
  have hne : banner text ≠ "" := by
    rw [ne_eq, ← String.toList_inj, hline]
    exact List.cons_ne_nil _ _
  rw [kindOf?, hfront]
  simp only [if_neg hne, hline, List.head?_cons, if_pos]

/-- The lines that are the same in all sections. -/
theorem kindOf?_fixed : ∀ name ∈ entryCommands,
    kindOf? name "" = some .empty ∧
    kindOf? name (entryIndent ++ "\\begin\x7bitemize\x7d") = some .opensList ∧
    kindOf? name (entryIndent ++ "\\end\x7bitemize\x7d") = some .closesList ∧
    (∀ l ∈ [projectGap, volunteerGap, "\\itemsep -6pt \x7b\x7d"],
      kindOf? name (bulletIndent ++ l) = some .spacing) ∧
    kindOf? name (endEnvironment experienceSection) = some .closesSection := by
  decide

section

variable {name : String} (hname : name ∈ entryCommands)
include hname

theorem kindOf?_item {t : String} (ht : t.toList.head? ≠ some ' ') :
    kindOf? name (bulletIndent ++ "\\item " ++ t) = some (.item t) := by
  have hother : ∀ name ∈ entryCommands, "item" ≠ name := by decide
  have hindent : bulletIndent.toList.all (· = ' ') := by decide
  have hfront : front? (bulletIndent ++ "\\item " ++ t) = some ("item", ' ' :: t.toList) :=
    front?_of_toList hindent (by decide) (by decide) (by simp [String.toList_append])
  have hspaces : (' ' :: t.toList).dropWhile (· = ' ') = t.toList := dropWhile_space ht
  rw [kindOf?, hfront]
  simp only [if_neg (hother name hname), if_pos, hspaces, String.ofList_toList]

/-- The line with the command of an entry is read as its arguments. -/
theorem kindOf?_command {args : Candidates} (hkeys : ∀ p ∈ args, IsKey p.1) {call : String}
    (h : args.command? name = some call) :
    kindOf? name (entryIndent ++ call) = some (.command (shownArguments args)) := by
  have hletters : ∀ name ∈ entryCommands, name.toList.all Char.isAlpha := by decide
  have hindent : entryIndent.toList.all (· = ' ') := by decide
  have hfront : front? (entryIndent ++ call) = some (name, '[' :: (args.text.toList ++ [']'])) :=
    front?_of_toList hindent (hletters name hname) (by decide) (by rw [String.toList_append, toList_of_command? h])
  have hwhole := Candidates.whole_text hkeys
  have hsigns : signs ('[' :: (args.text.toList ++ [']'])) = ['['] :: (signs args.text.toList ++ [']'] :: []) :=
    signs_bracketed hwhole []
  rw [kindOf?, hfront]
  simp only [if_pos, bracketed?, hsigns, breakOutside?_of_whole hwhole, flatten_signs, String.ofList_toList,
    Candidates.readArguments_text hkeys, Candidates.shown_eq, Option.map_some, shownArguments]

theorem kindOf?_opensSection (title : String) :
    kindOf? name (beginTitled experienceSection title) = some .opensSection := by
  have hother : ∀ name ∈ entryCommands, "begin" ≠ name := by decide
  have hline : (beginTitled experienceSection title).toList =
      [] ++ '\\' :: ("begin".toList ++ '\x7b' :: ("experienceSection\x7d".toList ++ (braced title).toList)) := by
    simp [beginTitled, braced, experienceSection]
  have hfront := front?_of_toList (by decide) (by decide) (by decide) hline
  have hsection : (braced experienceSection).toList.isPrefixOf
      ('\x7b' :: ("experienceSection\x7d".toList ++ (braced title).toList)) := by
    rw [List.isPrefixOf_iff_prefix]
    exact List.prefix_append (braced experienceSection).toList (braced title).toList
  have hlist : '\x7b' :: ("experienceSection\x7d".toList ++ (braced title).toList) ≠ (braced "itemize").toList := by
    intro h
    cases h
  have hcommand : "begin" ≠ "item" ∧ "begin" ∉ ["itemsep", "vspace"] := by decide
  rw [kindOf?, hfront]
  simp only [if_neg (hother name hname), if_neg hcommand.1, if_neg hcommand.2, if_neg hlist, if_pos hsection, if_pos]

/-! ### Following lines -/

/-- The gaps above bullet lists. -/
def gaps : List (Option String) := [none, some projectGap, some volunteerGap]

omit hname in
/-- One line, and what follows it. -/
theorem follow_cons {p q : Place} {l : String} {kind : LineKind} (hl : kindOf? name l = some kind)
    (hnext : p.next kind = some q) (b : Block) : follow name p (l :: b) = follow name q b := by
  rw [follow, List.foldlM_cons, hl]
  simp only [Option.bind_some, hnext, Option.bind_eq_bind]
  rfl

variable {entries : List ShownEntry} {arguments : List (String × String)}

/-- Items are read one after the other. -/
theorem follow_items {items : List String} (h : ∀ t ∈ items, t.toList.head? ≠ some ' ') (read : List String) (b : Block) :
    follow name (.inList entries arguments read) (items.map (bulletIndent ++ "\\item " ++ ·) ++ b) =
      follow name (.inList entries arguments (read ++ items)) b := by
  induction items generalizing read with
  | nil => simp
  | cons t items ih =>
    obtain ⟨ht, hitems⟩ := List.forall_mem_cons.mp h
    have hnext : (Place.inList entries arguments read).next (.item t) = some (.inList entries arguments (read ++ [t])) := by
      cases read <;> rfl
    rw [List.map_cons, List.cons_append, follow_cons (kindOf?_item hname ht) hnext, ih hitems, List.append_assoc,
      List.singleton_append]

omit hname in
/-- Lines about the spacing change nothing. -/
theorem follow_spacing {ls : List String} (h : ∀ l ∈ ls, kindOf? name l = some .spacing) (b : Block) :
    follow name (.inList entries arguments []) (ls ++ b) = follow name (.inList entries arguments []) b := by
  induction ls with
  | nil => rfl
  | cons l ls ih =>
    obtain ⟨hl, hls⟩ := List.forall_mem_cons.mp h
    rw [List.cons_append, follow_cons hl rfl, ih hls]

/-- The bullets of an entry, and the empty line behind it. -/
theorem follow_bullets {gap : Option String} (hgap : gap ∈ gaps) (texts : List (Option String)) (b : Block) :
    follow name (.behindCommand entries arguments) (bullets gap texts ++ "" :: b) =
      follow name (.between (entries ++ [{ arguments, items := (shownEntry [] texts).items }])) b := by
  obtain ⟨hempty, hopen, hclose, hspacing, -⟩ := kindOf?_fixed name hname
  simp only [List.forall_mem_cons] at hspacing
  obtain ⟨hproject, hvolunteer, hsep, -⟩ := hspacing
  have hitems : ∀ t ∈ (texts.filter isVisible).map escape?, t.toList.head? ≠ some ' ' :=
    List.forall_mem_map.mpr fun value _ => head?_escape?_ne value
  have hgaps : ∀ l ∈ ((gap.filter (· ≠ "")).map (bulletIndent ++ ·)).toList, kindOf? name l = some .spacing := by
    simp only [gaps, List.mem_cons, List.not_mem_nil, or_false] at hgap
    rcases hgap with rfl | rfl | rfl
    · simp
    · simpa [projectGap] using hproject
    · simpa [volunteerGap] using hvolunteer
  rw [bullets, shownEntry, listOf?, filter_escape?_eq]
  generalize (texts.filter isVisible).map escape? = items at hitems
  by_cases hnil : items = []
  · simp only [if_pos hnil, List.nil_append]
    exact follow_cons hempty rfl b
  · have hlast : (Place.inList entries arguments items).next .closesList = some (.behindList entries arguments items) := by
      cases items <;> rfl
    simp only [if_neg hnil, List.append_assoc, List.cons_append, List.nil_append]
    rw [follow_cons hopen rfl, follow_spacing hgaps, follow_cons hsep rfl, follow_items hname hitems, List.nil_append,
      follow_cons hclose hlast, follow_cons hempty rfl]

/-- An entry is read as its values and bullets that show something; one without such values is none. -/
theorem follow_entry {args : Candidates} (hkeys : ∀ p ∈ args, IsKey p.1) {gap : Option String} (hgap : gap ∈ gaps)
    (texts : List (Option String)) (b : Block) :
    follow name (.between entries) (entry name args (bullets gap texts) ++ b) =
      follow name (.between (entries ++ if args.any (isVisible ·.2) then [shownEntry args texts] else [])) b := by
  have hnone : args.command? name = none ↔ ¬ args.any (isVisible ·.2) = true := by
    simpa [isVisible_iff] using command?_eq_none_iff name
  rw [entry]
  cases hcall : args.command? name with
  | none =>
    rw [if_neg (hnone.mp hcall)]
    simp
  | some call =>
    have hsome : args.any (isVisible ·.2) = true := by
      by_contra hnot
      rw [hnone.mpr hnot] at hcall
      cases hcall
    rw [if_pos hsome, List.append_assoc, List.cons_append, List.singleton_append, follow_cons (kindOf?_command hname hkeys hcall) rfl,
      follow_bullets hname hgap]
    rfl

/-- Entries are read one after the other. -/
theorem follow_entries {α : Type} {args : α → Candidates} {texts : α → List (Option String)} {gap : Option String}
    (hkeys : ∀ e, ∀ p ∈ args e, IsKey p.1) (hgap : gap ∈ gaps) (es : List α) (b : Block) :
    follow name (.between entries) (es.flatMap (fun e => entry name (args e) (bullets gap (texts e))) ++ b) =
      follow name (.between (entries ++ (es.filter fun e => (args e).any (isVisible ·.2)).map fun e =>
        shownEntry (args e) (texts e))) b := by
  induction es generalizing entries with
  | nil => simp
  | cons e es ih =>
    rw [List.flatMap_cons, List.append_assoc, follow_entry hname (hkeys e) hgap, ih, List.filter_cons]
    split <;> simp

end

/-- A line that keeps to itself holds no line break. -/
theorem all_not_isLineBreak {b : Block} (h : Tidy b) : b.all (fun l => l.toList.all (!isLineBreak ·)) = true := by
  have hspace : isLineBreak ' ' = false := by decide
  refine List.all_eq_true.mpr fun l hl => List.all_eq_true.mpr fun c hc => ?_
  by_cases hbreak : isLineBreak c = true
  · rw [(h.sound l hl).spaces c hc (isBlank_of_isLineBreak hbreak), hspace]
    rfl
  · simpa using hbreak

/-- A section is read as its entries that show something. -/
theorem readSection_entries {name : String} (hname : name ∈ entryCommands) {α : Type} {args : α → Candidates}
    {texts : α → List (Option String)} {gap : Option String} (hkeys : ∀ e, ∀ p ∈ args e, IsKey p.1) (hgap : gap ∈ gaps)
    {comment title : String} {es : List α}
    (h : Tidy (wrap (banner comment) experienceSection title (es.flatMap fun e => entry name (args e) (bullets gap (texts e))))) :
    readSection name
        (wrap (banner comment) experienceSection title (es.flatMap fun e => entry name (args e) (bullets gap (texts e)))) =
      some ((es.filter fun e => (args e).any (isVisible ·.2)).map fun e => shownEntry (args e) (texts e)) := by
  have hbody : ∀ b, follow name (.between []) (es.flatMap (fun e => entry name (args e) (bullets gap (texts e))) ++ b) =
      follow name (.between ([] ++ (es.filter fun e => (args e).any (isVisible ·.2)).map fun e =>
        shownEntry (args e) (texts e))) b :=
    follow_entries hname hkeys hgap es
  rw [readSection, if_pos (all_not_isLineBreak h), wrap]
  generalize es.flatMap (fun e => entry name (args e) (bullets gap (texts e))) = body at hbody
  obtain ⟨hempty, -, -, -, hclose⟩ := kindOf?_fixed name hname
  split
  · rename_i hnil
    have hnone := hbody []
    rw [hnil, List.append_nil, List.nil_append] at hnone
    rw [← (Place.between.inj (Option.some.inj hnone))]
    rfl
  · simp only [List.cons_append, List.nil_append]
    rw [follow_cons (kindOf?_banner name comment) rfl, follow_cons (kindOf?_opensSection hname _) rfl, hbody,
      List.nil_append, follow_cons hclose rfl, follow_cons hempty rfl]
    rfl

/-- Entries without those that do not count. -/
theorem flatMap_ite {α β : Type} (p : α → Bool) (f : α → List β) (es : List α) :
    es.flatMap (fun e => if p e then f e else []) = (es.filter p).flatMap f := by
  induction es with
  | nil => rfl
  | cons e es ih =>
    rw [List.flatMap_cons, ih, List.filter_cons]
    split <;> simp

/-! ### Work -/

/-- A job as it is read. -/
def shownJob (j : Job) : ShownEntry :=
  shownEntry
    [("company", j.company), ("location", j.location), ("position", j.jobTitle),
     ("duration", some (range j.startDate j.endDate j.isCurrent))]
    ((j.responsibilities ++ j.achievements).map some)

/-- A voluntary role as it is read. -/
def shownRole (r : VolunteerRole) : ShownEntry :=
  shownEntry
    [("company", r.organization), ("location", r.location), ("position", r.role),
     ("duration", some (range r.startDate r.endDate r.isCurrent))]
    (r.description :: r.achievements.map some)

/-- Jobs are read as those of them that show something in front of their bullets. Voluntary roles are read
as those of them that name the organization or the role, if one of them names both; else nothing is. -/
theorem work_readable :
    (∀ jobs, readSection experienceItem (experience jobs) =
      some ((jobs.filter fun j => isVisible j.company || isVisible j.location || isVisible j.jobTitle ||
        isVisible (some (range j.startDate j.endDate j.isCurrent))).map shownJob)) ∧
    ∀ roles, readSection experienceItem (volunteering roles) =
      some (if roles.any fun r => isVisible r.organization && isVisible r.role then
        (roles.filter fun r => isVisible r.organization || isVisible r.role).map shownRole else []) := by
  have hcommand : experienceItem ∈ entryCommands := by decide
  have hkeys : ∀ key ∈ ["company", "location", "position", "duration"], IsKey key := by decide
  simp only [List.forall_mem_cons] at hkeys
  constructor
  · intro jobs
    have hargs : ∀ j, ∀ p ∈ jobArgs j, IsKey p.1 := fun j => by simpa [jobArgs] using hkeys
    refine (readSection_entries hcommand hargs (by decide) (tidy_experience jobs)).trans ?_
    simp [jobArgs, shownJob, Bool.or_assoc]
  · intro roles
    have hargs : ∀ r, ∀ p ∈ roleArgs r, IsKey p.1 := fun r => by simpa [roleArgs] using hkeys
    have hroles : roles.flatMap role = (roles.filter fun r => isVisible r.organization || isVisible r.role).flatMap fun r =>
        entry experienceItem (roleArgs r) (bullets (some volunteerGap) (r.description :: r.achievements.map some)) :=
      flatMap_ite _ _ roles
    have hnamed : (roles.filter fun r => isVisible r.organization || isVisible r.role).filter
        (fun r => (roleArgs r).any (isVisible ·.2)) = roles.filter fun r => isVisible r.organization || isVisible r.role := by
      refine List.filter_eq_self.mpr fun r hr => ?_
      rcases (Bool.or_eq_true _ _).mp (List.mem_filter.mp hr).2 with horganization | hrole
      · simp [roleArgs, horganization]
      · simp [roleArgs, hrole]
    have htidy := tidy_volunteering roles
    rw [volunteering] at htidy ⊢
    split
    · rename_i hany
      rw [if_pos hany, hroles] at htidy
      rw [hroles, readSection_entries hcommand hargs (by decide) htidy, hnamed]
      rfl
    · rfl

end Vitae.Section
