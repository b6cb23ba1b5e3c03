import Vitae.Proofs.Latex.Reading

/-!
# Reading commands

A command that takes its arguments by position takes the groups behind its name, and blanks
may stand between them, line breaks among these. A text of such commands is read one
character after the other (`Reached.next`): a backslash begins the name of a command, which
goes on as long as letters do, a brace opens a group of the last command, and the group ends
at the brace that closes it, whatever stands in it. Any other character stops the reader, so
a text that can be read holds nothing but commands, groups and blanks.

What stands in a group is read as it is when its braces are balanced (`Supplies.group`), and
texts that are read as commands can be put one behind the other (`ReadAs.append`).
-/

namespace Vitae.Latex

open Text

/-! ### The reader -/

/-- A command with the texts of the groups behind its name. -/
structure Command where
  /-- Its name, without the backslash. -/
  name : String
  /-- The texts of its groups. -/
  groups : List String
  deriving DecidableEq

/-- A command with one more group. -/
def Command.push (command : Command) (text : List Char) : Command :=
  { command with groups := command.groups ++ [String.ofList text] }

/-- What has been read of a text. -/
inductive Reached where
  /-- No command. -/
  | start
  /-- Commands, and the letters of the name of one more. -/
  | inName (commands : List Command) (letters : List Char)
  /-- Commands, and a last one to which further groups belong. -/
  | behind (commands : List Command) (last : Command)
  /-- Commands, a last one, and the text of an open group of it; `d` groups are open, and `odd` tells whether
  the backslashes at the end of the text are odd in number. -/
  | inGroup (commands : List Command) (last : Command) (odd : Bool) (d : ℤ) (text : List Char)

/-- What has been read with one more character behind a command. -/
def nextBehind (commands : List Command) (last : Command) (c : Char) : Option Reached :=
  if c = '\\' then some (.inName (commands ++ [last]) [])
  else if c = '\x7b' then some (.inGroup commands last false 1 [])
  else if isBlank c then some (.behind commands last)
  else none

/-- What has been read with one more character; nothing if it cannot follow. -/
def Reached.next : Reached → Char → Option Reached
  | .start, c => if c = '\\' then some (.inName [] []) else if isBlank c then some .start else none
  | .inName commands letters, c =>
    if c.isAlpha then some (.inName commands (letters ++ [c]))
    else if letters = [] then none
    else nextBehind commands ⟨String.ofList letters, []⟩ c
  | .behind commands last, c => nextBehind commands last c
  | .inGroup commands last odd d text, c =>
    if d + weight odd c = 0 then some (.behind commands (last.push text))
    else some (.inGroup commands last (c = '\\' && !odd) (d + weight odd c) (text ++ [c]))

/-- What has been read with more characters. -/
def Reached.follow (p : Reached) (cs : List Char) : Option Reached := cs.foldlM Reached.next p

/-- The commands that have been read, outside of names and groups. -/
def Reached.commands? : Reached → Option (List Command)
  | .start => some []
  | .behind commands last => some (commands ++ [last])
  | _ => none

/-- The commands of a text with their groups, if it holds nothing else but blanks. -/
def readCommands (cs : List Char) : Option (List Command) := (Reached.start.follow cs).bind Reached.commands?

/-! ### Following characters -/

variable {a b : List Char} {commands : List Command} {last : Command}

theorem follow_nil (p : Reached) : p.follow [] = some p := rfl

theorem follow_cons {p q : Reached} {c : Char} (h : p.next c = some q) (cs : List Char) :
    p.follow (c :: cs) = q.follow cs := by
  rw [Reached.follow, List.foldlM_cons, h]
  rfl

theorem follow_append {p q : Reached} (h : p.follow a = some q) (b : List Char) : p.follow (a ++ b) = q.follow b := by
  rw [Reached.follow, List.foldlM_append]
  exact congrArg (· >>= fun r => r.follow b) h

/-- A group is read up to the brace that closes it. -/
theorem follow_group {odd : Bool} {d : ℤ} {text cs rest : List Char} (h : closeFrom odd d cs = some (a, rest)) :
    (Reached.inGroup commands last odd d text).follow cs = (Reached.behind commands (last.push (text ++ a))).follow rest := by
  induction cs generalizing odd d text a with
  | nil => cases h
  | cons c cs ih =>
    rw [closeFrom] at h
    split at h
    · rename_i hc
      obtain ⟨rfl, rfl⟩ := Prod.mk.inj (Option.some.inj h)
      have hnext : (Reached.inGroup commands last odd d text).next c = some (.behind commands (last.push text)) :=
        if_pos hc
      rw [follow_cons hnext, List.append_nil]
    · rename_i hc
      obtain ⟨⟨a, rest⟩, hrest, hp⟩ := Option.map_eq_some_iff.mp h
      obtain ⟨rfl, rfl⟩ := Prod.mk.inj hp
      have hnext : (Reached.inGroup commands last odd d text).next c =
          some (.inGroup commands last (c = '\\' && !odd) (d + weight odd c) (text ++ [c])) :=
        if_neg hc
      rw [follow_cons hnext, ih hrest, List.append_assoc, List.singleton_append]

theorem follow_letters {letters : List Char} (h : ∀ c ∈ letters, c.isAlpha = true) (read : List Char) :
    (Reached.inName commands read).follow letters = some (.inName commands (read ++ letters)) := by
  induction letters generalizing read with
  | nil => rw [follow_nil, List.append_nil]
  | cons c letters ih =>
    obtain ⟨hc, hletters⟩ := List.forall_mem_cons.mp h
    have hnext : (Reached.inName commands read).next c = some (.inName commands (read ++ [c])) := if_pos hc
    rw [follow_cons hnext, ih hletters, List.append_assoc, List.singleton_append]

/-- A name ends in front of the first character that is no letter. -/
theorem follow_name {name : List Char} (hname : name ≠ []) {c : Char} (hc : ¬ c.isAlpha) (cs : List Char) :
    (Reached.inName commands name).follow (c :: cs) =
      (Reached.behind commands ⟨String.ofList name, []⟩).follow (c :: cs) := by
  have hnext : (Reached.inName commands name).next c = (Reached.behind commands ⟨String.ofList name, []⟩).next c := by
    rw [Reached.next, if_neg hc, if_neg hname, Reached.next]
  rw [Reached.follow, Reached.follow, List.foldlM_cons, List.foldlM_cons, hnext]

/-! ### Groups -/

/-- Behind a command the text is read as further groups of it. -/
def Supplies (cs : List Char) (groups : List String) : Prop :=
  ∀ commands last, (Reached.behind commands last).follow cs =
    some (.behind commands { last with groups := last.groups ++ groups })

theorem Supplies.append {groups groups' : List String} (ha : Supplies a groups) (hb : Supplies b groups') :
    Supplies (a ++ b) (groups ++ groups') := by
  intro commands last
  rw [follow_append (ha commands last), hb, List.append_assoc]

/-- Blanks between groups do not matter. -/
theorem supplies_blanks (h : a.all isBlank) : Supplies a [] := by
  intro commands last
  rw [List.append_nil]
  induction a with
  | nil => rfl
  | cons c a ih =>
    rw [List.all_cons, Bool.and_eq_true] at h
    have hplain := isGrouping_eq_false_of (isBlank ·) h.1 (by decide)
    simp only [isGrouping, Bool.or_eq_false_iff, decide_eq_false_iff_not] at hplain
    have hnext : (Reached.behind commands last).next c = some (.behind commands last) := by
      rw [Reached.next, nextBehind, if_neg hplain.1.1, if_neg hplain.1.2, if_pos h.1]
    rw [follow_cons hnext, ih h.2]

/-- A balanced text in braces is a group, whatever it spells. -/
theorem Supplies.group {text : String} (h : IsValue text) : Supplies (braced text).toList [text] := by
  intro commands last
  have hnext : (Reached.behind commands last).next '\x7b' = some (.inGroup commands last false 1 []) := rfl
  rw [toList_braced, follow_cons hnext, follow_group (h.closeFrom_eq []), follow_nil, List.nil_append, Command.push,
    String.ofList_toList]

/-! ### Commands -/

/-- Behind commands the text is read as further commands. -/
def ReadAs (cs : List Char) (commands : List Command) : Prop :=
  ∀ (p : Reached) before, p.commands? = some before → ∃ q, p.follow cs = some q ∧ q.commands? = some (before ++ commands)

theorem ReadAs.readCommands_eq (h : ReadAs a commands) : readCommands a = some commands := by
  obtain ⟨q, hq, hread⟩ := h .start [] rfl
  rw [readCommands, hq]
  exact hread

theorem readAs_nil : ReadAs [] [] := fun p before hp => ⟨p, rfl, by rw [hp, List.append_nil]⟩

theorem ReadAs.append {commands' : List Command} (ha : ReadAs a commands) (hb : ReadAs b commands') :
    ReadAs (a ++ b) (commands ++ commands') := by
  intro p before hp
  obtain ⟨q, hq, hread⟩ := ha p before hp
  obtain ⟨q', hq', hread'⟩ := hb q _ hread
  exact ⟨q', by rw [follow_append hq, hq'], by rw [hread', List.append_assoc]⟩

theorem readAs_flatMap {α : Type} {text : α → List Char} {print : α → List Command} {xs : List α}
    (h : ∀ x ∈ xs, ReadAs (text x) (print x)) : ReadAs (xs.flatMap text) (xs.flatMap print) := by
  induction xs with
  | nil => exact readAs_nil
  | cons x xs ih =>
    obtain ⟨hx, hxs⟩ := List.forall_mem_cons.mp h
    exact hx.append (ih hxs)

/-- Blanks in front of a command do not matter. -/
theorem readAs_blanks (h : a.all isBlank) : ReadAs a [] := by
  intro p before hp
  cases p with
  | start =>
    refine ⟨.start, ?_, by rw [hp, List.append_nil]⟩
    induction a with
    | nil => rfl
    | cons c a ih =>
      rw [List.all_cons, Bool.and_eq_true] at h
      have hc : c ≠ '\\' := by
        rintro rfl
        exact absurd h.1 (by decide)
      have hnext : Reached.start.next c = some .start := by rw [Reached.next, if_neg hc, if_pos h.1]
      rw [follow_cons hnext, ih h.2]
  | behind commands last =>
    refine ⟨_, supplies_blanks h commands last, ?_⟩
    rw [List.append_nil, List.append_nil, ← hp]
  | inName commands letters => cases hp
  | inGroup commands last odd d text => cases hp

/-- A name and what is read as groups behind it are a command. -/
theorem readAs_command {name : String} (hname : IsKey name) {c : Char} (hc : ¬ c.isAlpha) {cs : List Char}
    {groups : List String} (hgroups : Supplies (c :: cs) groups) :
    ReadAs ('\\' :: (name.toList ++ c :: cs)) [⟨name, groups⟩] := by
  intro p before hp
  have hbegin : p.next '\\' = some (.inName before []) := by
    cases p with
    | start => rw [← Option.some.inj hp]; rfl
    | behind commands last => rw [← Option.some.inj hp]; rfl
    | inName commands letters => cases hp
    | inGroup commands last odd d text => cases hp
  have hletters : ∀ c ∈ name.toList, c.isAlpha = true := List.all_eq_true.mp hname.2
  refine ⟨.behind before ⟨name, groups⟩, ?_, rfl⟩
  rw [follow_cons hbegin, follow_append (follow_letters hletters []), List.nil_append, follow_name hname.1 hc,
    String.ofList_toList, hgroups, List.nil_append]

end Vitae.Latex
