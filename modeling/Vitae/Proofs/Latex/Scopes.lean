import Vitae.Proofs.Latex.Clean
import Vitae.Proofs.Text.Lines
import Vitae.Proofs.Text.Search

/-!
# Environments and lists

The places of a text where an environment or a list of the regional layout begins or
ends are its marks, in order. They are looked for at every character, whatever stands in
front of it. Marks are nested when each end belongs to the last beginning that is still
open.

No mark goes over the end of a line, so the marks of a text are those of its lines
(`marks_intercalate`). Text in which none of the commands begins that begin or end
something has no marks (`marks_append_of_clean`).
-/

namespace Vitae.Latex

open Text

/-- What can be begun and ended. -/
inductive Scope where
  /-- An environment. -/
  | environment (name : List Char)
  /-- The list of the headings of a section. -/
  | headings
  /-- The list of the items of a heading. -/
  | items
  deriving DecidableEq

/-- A beginning or an end. -/
inductive Mark where
  /-- A beginning. -/
  | opens (s : Scope)
  /-- An end. -/
  | closes (s : Scope)
  deriving DecidableEq

/-- Each end belongs to the last beginning that is still open, and nothing is open at the end. -/
inductive Nested : List Mark → Prop where
  /-- Nothing. -/
  | nil : Nested []
  /-- A beginning and its end, with nested marks between them and behind them. -/
  | pair (s : Scope) {a b : List Mark} : Nested a → Nested b → Nested (.opens s :: (a ++ .closes s :: b))

theorem Nested.append {a b : List Mark} (ha : Nested a) (hb : Nested b) : Nested (a ++ b) := by
  induction ha with
  | nil => exact hb
  | pair s ha _ _ ih =>
    rw [List.cons_append, List.append_assoc, List.cons_append]
    exact .pair s ha ih

theorem Nested.within (s : Scope) {a : List Mark} (ha : Nested a) :
    Nested (.opens s :: (a ++ [.closes s])) := .pair s ha .nil

/-! ### Reading marks -/

/-- The name of an environment that is read up to a closing brace or the end of the line. -/
def nameIn (cs : List Char) : List Char := cs.takeWhile fun c => c ≠ '\x7d' && c ≠ '\n'

/-- The commands that begin or end something, each with its mark, which depends on what follows. -/
def markers : List (List Char × (List Char → Mark)) :=
  [("\\begin\x7b".toList, fun rest => .opens (.environment (nameIn rest))),
   ("\\end\x7b".toList, fun rest => .closes (.environment (nameIn rest))),
   ("\\resumeSubHeadingListStart".toList, fun _ => .opens .headings),
   ("\\resumeSubHeadingListEnd".toList, fun _ => .closes .headings),
   ("\\resumeItemListStart".toList, fun _ => .opens .items),
   ("\\resumeItemListEnd".toList, fun _ => .closes .items)]

/-- The mark at the front of a text. -/
def markAt? (cs : List Char) : Option Mark := markers.findSome? fun p => (dropPrefix? p.1 cs).map p.2

/-- The marks of a text. -/
def marks : List Char → List Mark
  | [] => []
  | c :: cs => (markAt? (c :: cs)).toList ++ marks cs

/-- What is watched for what begins or ends something. -/
def scopeWatch : Watch where
  stems := [['\\', 'b'], ['\\', 'e', 'n'], ['\\', 'r', 'e', 's', 'u', 'm', 'e', 'S', 'u', 'b', 'H'],
    ['\\', 'r', 'e', 's', 'u', 'm', 'e', 'I', 't', 'e', 'm', 'L']]

/-- The commands of marks are lines of text that begin with their only backslash, and they are watched. -/
theorem markers_are_commands : ∀ p ∈ markers, '\n' ∉ p.1 ∧ p.1.head? = some '\\' ∧ '\\' ∉ p.1.tail ∧
    ∃ n ∈ scopeWatch.stems, n <+: p.1 := by decide

/-- None of them begins with another one. -/
theorem markers_apart : markers.Pairwise fun p q => Apart p.1 q.1 := by decide

/-- A text without line feeds is not found across the end of a line. -/
theorem dropPrefix?_append_feed {n : List Char} (hn : '\n' ∉ n) (cs b : List Char) :
    dropPrefix? n (cs ++ '\n' :: b) = (dropPrefix? n cs).map (· ++ '\n' :: b) := by
  induction n generalizing cs with
  | nil => rfl
  | cons a n ih =>
    rw [List.mem_cons, not_or] at hn
    cases cs with
    | nil => simp [dropPrefix?, Ne.symm hn.1]
    | cons c cs =>
      by_cases hac : a = c
      · simpa [dropPrefix?, hac] using ih hn.2 cs
      · simp [dropPrefix?, hac]

theorem nameIn_append_feed (cs b : List Char) : nameIn (cs ++ '\n' :: b) = nameIn cs := by
  induction cs with
  | nil => simp [nameIn]
  | cons c cs ih =>
    simp only [nameIn] at ih ⊢
    rw [List.cons_append, List.takeWhile_cons, List.takeWhile_cons, ih]

theorem findSome?_congr {α β : Type} {l : List α} {f g : α → Option β} (h : ∀ x ∈ l, f x = g x) :
    l.findSome? f = l.findSome? g := by
  induction l with
  | nil => rfl
  | cons x l ih =>
    rw [List.findSome?_cons, List.findSome?_cons, h x List.mem_cons_self,
      ih fun y hy => h y (List.mem_cons_of_mem _ hy)]

/-- What is behind the end of the line does not matter to a mark. -/
theorem markAt?_append_feed (cs b : List Char) : markAt? (cs ++ '\n' :: b) = markAt? cs := by
  have hmark : ∀ p ∈ markers, ∀ rest, p.2 (rest ++ '\n' :: b) = p.2 rest := by
    simp [markers, nameIn_append_feed]
  refine findSome?_congr fun p hp => ?_
  rw [dropPrefix?_append_feed (markers_are_commands p hp).1]
  cases dropPrefix? p.1 cs with
  | none => rfl
  | some rest => exact congrArg some (hmark p hp rest)

/-- The marks of a text are those of its lines. -/
theorem marks_append_feed (a b : List Char) : marks (a ++ '\n' :: b) = marks a ++ marks b := by
  induction a with
  | nil => rfl
  | cons c a ih =>
    rw [List.cons_append, marks, ← List.cons_append, markAt?_append_feed, ih, marks]
    exact (List.append_assoc _ _ _).symm

theorem marks_intercalate (ls : List (List Char)) : marks (['\n'].intercalate ls) = ls.flatMap marks := by
  induction ls with
  | nil => rfl
  | cons l ls ih =>
    cases ls with
    | nil => simp
    | cons m ls =>
      rw [List.intercalate_cons_cons, List.append_assoc, List.singleton_append, marks_append_feed, ih]
      rfl

/-! ### Texts without marks -/

theorem marks_append_of_forall {a b : List Char}
    (h : ∀ x y, a = x ++ y → y ≠ [] → markAt? (y ++ b) = none) : marks (a ++ b) = marks b := by
  induction a with
  | nil => rfl
  | cons c a ih =>
    rw [List.cons_append, marks, ← List.cons_append, h [] (c :: a) rfl (by simp)]
    exact ih fun x y hxy hy => h (c :: x) y (by rw [hxy]; rfl) hy

theorem exists_of_markAt?_eq_some {cs : List Char} {m : Mark} (h : markAt? cs = some m) :
    ∃ p ∈ markers, ∃ rest, cs = p.1 ++ rest := by
  obtain ⟨p, hp, hm⟩ := List.exists_of_findSome?_eq_some h
  obtain ⟨rest, hrest, -⟩ := Option.map_eq_some_iff.mp hm
  exact ⟨p, hp, rest, eq_append_of_dropPrefix? hrest⟩

/-- Text in which nothing is begun or ended has no marks: a marker would stand in it and behind it
at once. -/
theorem marks_append_of_nowhere {a : List Char} (ha : ∀ n ∈ scopeWatch.stems, NowhereIn n a)
    (b : List Char) : marks (a ++ b) = marks b := by
  refine marks_append_of_forall fun x y hxy hy => ?_
  by_contra hm
  obtain ⟨m, hm⟩ := Option.ne_none_iff_exists'.mp hm
  obtain ⟨p, hp, rest, hrest⟩ := exists_of_markAt?_eq_some hm
  obtain ⟨-, -, -, n, hn, hstem⟩ := markers_are_commands p hp
  have happ : a ++ b = x ++ (p.1 ++ rest) := by rw [hxy, List.append_assoc, hrest]
  obtain ⟨z, hz, -⟩ := ((ha n hn).of_beginning hstem).eq_append happ
  have hwithin := congrArg List.length hxy
  have hbehind := congrArg List.length hz
  have hpos := List.length_pos_iff.mpr hy
  simp only [List.length_append] at hwithin hbehind
  omega

theorem marks_of_no_backslash {a : List Char} (ha : '\\' ∉ a) : marks a = [] := by
  simpa [marks] using marks_append_of_nowhere (scopeWatch.nowhere_of_no_backslash ha) []

theorem marks_append_of_clean {W : Watch} (hW : scopeWatch.stems ⊆ W.stems) {s : String}
    (h : Closed W s) (b : List Char) : marks (s.toList ++ b) = marks b :=
  marks_append_of_nowhere (fun n hn => h.nowhere n (hW hn)) b

/-! ### Texts with marks -/

theorem dropPrefix?_of_apart {n u : List Char} (h : Apart n u) (rest : List Char) :
    dropPrefix? n (u ++ rest) = none := by
  cases hdrop : dropPrefix? n (u ++ rest) with
  | none => rfl
  | some r =>
    have hn : n <+: u ++ rest := ⟨r, (eq_append_of_dropPrefix? hdrop).symm⟩
    exact absurd (List.prefix_or_prefix_of_prefix hn (List.prefix_append u rest)) (not_or.mpr h)

/-- Of texts that are apart from each other the one in front is found. -/
theorem findSome?_dropPrefix? {α : Type} {l : List (List Char × (List Char → α))}
    (h : l.Pairwise fun p q => Apart p.1 q.1) {p : List Char × (List Char → α)} (hp : p ∈ l)
    (rest : List Char) :
    l.findSome? (fun q => (dropPrefix? q.1 (p.1 ++ rest)).map q.2) = some (p.2 rest) := by
  induction h with
  | nil => exact absurd hp List.not_mem_nil
  | cons hq _ ih =>
    rw [List.findSome?_cons]
    rcases List.mem_cons.mp hp with rfl | hp
    · rw [dropPrefix?_append]
      rfl
    · rw [dropPrefix?_of_apart (hq _ hp)]
      exact ih hp

/-- A command that begins or ends something has its mark in front of the marks of what follows. -/
theorem marks_command {n : List Char} {m : List Char → Mark} (h : (n, m) ∈ markers) (rest : List Char) :
    marks (n ++ rest) = m rest :: marks rest := by
  obtain ⟨-, hhead, htail, -⟩ := markers_are_commands _ h
  have hmark : markAt? (n ++ rest) = some (m rest) := findSome?_dropPrefix? markers_apart h rest
  obtain ⟨name, rfl⟩ := List.head?_eq_some_iff.mp hhead
  have hname : marks (name ++ rest) = marks rest :=
    marks_append_of_nowhere (scopeWatch.nowhere_of_no_backslash htail) rest
  rw [List.cons_append] at hmark ⊢
  rw [marks, hmark, hname]
  rfl

/-- The name of an environment: text without backslashes, braces and line feeds. -/
def isName (name : List Char) : Bool := name.all fun c => c ≠ '\\' && c ≠ '\x7d' && c ≠ '\n'

theorem nameIn_of_isName {name : List Char} (h : isName name) (rest : List Char) :
    nameIn (name ++ '\x7d' :: rest) = name := by
  rw [nameIn, List.takeWhile_append_of_pos]
  · simp
  · intro c hc
    have := List.all_eq_true.mp h c hc
    simp only [Bool.and_eq_true, decide_eq_true_eq] at this ⊢
    exact ⟨this.1.2, this.2⟩

/-- The name of an environment has no marks. -/
theorem marks_name {name : List Char} (h : isName name) (rest : List Char) :
    marks (name ++ '\x7d' :: rest) = marks rest := by
  have hname : '\\' ∉ name ++ ['\x7d'] := by
    intro hc
    rcases List.mem_append.mp hc with hc | hc
    · have := List.all_eq_true.mp h _ hc
      simp at this
    · exact absurd (List.mem_singleton.mp hc) (by decide)
  rw [List.append_cons]
  exact marks_append_of_nowhere (scopeWatch.nowhere_of_no_backslash hname) rest

/-- The mark of an environment that is begun with more behind its name. -/
theorem marks_begin {name : List Char} (h : isName name) (rest : List Char) :
    marks ("\\begin\x7b".toList ++ (name ++ '\x7d' :: rest)) =
      .opens (.environment name) :: marks rest := by
  have hmark : marks ("\\begin\x7b".toList ++ (name ++ '\x7d' :: rest)) =
      .opens (.environment (nameIn (name ++ '\x7d' :: rest))) :: marks (name ++ '\x7d' :: rest) :=
    marks_command (.head _) _
  rw [hmark, nameIn_of_isName h, marks_name h]

/-- The mark of an environment that is ended. -/
theorem marks_end {name : List Char} (h : isName name) (rest : List Char) :
    marks ("\\end\x7b".toList ++ (name ++ '\x7d' :: rest)) =
      .closes (.environment name) :: marks rest := by
  have hmark : marks ("\\end\x7b".toList ++ (name ++ '\x7d' :: rest)) =
      .closes (.environment (nameIn (name ++ '\x7d' :: rest))) :: marks (name ++ '\x7d' :: rest) :=
    marks_command (.tail _ (.head _)) _
  rw [hmark, nameIn_of_isName h, marks_name h]

end Vitae.Latex
