import Mathlib.Data.List.Induction
import Vitae.Proofs.Template.Library

/-!
# Runs of a template library

A library is asked for templates while the files below it come, change and go, and from
time to time it is cleared. One load does one of three things (`load_cases`): it answers
with a shell that is kept, it reads a shell and keeps it, or it fails and changes
nothing. So, over a whole run, the shell that is kept for a template is the one that the
first load since the last clearing has read, whatever became of its file afterwards
(`run_keeps_first_read`).
-/

namespace Vitae.Library

/-! ### One load -/

/-- The file of a shell holds its text. -/
def InFile (lib : Library) (files : Files) (shell : Shell) : Prop :=
  Template.readFile files lib.root (Template.nameOf shell.id) = .ok (shell.source, shell.path)

variable {lib : Library} {files : Files} {id : String}

theorem inFile_of_readShell {shell : Shell} {log : Log}
    (h : Template.readShell files lib.root id = .ok (shell, log)) :
    shell.id = id ∧ lib.InFile files shell := by
  rw [Template.readShell] at h
  cases hread : Template.readFile files lib.root (Template.nameOf id) with
  | error failure => rw [hread] at h; cases h
  | ok content =>
    rw [hread] at h
    cases h
    exact ⟨rfl, hread⟩

theorem exists_readShell_of_inFile {shell : Shell} (h : lib.InFile files shell) :
    ∃ log, Template.readShell files lib.root shell.id = .ok (shell, log) := by
  rw [InFile] at h
  rw [Template.readShell, h]
  exact ⟨_, rfl⟩

/-- What a library does for the own shell of a template. -/
theorem loadOwn_cases (lib : Library) (files : Files) (id : String) :
    (∃ shell, lib.cached? id = some shell ∧ lib.loadOwn files id = ⟨.ok shell, lib, []⟩) ∨
    (∃ shell log, lib.cached? id = none ∧ shell.id = id ∧ lib.InFile files shell ∧
      lib.loadOwn files id = ⟨.ok shell, lib.keep shell, log⟩) ∨
    (∃ failure, lib.IsMissing files id ∧ lib.loadOwn files id = ⟨.error failure, lib, []⟩) := by
  cases hcached : lib.cached? id with
  | some shell => exact .inl ⟨shell, rfl, by simp only [loadOwn, hcached]⟩
  | none =>
    cases hread : Template.readShell files lib.root id with
    | ok loaded =>
      obtain ⟨hid, hfile⟩ := inFile_of_readShell hread
      exact .inr (.inl ⟨loaded.1, loaded.2, rfl, hid, hfile, by simp only [loadOwn, hcached, hread]⟩)
    | error failure =>
      exact .inr (.inr ⟨failure, ⟨hcached, failure, hread⟩, by simp only [loadOwn, hcached, hread]⟩)

/-- A template whose own shell is missing is loaded as the default one is. -/
theorem load_state_of_isMissing (h : lib.IsMissing files id) :
    (lib.load files id).state = (lib.load files lib.defaultId).state := by
  by_cases hid : id = lib.defaultId
  · rw [hid]
  · obtain ⟨failure, hown⟩ := loadOwn_of_isMissing h
    rcases loadOwn_cases lib files lib.defaultId with ⟨shell, -, hdefault⟩ | ⟨shell, log, -, -, -, hdefault⟩ |
      ⟨failure', -, hdefault⟩ <;> simp only [load, hown, hdefault, if_neg hid, if_true]

/-- A load does one of three things. The shell that it answers with belongs to the template, or to the
default one if the own shell of the template is missing. -/
theorem load_cases (lib : Library) (files : Files) (id : String) :
    (∃ k shell, (k = id ∨ k = lib.defaultId ∧ lib.IsMissing files id) ∧ lib.cached? k = some shell ∧
      (lib.load files id).answer = .ok shell ∧ (lib.load files id).state = lib) ∨
    (∃ shell, (shell.id = id ∨ shell.id = lib.defaultId ∧ lib.IsMissing files id) ∧
      lib.cached? shell.id = none ∧ lib.InFile files shell ∧
      (lib.load files id).answer = .ok shell ∧ (lib.load files id).state = lib.keep shell) ∨
    (∃ failure, lib.IsMissing files id ∧ lib.IsMissing files lib.defaultId ∧
      (lib.load files id).answer = .error (lib.loadError failure) ∧ (lib.load files id).state = lib) := by
  rcases loadOwn_cases lib files id with ⟨shell, hcached, hown⟩ | ⟨shell, log, hcached, hid, hfile, hown⟩ |
    ⟨failure, hmissing, hown⟩
  · exact .inl ⟨id, shell, .inl rfl, hcached, by simp only [load, hown], by simp only [load, hown]⟩
  · subst hid
    exact .inr (.inl ⟨shell, .inl rfl, hcached, hfile, by simp only [load, hown], by simp only [load, hown]⟩)
  · rw [load_answer_of_isMissing hmissing, load_state_of_isMissing hmissing]
    rcases loadOwn_cases lib files lib.defaultId with ⟨shell, hcached, hown'⟩ |
      ⟨shell, log, hcached, hid, hfile, hown'⟩ | ⟨failure', hmissing', hown'⟩
    · exact .inl ⟨lib.defaultId, shell, .inr ⟨rfl, hmissing⟩, hcached, by simp only [load, hown'],
        by simp only [load, hown']⟩
    · rw [← hid] at hcached
      exact .inr (.inl ⟨shell, .inr ⟨hid, hmissing⟩, hcached, hfile, by simp only [load, hown'],
        by simp only [load, hown']⟩)
    · exact .inr (.inr ⟨failure', hmissing, hmissing', by simp only [load, hown', if_true],
        by simp only [load, hown', if_true]⟩)

/-! ### What is kept -/

theorem cached?_keep_self (lib : Library) (shell : Shell) :
    (lib.keep shell).cached? shell.id = some shell := by
  simp [keep, cached?]

theorem cached?_keep_of_ne (lib : Library) {shell : Shell} {k : String} (h : k ≠ shell.id) :
    (lib.keep shell).cached? k = lib.cached? k := by
  have hne : (k == shell.id) = false := by simpa using h
  simp [keep, cached?, List.lookup_cons, hne]

/-- What one load of a template promises. -/
structure LoadsWell (lib : Library) (files : Files) (id : String) : Prop where
  /-- A shell that is kept is answered, and nothing changes. -/
  kept : ∀ shell, lib.cached? id = some shell →
    (lib.load files id).answer = .ok shell ∧ (lib.load files id).state = lib
  /-- A shell that is not kept is read from its file. -/
  read : ∀ shell, lib.cached? id = none → shell.id = id → lib.InFile files shell →
    (lib.load files id).answer = .ok shell
  /-- Without a shell of its own a template is loaded as the default one is. -/
  fallback : lib.IsMissing files id → (lib.load files id).answer = (lib.load files lib.defaultId).answer ∧
    (lib.load files id).state = (lib.load files lib.defaultId).state
  /-- A load fails exactly when both shells are missing. -/
  fails_iff : (∃ e, (lib.load files id).answer = .error e) ↔
    lib.IsMissing files id ∧ lib.IsMissing files lib.defaultId
  /-- A failure names the default template, and nothing changes. -/
  error : ∀ e, (lib.load files id).answer = .error e →
    e.id = some lib.defaultId ∧ (lib.load files id).state = lib
  /-- At most one name is added to what is kept. -/
  adds_one : ∃ new, ∀ k, k ≠ new → (lib.load files id).state.cached? k = lib.cached? k
  /-- What is kept stays. -/
  keeps : ∀ k shell, lib.cached? k = some shell → (lib.load files id).state.cached? k = some shell
  /-- What is added is in its file. -/
  adds_read : ∀ k shell, lib.cached? k = none → (lib.load files id).state.cached? k = some shell →
    shell.id = k ∧ lib.InFile files shell

theorem IsMissing.not_inFile (h : lib.IsMissing files id) {shell : Shell} (hid : shell.id = id) :
    ¬ lib.InFile files shell := by
  intro hfile
  obtain ⟨failure, hfailure⟩ := h.unread
  obtain ⟨log, hlog⟩ := exists_readShell_of_inFile hfile
  rw [hid, hfailure] at hlog
  cases hlog

theorem fails_iff_isMissing (lib : Library) (files : Files) (id : String) :
    (∃ e, (lib.load files id).answer = .error e) ↔
      lib.IsMissing files id ∧ lib.IsMissing files lib.defaultId := by
  constructor
  · rintro ⟨e, he⟩
    rcases load_cases lib files id with ⟨k, shell, -, -, hanswer, -⟩ | ⟨shell, -, -, -, hanswer, -⟩ |
      ⟨failure, hid, hdefault, -, -⟩
    · rw [hanswer] at he; cases he
    · rw [hanswer] at he; cases he
    · exact ⟨hid, hdefault⟩
  · rintro ⟨hid, hdefault⟩
    rcases load_cases lib files id with ⟨k, shell, hk, hcached, -, -⟩ | ⟨shell, hk, -, hfile, -, -⟩ |
      ⟨failure, -, -, hanswer, -⟩
    · rcases hk with rfl | ⟨rfl, -⟩
      · rw [hid.uncached] at hcached; cases hcached
      · rw [hdefault.uncached] at hcached; cases hcached
    · rcases hk with hk | ⟨hk, -⟩
      · exact absurd hfile (hid.not_inFile hk)
      · exact absurd hfile (hdefault.not_inFile hk)
    · exact ⟨_, hanswer⟩

theorem loadsWell (lib : Library) (files : Files) (id : String) : lib.LoadsWell files id where
  kept := by
    intro shell hshell
    have hown : lib.loadOwn files id = ⟨.ok shell, lib, []⟩ := by simp only [loadOwn, hshell]
    simp only [load, hown, and_self]
  read := by
    intro shell hnone hid hfile
    obtain ⟨log, hlog⟩ := exists_readShell_of_inFile hfile
    rw [hid] at hlog
    have hown : lib.loadOwn files id = ⟨.ok shell, lib.keep shell, log⟩ := by
      simp only [loadOwn, hnone, hlog]
    simp only [load, hown]
  fallback := fun h => ⟨load_answer_of_isMissing h, load_state_of_isMissing h⟩
  fails_iff := fails_iff_isMissing lib files id
  error := by
    intro e he
    rcases load_cases lib files id with ⟨k, shell, -, -, hanswer, -⟩ | ⟨shell, -, -, -, hanswer, -⟩ |
      ⟨failure, -, -, hanswer, hstate⟩
    · rw [hanswer] at he; cases he
    · rw [hanswer] at he; cases he
    · rw [hanswer] at he
      cases he
      exact ⟨rfl, hstate⟩
  adds_one := by
    rcases load_cases lib files id with ⟨k, shell, -, -, -, hstate⟩ | ⟨shell, -, -, -, -, hstate⟩ |
      ⟨failure, -, -, -, hstate⟩
    · exact ⟨id, fun _ _ => by rw [hstate]⟩
    · exact ⟨shell.id, fun k hk => by rw [hstate, cached?_keep_of_ne lib hk]⟩
    · exact ⟨id, fun _ _ => by rw [hstate]⟩
  keeps := by
    intro k shell hk
    rcases load_cases lib files id with ⟨_, _, -, -, -, hstate⟩ | ⟨new, -, hnone, -, -, hstate⟩ |
      ⟨_, -, -, -, hstate⟩
    · rwa [hstate]
    · have hne : k ≠ new.id := by
        rintro rfl
        rw [hnone] at hk; cases hk
      rwa [hstate, cached?_keep_of_ne lib hne]
    · rwa [hstate]
  adds_read := by
    intro k shell hnone hk
    rcases load_cases lib files id with ⟨_, _, -, -, -, hstate⟩ | ⟨new, -, -, hfile, -, hstate⟩ |
      ⟨_, -, -, -, hstate⟩
    · rw [hstate, hnone] at hk; cases hk
    · by_cases hne : k = new.id
      · subst hne
        rw [hstate, cached?_keep_self] at hk
        cases hk
        exact ⟨rfl, hfile⟩
      · rw [hstate, cached?_keep_of_ne lib hne, hnone] at hk; cases hk
    · rw [hstate, hnone] at hk; cases hk

/-! ### Runs -/

/-- What happens to a library and its files. -/
inductive Event where
  /-- A template is asked for. -/
  | load (id : String)
  /-- It is asked whether a shell is kept. -/
  | isCached (id : String)
  /-- What is kept is dropped. -/
  | clear
  /-- Files come, change or go; these are there from then on. -/
  | change (files : Files)

/-- A library and the files below it. -/
structure Scene where
  /-- The library. -/
  library : Library
  /-- The files. -/
  files : Files

namespace Scene

/-- A library that keeps nothing yet. -/
def fresh (root : Path) (defaultId : String) (files : Files) : Scene := ⟨{ root, defaultId }, files⟩

/-- What is answered to one who asks for a template. -/
def load (s : Scene) (id : String) : Except LoadError Shell := (s.library.load s.files id).answer

/-- What an event makes of a library and its files. -/
def next (s : Scene) : Event → Scene
  | .load id => { s with library := (s.library.load s.files id).state }
  | .isCached _ => s
  | .clear => { s with library := s.library.clear }
  | .change files => { s with files }

/-- What events make of them, one after the other. -/
def after (s : Scene) (events : List Event) : Scene := events.foldl next s

variable {s : Scene}

theorem after_append (s : Scene) (events : List Event) (e : Event) :
    s.after (events ++ [e]) = (s.after events).next e := by
  simp [after, List.foldl_append]

/-- No event changes what a library is set up with. -/
theorem settings_after (s : Scene) (events : List Event) :
    (s.after events).library.settings = s.library.settings := by
  induction events using List.reverseRecOn with
  | nil => rfl
  | append_singleton events e ih =>
    rw [after_append, ← ih]
    cases e with
    | load id => exact load_settings _ _ id
    | isCached id => rfl
    | clear => rfl
    | change files => rfl

/-- Since the last clearing a load has answered with a shell of the given name. -/
def Answered (s : Scene) (events : List Event) (k : String) : Prop :=
  ∃ before id after, events = before ++ .load id :: after ∧ .clear ∉ after ∧
    ∃ shell, (s.after before).load id = .ok shell ∧ shell.id = k

/-- The shell of the given name that has been read first since the last clearing: a load has answered
with it when its file held its text, and none has answered with one of this name before. -/
def FirstRead (s : Scene) (events : List Event) (k : String) (shell : Shell) : Prop :=
  ∃ before id after, events = before ++ .load id :: after ∧ .clear ∉ after ∧
    (s.after before).load id = .ok shell ∧ shell.id = k ∧
    (s.after before).library.InFile (s.after before).files shell ∧ ¬ s.Answered before k

/-- An event is the last one, or what stands before the last one goes on after it. -/
theorem append_eq_append_cons {events before after : List Event} {e d : Event} :
    events ++ [e] = before ++ d :: after ↔
      events = before ∧ e = d ∧ after = [] ∨ ∃ rest, after = rest ++ [e] ∧ events = before ++ d :: rest := by
  constructor
  · intro h
    rcases List.eq_nil_or_concat after with rfl | ⟨rest, x, rfl⟩
    · obtain ⟨rfl, he⟩ := List.append_inj' h rfl
      exact .inl ⟨rfl, List.singleton_inj.mp he, rfl⟩
    · have h : events ++ [e] = (before ++ d :: rest) ++ [x] := by simpa using h
      obtain ⟨hevents, he⟩ := List.append_inj' h rfl
      obtain rfl := List.singleton_inj.mp he
      exact .inr ⟨rest, by simp, hevents⟩
  · rintro (⟨rfl, rfl, rfl⟩ | ⟨rest, rfl, rfl⟩)
    · rfl
    · simp

theorem answered_append {events : List Event} {e : Event} {k : String} :
    s.Answered (events ++ [e]) k ↔
      (e ≠ .clear ∧ s.Answered events k) ∨
        ∃ id shell, e = .load id ∧ (s.after events).load id = .ok shell ∧ shell.id = k := by
  constructor
  · rintro ⟨before, id, after, heq, hclear, shell, hload, hk⟩
    rcases append_eq_append_cons.mp heq with ⟨rfl, rfl, -⟩ | ⟨rest, rfl, hevents⟩
    · exact .inr ⟨id, shell, rfl, hload, hk⟩
    · rw [List.mem_append, not_or, List.mem_singleton] at hclear
      exact .inl ⟨Ne.symm hclear.2, before, id, rest, hevents, hclear.1, shell, hload, hk⟩
  · rintro (⟨he, before, id, after, rfl, hclear, hshell⟩ | ⟨id, shell, rfl, hload, hk⟩)
    · refine ⟨before, id, after ++ [e], by simp, ?_, hshell⟩
      simpa [hclear] using Ne.symm he
    · exact ⟨events, id, [], rfl, List.not_mem_nil, shell, hload, hk⟩

theorem firstRead_append {events : List Event} {e : Event} {k : String} {shell : Shell} :
    s.FirstRead (events ++ [e]) k shell ↔
      (e ≠ .clear ∧ s.FirstRead events k shell) ∨
        ∃ id, e = .load id ∧ (s.after events).load id = .ok shell ∧ shell.id = k ∧
          (s.after events).library.InFile (s.after events).files shell ∧ ¬ s.Answered events k := by
  constructor
  · rintro ⟨before, id, after, heq, hclear, hread⟩
    rcases append_eq_append_cons.mp heq with ⟨rfl, rfl, -⟩ | ⟨rest, rfl, hevents⟩
    · exact .inr ⟨id, rfl, hread⟩
    · rw [List.mem_append, not_or, List.mem_singleton] at hclear
      exact .inl ⟨Ne.symm hclear.2, before, id, rest, hevents, hclear.1, hread⟩
  · rintro (⟨he, before, id, after, rfl, hclear, hread⟩ | ⟨id, rfl, hread⟩)
    · refine ⟨before, id, after ++ [e], by simp, ?_, hread⟩
      simpa [hclear] using Ne.symm he
    · exact ⟨events, id, [], rfl, List.not_mem_nil, hread⟩

theorem answered_append_load {events : List Event} {id k : String} :
    s.Answered (events ++ [.load id]) k ↔
      s.Answered events k ∨ ∃ shell, (s.after events).load id = .ok shell ∧ shell.id = k := by
  simp [answered_append]

theorem firstRead_append_load {events : List Event} {id k : String} {shell : Shell} :
    s.FirstRead (events ++ [.load id]) k shell ↔
      s.FirstRead events k shell ∨ (s.after events).load id = .ok shell ∧ shell.id = k ∧
        (s.after events).library.InFile (s.after events).files shell ∧ ¬ s.Answered events k := by
  simp [firstRead_append]

theorem answered_of_firstRead {events : List Event} {k : String} {shell : Shell}
    (h : s.FirstRead events k shell) : s.Answered events k := by
  obtain ⟨before, id, after, heq, hclear, hload, hk, -⟩ := h
  exact ⟨before, id, after, heq, hclear, shell, hload, hk⟩

end Scene

open Scene

/-- What is kept after a run. -/
structure KeepsFirstRead (s : Scene) (events : List Event) : Prop where
  /-- The shell that is kept under a name is the one that was read first. -/
  cached_iff : ∀ k shell, (s.after events).library.cached? k = some shell ↔ s.FirstRead events k shell
  /-- A shell is kept under the names that were answered. -/
  answered_iff : ∀ k, s.Answered events k ↔ ∃ shell, (s.after events).library.cached? k = some shell

namespace KeepsFirstRead

variable {s : Scene} {events : List Event}

/-- An event that neither changes what is kept nor reads anything. -/
theorem append_of_cached?_eq (h : KeepsFirstRead s events) {e : Event} (he : e ≠ .clear)
    (hcached : ∀ k, (s.after (events ++ [e])).library.cached? k = (s.after events).library.cached? k)
    (hanswered : ∀ id shell, e = .load id → (s.after events).load id = .ok shell → s.Answered events shell.id) :
    KeepsFirstRead s (events ++ [e]) where
  cached_iff := by
    intro k shell
    rw [hcached, h.cached_iff, firstRead_append]
    constructor
    · exact fun hread => .inl ⟨he, hread⟩
    · rintro (⟨-, hread⟩ | ⟨id, hload, hanswer, rfl, -, hnot⟩)
      · exact hread
      · exact absurd (hanswered id shell hload hanswer) hnot
  answered_iff := by
    intro k
    rw [hcached, ← h.answered_iff, answered_append]
    constructor
    · rintro (⟨-, hk⟩ | ⟨id, shell, hload, hanswer, rfl⟩)
      · exact hk
      · exact hanswered id shell hload hanswer
    · exact fun hk => .inl ⟨he, hk⟩

/-- A load that reads a shell which is not kept, and keeps it. -/
theorem append_of_keep (h : KeepsFirstRead s events) {id : String} {new : Shell}
    (hnone : (s.after events).library.cached? new.id = none)
    (hfile : (s.after events).library.InFile (s.after events).files new)
    (hanswer : (s.after events).load id = .ok new)
    (hstate : (s.after (events ++ [.load id])).library = (s.after events).library.keep new) :
    KeepsFirstRead s (events ++ [.load id]) where
  cached_iff := by
    intro k shell
    rw [hstate, firstRead_append_load, hanswer]
    by_cases hk : k = new.id
    · subst hk
      have hnot : ¬ s.Answered events new.id := by
        rw [h.answered_iff, hnone]
        simp
      rw [cached?_keep_self]
      constructor
      · rintro ⟨⟩
        exact .inr ⟨rfl, rfl, hfile, hnot⟩
      · rintro (hread | ⟨hload, -⟩)
        · exact absurd (answered_of_firstRead hread) hnot
        · rw [Except.ok.inj hload]
    · rw [cached?_keep_of_ne _ hk, h.cached_iff]
      refine ⟨.inl, ?_⟩
      rintro (hread | ⟨hload, hid, -⟩)
      · exact hread
      · rw [← Except.ok.inj hload] at hid
        exact absurd hid.symm hk
  answered_iff := by
    intro k
    rw [hstate, answered_append_load, hanswer, h.answered_iff]
    by_cases hk : k = new.id
    · subst hk
      rw [cached?_keep_self]
      exact ⟨fun _ => ⟨new, rfl⟩, fun _ => .inr ⟨new, rfl, rfl⟩⟩
    · rw [cached?_keep_of_ne _ hk]
      refine ⟨?_, .inl⟩
      rintro (hkept | ⟨shell, hload, hid⟩)
      · exact hkept
      · rw [← Except.ok.inj hload] at hid
        exact absurd hid.symm hk

/-- One more load. What it answers out of the cache was kept before, so it was answered before. -/
theorem append_load (h : KeepsFirstRead s events) (id : String) : KeepsFirstRead s (events ++ [.load id]) := by
  have hnext : (s.after (events ++ [.load id])).library =
      ((s.after events).library.load (s.after events).files id).state := by
    rw [after_append]
    rfl
  rcases load_cases (s.after events).library (s.after events).files id with
    ⟨j, old, -, hold, hanswer, hstate⟩ | ⟨new, -, hnone, hfile, hanswer, hstate⟩ |
    ⟨failure, -, -, hanswer, hstate⟩
  · refine h.append_of_cached?_eq (by simp) (fun k => by rw [hnext, hstate]) fun id' shell hid hload => ?_
    cases hid
    have hshell : old = shell := Except.ok.inj (hanswer.symm.trans hload)
    have hread := (h.cached_iff j old).mp hold
    obtain ⟨-, -, -, -, -, -, hj, -⟩ := hread
    rw [← hshell, hj]
    exact (h.answered_iff j).mpr ⟨old, hold⟩
  · exact h.append_of_keep hnone hfile hanswer (by rw [hnext, hstate])
  · refine h.append_of_cached?_eq (by simp) (fun k => by rw [hnext, hstate]) fun id' shell hid hload => ?_
    cases hid
    have hboth := hanswer.symm.trans hload
    cases hboth

theorem append_clear (s : Scene) (events : List Event) : KeepsFirstRead s (events ++ [.clear]) := by
  have hnone : ∀ k, (s.after (events ++ [.clear])).library.cached? k = none := by
    intro k
    rw [after_append]
    rfl
  constructor
  · intro k shell
    rw [hnone, firstRead_append]
    simp
  · intro k
    rw [hnone, answered_append]
    simp

end KeepsFirstRead

/-- Over a run that begins with nothing kept, the first shells that were read are kept. -/
theorem keepsFirstRead (s : Scene) (hempty : s.library.cache = []) (events : List Event) :
    KeepsFirstRead s events := by
  induction events using List.reverseRecOn with
  | nil =>
    have hnone : ∀ k, (s.after []).library.cached? k = none := by
      intro k
      simp [after, cached?, hempty]
    refine ⟨fun k shell => ?_, fun k => ?_⟩
    · rw [hnone]
      simp [FirstRead]
    · rw [hnone]
      simp [Answered]
  | append_singleton events e ih =>
    cases e with
    | load id => exact ih.append_load id
    | isCached id =>
      exact ih.append_of_cached?_eq (by simp) (fun k => by rw [after_append]; rfl) fun _ _ h => by cases h
    | clear => exact KeepsFirstRead.append_clear s events
    | change files =>
      exact ih.append_of_cached?_eq (by simp) (fun k => by rw [after_append]; rfl) fun _ _ h => by cases h

/-- **Runs of a template library.** Whatever is loaded, cleared and changed in whatever order, the shell
that is kept for a template is the one that was read first since the last clearing, with the text that its
file had then; and each load, at any point of the run, does what a load promises. -/
theorem run_keeps_first_read (root : Path) (defaultId : String) (files : Files) (events : List Event) :
    ((fresh root defaultId files).after events).library.settings = (root, defaultId) ∧
      (∀ k shell, ((fresh root defaultId files).after events).library.cached? k = some shell ↔
        (fresh root defaultId files).FirstRead events k shell) ∧
      (∀ k, ((fresh root defaultId files).after events).library.isCached k ↔
        ∃ shell, (fresh root defaultId files).FirstRead events k shell) ∧
      ∀ id, ((fresh root defaultId files).after events).library.LoadsWell
        ((fresh root defaultId files).after events).files id := by
  have hkeeps := keepsFirstRead (fresh root defaultId files) rfl events
  refine ⟨settings_after _ events, hkeeps.cached_iff, fun k => ?_, fun id => loadsWell _ _ id⟩
  rw [isCached, Option.isSome_iff_exists]
  exact exists_congr fun shell => hkeeps.cached_iff k shell

end Vitae.Library
