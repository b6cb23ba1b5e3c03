import Vitae.Template.Library

/-!
# Falling back to the default template

What a library answers for a template whose own shell is neither kept nor readable is what
it answers for the default template (`load_answer_of_isMissing`). Loading changes what is
kept, and nothing else about the library (`load_settings`).
-/

namespace Vitae.Library

/-- The own shell of a template is neither kept nor readable. -/
structure IsMissing (lib : Library) (files : Files) (id : String) : Prop where
  /-- It is not kept. -/
  uncached : lib.cached? id = none
  /-- It cannot be read. -/
  unread : ∃ failure, Template.readShell files lib.root id = .error failure

/-- What a library is set up with. -/
def settings (lib : Library) : Path × String := (lib.root, lib.defaultId)

variable {lib : Library} {files : Files} {id : String}

theorem loadOwn_settings (lib : Library) (files : Files) (id : String) :
    (lib.loadOwn files id).state.settings = lib.settings := by
  rw [loadOwn]
  split
  · rfl
  · split
    · rfl
    · rfl

theorem loadOwn_of_isMissing (h : lib.IsMissing files id) :
    ∃ failure, lib.loadOwn files id = ⟨.error failure, lib, []⟩ := by
  obtain ⟨failure, hfailure⟩ := h.unread
  exact ⟨failure, by simp only [loadOwn, h.uncached, hfailure]⟩

/-- A template whose own shell loads is not missing it. -/
theorem isMissing_iff :
    lib.IsMissing files id ↔ ∃ failure, (lib.loadOwn files id).answer = .error failure := by
  constructor
  · intro h
    obtain ⟨failure, hown⟩ := loadOwn_of_isMissing h
    exact ⟨failure, by rw [hown]⟩
  · rintro ⟨failure, h⟩
    cases hcached : lib.cached? id with
    | some shell => simp only [loadOwn, hcached, reduceCtorEq] at h
    | none =>
      cases hread : Template.readShell files lib.root id with
      | ok loaded => simp only [loadOwn, hcached, hread, reduceCtorEq] at h
      | error cause => exact ⟨hcached, cause, hread⟩

theorem load_settings (lib : Library) (files : Files) (id : String) :
    (lib.load files id).state.settings = lib.settings := by
  have hown := loadOwn_settings lib files id
  cases hout : lib.loadOwn files id with
  | mk answer lib' log =>
    rw [hout] at hown
    cases answer with
    | ok shell => simpa only [load, hout] using hown
    | error failure =>
      simp only [load, hout]
      split
      · exact hown
      · have hdefault := loadOwn_settings lib' files lib'.defaultId
        split
        · rename_i hout'
          rw [hout'] at hdefault
          exact hdefault.trans hown
        · rename_i hout'
          rw [hout'] at hdefault
          exact hdefault.trans hown

/-- What is answered for the default template. -/
theorem load_default_answer (lib : Library) (files : Files) :
    (lib.load files lib.defaultId).answer =
      (lib.loadOwn files lib.defaultId).answer.mapError lib.loadError := by
  cases hout : lib.loadOwn files lib.defaultId with
  | mk answer lib' log =>
    have hsettings := loadOwn_settings lib files lib.defaultId
    rw [hout] at hsettings
    have hdefault : lib'.defaultId = lib.defaultId := congrArg Prod.snd hsettings
    have hroot : lib'.root = lib.root := congrArg Prod.fst hsettings
    cases answer with
    | ok shell =>
      rw [load, hout]
      rfl
    | error failure =>
      simp only [load, hout, hdefault, if_true, loadError, shellPath, hroot]
      rfl

/-- A template whose own shell is missing is answered as the default one is. -/
theorem load_answer_of_isMissing (h : lib.IsMissing files id) :
    (lib.load files id).answer = (lib.load files lib.defaultId).answer := by
  by_cases hid : id = lib.defaultId
  · rw [hid]
  · obtain ⟨failure, hown⟩ := loadOwn_of_isMissing h
    rw [load_default_answer]
    cases hout : lib.loadOwn files lib.defaultId with
    | mk answer lib' log =>
      cases answer with
      | ok shell =>
        simp only [load, hown, if_neg hid, hout]
        rfl
      | error failure' =>
        simp only [load, hown, if_neg hid, hout]
        rfl

end Vitae.Library
