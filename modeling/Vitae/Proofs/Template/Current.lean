import Vitae.Proofs.Template.Runs

/-!
# Libraries that keep what their files hold

A library is current when each shell that it keeps is still in its file. It then answers as if it kept
nothing (`load_answer_clear`).
-/

namespace Vitae.Library

/-- What is kept is what the files hold. -/
def IsCurrent (lib : Library) (files : Files) : Prop :=
  ∀ k shell, lib.cached? k = some shell → shell.id = k ∧ lib.InFile files shell

variable {lib : Library} {files : Files}

/-- A library that keeps nothing is current. -/
theorem isCurrent_of_empty (h : lib.cache = []) : lib.IsCurrent files := by
  intro k shell hk
  rw [cached?, h] at hk
  cases hk

theorem loadOwn_answer_clear (h : lib.IsCurrent files) (id : String) :
    (lib.clear.loadOwn files id).answer = (lib.loadOwn files id).answer := by
  have hnone : lib.clear.cached? id = none := rfl
  have hroot : lib.clear.root = lib.root := rfl
  cases hcached : lib.cached? id with
  | some shell =>
    obtain ⟨hid, hfile⟩ := h id shell hcached
    obtain ⟨log, hread⟩ := exists_readShell_of_inFile hfile
    rw [hid] at hread
    simp only [loadOwn, hnone, hroot, hcached, hread]
  | none =>
    cases hread : Template.readShell files lib.root id <;> simp only [loadOwn, hnone, hroot, hcached, hread]

theorem load_answer_of_loadOwn {id : String} {shell : Shell} (h : (lib.loadOwn files id).answer = .ok shell) :
    (lib.load files id).answer = .ok shell := by
  cases hout : lib.loadOwn files id with
  | mk answer lib' log =>
    rw [hout] at h
    obtain rfl : answer = .ok shell := h
    rw [load, hout]

/-- A current library answers as if it kept nothing: when the template is missing, both load the default
one instead. -/
theorem load_answer_clear (h : lib.IsCurrent files) (id : String) :
    (lib.clear.load files id).answer = (lib.load files id).answer := by
  have hown := loadOwn_answer_clear h id
  cases hanswer : (lib.loadOwn files id).answer with
  | ok shell =>
    rw [hanswer] at hown
    rw [load_answer_of_loadOwn hanswer, load_answer_of_loadOwn hown]
  | error failure =>
    rw [hanswer] at hown
    have hdefault : lib.clear.defaultId = lib.defaultId := rfl
    have herror : lib.clear.loadError = lib.loadError := rfl
    rw [load_answer_of_isMissing (isMissing_iff.mpr ⟨failure, hown⟩),
      load_answer_of_isMissing (isMissing_iff.mpr ⟨failure, hanswer⟩), load_default_answer,
      load_default_answer, hdefault, herror, loadOwn_answer_clear h lib.defaultId]

theorem inFile_congr {lib' : Library} (h : lib'.settings = lib.settings) {shell : Shell} :
    lib'.InFile files shell ↔ lib.InFile files shell := by
  have hroot : lib'.root = lib.root := congrArg Prod.fst h
  rw [InFile, InFile, hroot]

end Vitae.Library
