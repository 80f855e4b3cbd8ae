import TelemetryCharts.Proofs.Files.Changes

/-!
# Reading what was written

A file that was written is read back through the same path, whatever the path looks like: what is
put where the path leads is no directory, so it does not change the way there. Nor does what is done
to other files later. In the same way a file that was removed is not found again.
-/

namespace TelemetryCharts.FileSystem

/-- Says that two paths lead to the same place for a file. -/
def SameFile (fs : FileSystem) (p q : Path) : Prop :=
  ∃ location, placeOf (fs.find p) = .ok location ∧ placeOf (fs.find q) = .ok location

/-- Says that a path leads to a file with a content, which has been put there after the directories
above it were created. -/
structure Deposits (p : Path) (content : ByteArray) (location : Location) (before after : FileSystem) :
    Prop where
  changes : ChangesOnly [location] (p.trail before.workingDirectory) before after
  node : after.node? location = some (.file content)
  find : after.find p = .ok (.existing location (.file content) false)

variable {fs other after : FileSystem} {p : Path} {content : ByteArray} {location : Location}
  {written trail : List Location}

theorem placeOf_landing_of_ne (hnode : fs.node? location ≠ some .directory) :
    placeOf (.ok (fs.landing location false)) = .ok location := by
  rw [landing]
  split
  · next hdirectory => exact absurd hdirectory hnode
  · rfl
  · rfl

/-- A path leads to the file that has been written to it. -/
theorem find_of_write_run (h : (write p content).run fs = (.ok (), after)) :
    ∃ location, placeOf (fs.find p) = .ok location ∧ after = fs.put location (.file content) ∧
      after.node? location = some (.file content) ∧
      after.find p = .ok (.existing location (.file content) false) := by
  rw [write_run] at h
  split at h
  · next location hplace =>
    cases h
    have hnode := node?_of_placeOf hplace
    have hput : (fs.put location (.file content)).node? location = some (.file content) := by
      rw [node?_put (ne_nil_of_node? hnode), if_pos rfl]
    refine ⟨location, hplace, rfl, hput, ?_⟩
    have hfind := (changesOnly_put hnode (.file content)).find_of_placeOf hplace (by rw [hput]; exact nofun)
    rw [hfind, landing, hput]
  · cases h

/-- What was written to a path is read from it. -/
theorem read_of_write_run (h : (write p content).run fs = (.ok (), after)) :
    after.read p = .ok content := by
  obtain ⟨location, -, -, -, hfind⟩ := find_of_write_run h
  rw [read, hfind]

/-- A file that is written below new directories is deposited. -/
theorem exists_deposits {middle : FileSystem} (hparents : (createParents p).run fs = (.ok (), middle))
    (hwrite : (write p content).run middle = (.ok (), after)) :
    ∃ location, Deposits p content location fs after := by
  obtain ⟨location, hplace, hafter, hnode, hfind⟩ := find_of_write_run hwrite
  have habove := changesOnly_createParents fs p
  rw [hparents] at habove
  have hput := changesOnly_put (node?_of_placeOf hplace) (.file content)
  rw [← hafter] at hput
  exact ⟨location, (habove.mono (List.nil_subset _) (List.Subset.refl _)).trans
    (hput.mono (List.Subset.refl _) (List.nil_subset _)), hnode, hfind⟩

namespace Deposits

variable (h : Deposits p content location fs other) (hchanges : ChangesOnly written trail other after)
include h

theorem read : other.read p = .ok content := by
  rw [FileSystem.read, h.find]

theorem placeOf_eq : placeOf (other.find p) = .ok location := by
  rw [h.find]
  rfl

include hchanges

/-- Unless there is a directory now, the path of a deposited file leads to the place of the file
whatever else has changed. -/
theorem find_later (hnode : after.node? location ≠ some .directory) :
    after.find p = .ok (after.landing location false) :=
  hchanges.find_of_placeOf h.placeOf_eq hnode

theorem placeOf_later (hnode : after.node? location ≠ some .directory) :
    placeOf (after.find p) = .ok location := by
  rw [h.find_later hchanges hnode, placeOf_landing_of_ne hnode]

/-- A deposited file stays where nothing is written. -/
theorem node_later (hlocation : location ∉ written) : after.node? location = some (.file content) :=
  (hchanges.node?_eq_file_iff hlocation content).2 h.node

theorem read_later (hlocation : location ∉ written) : after.read p = .ok content := by
  have hnode := h.node_later hchanges hlocation
  rw [FileSystem.read, h.find_later hchanges (by simp [hnode]), landing, hnode]

end Deposits

/-- The file system without the file that a path leads to, if it leads to one. -/
def without (fs : FileSystem) (p : Path) : FileSystem :=
  match fileOf? (fs.find p) with
  | some location => fs.erase location
  | none => fs

/-- Says that there is no file at a path, and that nothing has changed but that a file may have gone
from there and that directories on a trail may be new. -/
structure Withdraws (p : Path) (trail : List Location) (before after : FileSystem) : Prop where
  changes : ∃ written, ChangesOnly written trail before after ∧
    ∀ location ∈ written, placeOf (after.find p) = .ok location
  nothing : ∀ location, placeOf (after.find p) = .ok location → after.node? location = none

theorem fileOf?_of_not_contains (h : fs.contains p = false) : fileOf? (fs.find p) = none := by
  rw [contains, Bool.or_eq_false_iff] at h
  obtain ⟨hfile, -⟩ := h
  rw [isFile] at hfile
  unfold fileOf?
  split
  · next hfind =>
    rw [hfind] at hfile
    cases hfile
  · rfl

theorem placeOf_of_fileOf? (h : fileOf? (fs.find p) = some location) :
    placeOf (fs.find p) = .ok location := by
  unfold fileOf? at h
  split at h
  · next hfind =>
    cases h
    rw [hfind]
    rfl
  · cases h

/-- Where there is a place for a file but no file, there is nothing. -/
theorem node?_of_placeOf_of_fileOf? (hfile : fileOf? (fs.find p) = none)
    (hplace : placeOf (fs.find p) = .ok location) : fs.node? location = none := by
  obtain ⟨destination, hfind, hdestination⟩ := placeOf_eq_ok_iff_exists.1 hplace
  rw [hfind] at hfile
  cases destination with
  | existing other node isOpen =>
    cases node <;> cases isOpen <;> cases hdestination
    cases hfile
  | free other isOpen =>
    cases isOpen <;> cases hdestination
    exact (node?_of_find_free hfind).1

/-- Removing the file that a path leads to leaves no file there. -/
theorem withdraws_without (fs : FileSystem) (p : Path) : Withdraws p [] fs (fs.without p) := by
  rw [without]
  cases hfile : fileOf? (fs.find p) with
  | none =>
    refine ⟨⟨[], .refl _ _ fs, by simp⟩, fun location hplace => ?_⟩
    exact node?_of_placeOf_of_fileOf? hfile hplace
  | some location =>
    have hplace := placeOf_of_fileOf? hfile
    have hnode := node?_of_placeOf hplace
    have herase := changesOnly_erase hnode
    have hnone : (fs.erase location).node? location = none := by
      rw [node?_erase (ne_nil_of_node? hnode), if_pos rfl]
    have hgone : (fs.erase location).node? location ≠ some .directory := by
      rw [hnone]
      exact nofun
    have hlater : placeOf ((fs.erase location).find p) = .ok location := by
      rw [herase.find_of_placeOf hplace hgone, placeOf_landing_of_ne hgone]
    refine ⟨⟨[location], herase, fun other hother => ?_⟩, fun other hother => ?_⟩
    · rw [List.mem_singleton.1 hother]
      exact hlater
    · obtain rfl : location = other := Except.ok.inj (hlater.symm.trans hother)
      exact hnone

end TelemetryCharts.FileSystem
