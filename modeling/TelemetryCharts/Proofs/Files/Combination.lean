import TelemetryCharts.Proofs.Files.Footprint

/-!
# Combining changes

Actions whose locations lie apart can be done one after the other, and all of their changes to the
same file system are there in the end. Two of them can meet only where both create a directory.
-/

namespace TelemetryCharts

/-- Says that neither of two locations is the other one or lies below it. -/
def Apart (first second : Location) : Prop :=
  ¬ first <+: second ∧ ¬ second <+: first

instance (first second : Location) : Decidable (Apart first second) :=
  inferInstanceAs (Decidable (_ ∧ _))

theorem Apart.symm {first second : Location} (h : Apart first second) : Apart second first :=
  ⟨h.2, h.1⟩

namespace FileSystem

/-- Says that all changes that lead from a file system to some others have been made together. -/
structure Combines (fs : FileSystem) (others : List FileSystem) (before after : FileSystem) :
    Prop where
  unchanged : ∀ location, (∀ other ∈ others, other.node? location = fs.node? location) →
    after.node? location = before.node? location
  changed : ∀ other ∈ others, ∀ location, other.node? location ≠ fs.node? location →
    after.node? location = other.node? location

variable {fs other fs' other' : FileSystem} {used written written' : List Location}

theorem Combines.nil (fs before : FileSystem) : Combines fs [] before before where
  unchanged _ _ := rfl
  changed := nofun

/-- Either nothing was to be changed at a location, or what stands there is what somebody left. -/
theorem Combines.unchanged_or_changed {others : List FileSystem} {before after : FileSystem}
    (h : Combines fs others before after) (location : Location) :
    (∀ other ∈ others, other.node? location = fs.node? location) ∧
        after.node? location = before.node? location ∨
      ∃ other ∈ others, other.node? location ≠ fs.node? location ∧
        after.node? location = other.node? location := by
  by_cases hall : ∀ other ∈ others, other.node? location = fs.node? location
  · exact .inl ⟨hall, h.unchanged location hall⟩
  · obtain ⟨other, hnot⟩ := Classical.not_forall.1 hall
    obtain ⟨hother, hchanged⟩ := Classical.not_imp.1 hnot
    exact .inr ⟨other, hother, hchanged, h.changed other hother location hchanged⟩

theorem Combines.perm {others others' : List FileSystem} {before after : FileSystem}
    (h : Combines fs others before after) (hperm : others.Perm others') :
    Combines fs others' before after where
  unchanged location hall :=
    h.unchanged location fun other hother => hall other (hperm.mem_iff.1 hother)
  changed other hother := h.changed other (hperm.mem_iff.2 hother)

theorem Combines.cons {others : List FileSystem} {before middle after : FileSystem}
    (h : Combines fs [other] before middle) (h' : Combines fs others middle after)
    (hmeet : ∀ second ∈ others, ∀ location, other.node? location ≠ fs.node? location →
      second.node? location ≠ fs.node? location → second.node? location = other.node? location) :
    Combines fs (other :: others) before after where
  unchanged location hall := by
    obtain ⟨hfirst, hrest⟩ := List.forall_mem_cons.1 hall
    rw [h'.unchanged location hrest, h.unchanged location (by simpa using hfirst)]
  changed := by
    refine List.forall_mem_cons.2 ⟨fun location hchanged => ?_, h'.changed⟩
    rcases h'.unchanged_or_changed location with ⟨-, hnode⟩ | ⟨second, hsecond, hchanged', hnode⟩
    · rw [hnode]
      exact h.changed other List.mem_cons_self location hchanged
    · rw [hnode]
      exact hmeet second hsecond location hchanged hchanged'

/-- What has changed lies at or above something that was written. -/
theorem Touches.exists_below (h : Touches written fs fs') {location : Location}
    (hchanged : fs'.node? location ≠ fs.node? location) : ∃ target ∈ written, location <+: target := by
  rcases h.nodes location with hsame | hmem | ⟨-, -, htarget⟩
  · exact absurd hsame hchanged
  · exact ⟨location, hmem, List.prefix_refl location⟩
  · exact htarget

theorem Touches.node?_eq_of_apart (h : Touches written fs fs') {location : Location}
    (hapart : ∀ target ∈ written, Apart target location) :
    fs'.node? location = fs.node? location := by
  apply Decidable.byContradiction
  intro hchanged
  obtain ⟨target, htarget, hbelow⟩ := h.exists_below hchanged
  exact (hapart target htarget).2 hbelow

/-- What has changed above a location that was not written is a new directory. -/
theorem Touches.new_directory (h : Touches written fs fs') {location below : Location}
    (hchanged : fs'.node? location ≠ fs.node? location) (hbelow : location <+: below)
    (hapart : ∀ target ∈ written, Apart target below) :
    fs.node? location = none ∧ fs'.node? location = some .directory := by
  rcases h.nodes location with hsame | hmem | ⟨hnone, hdirectory, -⟩
  · exact absurd hsame hchanged
  · exact absurd hbelow (hapart location hmem).1
  · exact ⟨hnone, hdirectory⟩

/-- Where two actions with locations apart have both changed something, both have created a
directory. -/
theorem Touches.eq_of_apart (h : Touches written fs fs') (h' : Touches written' fs other')
    (hapart : ∀ target ∈ written, ∀ target' ∈ written', Apart target target') {location : Location}
    (hchanged : fs'.node? location ≠ fs.node? location)
    (hchanged' : other'.node? location ≠ fs.node? location) :
    other'.node? location = fs'.node? location := by
  obtain ⟨target, htarget, hbelow⟩ := h.exists_below hchanged
  obtain ⟨target', htarget', hbelow'⟩ := h'.exists_below hchanged'
  have hfirst := h.new_directory hchanged hbelow' fun _ hmem => hapart _ hmem _ htarget'
  have hsecond := h'.new_directory hchanged' hbelow fun _ hmem => (hapart _ htarget _ hmem).symm
  rw [hfirst.2, hsecond.2]

/-- Changes made in the same way to file systems that agree are the changes to the first one. -/
theorem Parallel.combines (h : Parallel fs other fs' other') (hagrees : Agrees used fs other)
    (htouches : Touches written other other') (hwritten : ∀ location ∈ written, location ∈ used) :
    Combines fs [fs'] other other' where
  unchanged location hsame := by
    have hsame : fs'.node? location = fs.node? location := hsame fs' List.mem_cons_self
    rcases h location with ⟨-, hother⟩ | heq
    · exact hother
    rw [hsame] at heq
    rcases htouches.nodes location with hother | hmem | ⟨hnone, hdirectory, target, htarget, habove⟩
    · exact hother
    · rw [heq, hagrees.node?_eq location (hwritten location hmem)]
    · rcases hagrees.above target (hwritten target htarget) location habove with hother | ⟨-, hother⟩
      · rw [heq, hother]
      · rw [hnone] at hother
        cases hother
  changed second hsecond location hchanged := by
    obtain rfl := List.mem_singleton.1 hsecond
    rcases h location with ⟨hfs, -⟩ | heq
    · exact absurd hfs hchanged
    · exact heq

/-- File systems still agree on locations that lie apart from all changes. -/
theorem Agrees.of_combines (h : Agrees used fs other) (hcombines : Combines fs [fs'] other other')
    (htouches : Touches written fs fs') (htouches' : Touches written' other other')
    (hapart : ∀ target ∈ written, ∀ location ∈ used, Apart target location) :
    Agrees used fs other' where
  wellFormed := h.wellFormed
  wellFormed_other := htouches'.wellFormed
  workingDirectory := htouches'.workingDirectory.trans h.workingDirectory
  node?_eq location hlocation := by
    have hsame := htouches.node?_eq_of_apart fun target hmem => hapart target hmem location hlocation
    rw [hcombines.unchanged location (by simpa using hsame), h.node?_eq location hlocation]
  above location hlocation above habove := by
    by_cases hsame : fs'.node? above = fs.node? above
    · rw [hcombines.unchanged above (by simpa using hsame)]
      exact h.above location hlocation above habove
    · obtain ⟨hnone, hdirectory⟩ :=
        htouches.new_directory hsame habove fun _ hmem => hapart _ hmem location hlocation
      rw [hcombines.changed fs' List.mem_cons_self above hsame]
      exact .inr ⟨hnone, hdirectory⟩

end FileSystem

end TelemetryCharts
