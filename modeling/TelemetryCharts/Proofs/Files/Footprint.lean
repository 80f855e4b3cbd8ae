import TelemetryCharts.Proofs.Files.Nodes

/-!
# Footprints of actions

An action that stays at given locations changes nothing else, apart from directories that it creates
above them. Two file systems that agree on these locations, up to directories that only one of them
has above, are treated alike by it.
-/

namespace TelemetryCharts

namespace FileSystem

/-- Says that nothing has changed but what stands at given locations, and that the only changes above
them are new directories. -/
structure Touches (written : List Location) (before after : FileSystem) : Prop where
  wellFormed : after.WellFormed
  workingDirectory : after.workingDirectory = before.workingDirectory
  nodes : ∀ location, after.node? location = before.node? location ∨ location ∈ written ∨
    before.node? location = none ∧ after.node? location = some .directory ∧
      ∃ target ∈ written, location <+: target

theorem Touches.refl (written : List Location) {fs : FileSystem} (h : fs.WellFormed) :
    Touches written fs fs where
  wellFormed := h
  workingDirectory := rfl
  nodes _ := .inl rfl

theorem Touches.trans {written : List Location} {first second third : FileSystem}
    (h : Touches written first second) (h' : Touches written second third) :
    Touches written first third where
  wellFormed := h'.wellFormed
  workingDirectory := h'.workingDirectory.trans h.workingDirectory
  nodes location := by
    rcases h.nodes location with hsame | hmem | ⟨hnone, hdirectory, htarget⟩
    · rcases h'.nodes location with hsame' | hmem | ⟨hnone, hdirectory, htarget⟩
      · exact .inl (hsame'.trans hsame)
      · exact .inr (.inl hmem)
      · exact .inr (.inr ⟨hsame ▸ hnone, hdirectory, htarget⟩)
    · exact .inr (.inl hmem)
    · rcases h'.nodes location with hsame' | hmem | ⟨hnone', -, -⟩
      · exact .inr (.inr ⟨hnone, hsame'.trans hdirectory, htarget⟩)
      · exact .inr (.inl hmem)
      · rw [hdirectory] at hnone'
        cases hnone'

theorem touches_erase {written : List Location} {fs : FileSystem} {location : Location}
    (h : fs.WellFormed) (hnode : fs.node? location ≠ some .directory)
    (hwritten : location ∈ written) : Touches written fs (fs.erase location) where
  wellFormed := h.erase hnode
  workingDirectory := rfl
  nodes other := by
    rw [node?_erase (ne_nil_of_node? hnode)]
    split
    · next heq => exact .inr (.inl (heq ▸ hwritten))
    · exact .inl rfl

/-- Says that another file system is the same at given locations and above them, apart from further
directories above. -/
structure Agrees (used : List Location) (fs other : FileSystem) : Prop where
  wellFormed : fs.WellFormed
  wellFormed_other : other.WellFormed
  workingDirectory : other.workingDirectory = fs.workingDirectory
  node?_eq : ∀ location ∈ used, other.node? location = fs.node? location
  above : ∀ location ∈ used, ∀ above, above <+: location →
    other.node? above = fs.node? above ∨
      fs.node? above = none ∧ other.node? above = some .directory

theorem Agrees.refl (used : List Location) {fs : FileSystem} (h : fs.WellFormed) :
    Agrees used fs fs where
  wellFormed := h
  wellFormed_other := h
  workingDirectory := rfl
  node?_eq _ _ := rfl
  above _ _ _ _ := .inl rfl

/-- What is there for the first file system is there for the other one. -/
theorem Agrees.node?_eq_some {used : List Location} {fs other : FileSystem}
    (h : Agrees used fs other) {location above : Location} (hlocation : location ∈ used)
    (habove : above <+: location) {node : Node} (hnode : fs.node? above = some node) :
    other.node? above = some node := by
  rcases h.above location hlocation above habove with hsame | ⟨hnone, -⟩
  · rw [hsame, hnode]
  · rw [hnode] at hnone
    cases hnone

/-- Says that two file systems have changed in the same way: at each location either both are as they
were, or they have become the same. -/
def Parallel (fs other fs' other' : FileSystem) : Prop :=
  ∀ location, fs'.node? location = fs.node? location ∧ other'.node? location = other.node? location ∨
    other'.node? location = fs'.node? location

theorem Parallel.refl (fs other : FileSystem) : Parallel fs other fs other :=
  fun _ => .inl ⟨rfl, rfl⟩

theorem Parallel.trans {fs other fs' other' fs'' other'' : FileSystem}
    (h : Parallel fs other fs' other') (h' : Parallel fs' other' fs'' other'') :
    Parallel fs other fs'' other'' := by
  intro location
  rcases h' location with ⟨hfs, hother⟩ | hsame
  · rw [hfs, hother]
    exact h location
  · exact .inr hsame

theorem parallel_put {fs other : FileSystem} {location : Location} (hlocation : location ≠ [])
    (node : Node) : Parallel fs other (fs.put location node) (other.put location node) := by
  intro here
  rw [node?_put hlocation, node?_put hlocation]
  split
  · exact .inr rfl
  · exact .inl ⟨rfl, rfl⟩

/-- What only one of two file systems has is put into the other one. -/
theorem parallel_put_present {fs other : FileSystem} {location : Location} {node : Node}
    (hlocation : location ≠ []) (hnode : other.node? location = some node) :
    Parallel fs other (fs.put location node) other := by
  intro here
  rw [node?_put hlocation]
  split
  · next heq => exact .inr (heq ▸ hnode)
  · exact .inl ⟨rfl, rfl⟩

theorem parallel_erase {fs other : FileSystem} {location : Location} (hlocation : location ≠ []) :
    Parallel fs other (fs.erase location) (other.erase location) := by
  intro here
  rw [node?_erase hlocation, node?_erase hlocation]
  split
  · exact .inr rfl
  · exact .inl ⟨rfl, rfl⟩

/-- File systems that agreed still agree after the same changes. -/
theorem Agrees.of_parallel {used : List Location} {fs other fs' other' : FileSystem}
    (h : Agrees used fs other) (hparallel : Parallel fs other fs' other') {written written' : List Location}
    (htouches : Touches written fs fs') (htouches' : Touches written' other other') :
    Agrees used fs' other' where
  wellFormed := htouches.wellFormed
  wellFormed_other := htouches'.wellFormed
  workingDirectory := by
    rw [htouches'.workingDirectory, htouches.workingDirectory, h.workingDirectory]
  node?_eq location hlocation := by
    rcases hparallel location with ⟨hfs, hother⟩ | hsame
    · rw [hfs, hother, h.node?_eq location hlocation]
    · exact hsame
  above location hlocation above habove := by
    rcases hparallel above with ⟨hfs, hother⟩ | hsame
    · rw [hfs, hother]
      exact h.above location hlocation above habove
    · exact .inl hsame

end FileSystem

end TelemetryCharts
