import TelemetryCharts.Proofs.Files.Lineage
import TelemetryCharts.Proofs.Files.Reading
import TelemetryCharts.Session.Execute

/-!
# Writing where a plain path leads

Creating the directories above a plain path, writing to it and removing it keep to a scope that has
the location of the path. Writing relies on the directories above the path, so it does so only where
these have been created.
-/

namespace TelemetryCharts

theorem Run.succeeds_run (action : FileAction Unit) (fs : FileSystem) :
    (Run.succeeds action).run fs =
      (.ok (match (action.run fs).1 with | .ok _ => true | .error _ => false), (action.run fs).2) := by
  show (match (action.run fs).1 with
    | Except.ok _ => (pure (Except.ok true) : StateM FileSystem (Except Stop Bool))
    | Except.error _ => pure (Except.ok false)) (action.run fs).2 = _
  cases (action.run fs).1 <;> rfl

theorem Run.within_succeeds {scope : Scope} {P : FileSystem → Prop} {action : FileAction Unit}
    (h : Action.Within scope P action) : Action.Within scope P (Run.succeeds action) :=
  h.of_run (fun r => .ok (match r with | .ok _ => true | .error _ => false))
    (Run.succeeds_run action)

namespace FileSystem

/-- Where a file is written, given where its path leads. -/
def placeOf : Except FileError Destination → Except FileError Location
  | .ok (.existing location (.file _) false) => .ok location
  | .ok (.free location false) => .ok location
  | .ok _ => .error .isADirectory
  | .error e => .error e

/-- Which file is removed, given where its path leads. -/
def fileOf? : Except FileError Destination → Option Location
  | .ok (.existing location (.file _) false) => some location
  | _ => none

section
variable {fs other : FileSystem} {p : Path}

theorem LeadsNowhere.fileOf? (h : fs.LeadsNowhere p) :
    FileSystem.fileOf? (fs.find p) = none := by
  unfold FileSystem.fileOf?
  split
  · next hfind => exact absurd hfind (h _ _ _)
  · rfl

/-- A location that is no directory lies in a directory. -/
theorem Ready.exists_concat (h : fs.WellFormed) (hready : fs.Ready p)
    (hnode : fs.node? (p.location fs.workingDirectory) ≠ some .directory) :
    ∃ here name, p.location fs.workingDirectory = here ++ [name] ∧ fs.node? here = some .directory := by
  rcases List.eq_nil_or_concat p.names with hnames | ⟨names, last, hnames⟩
  · rw [Path.location, hnames, List.append_nil, h.node?_start p] at hnode
    exact absurd rfl hnode
  · rw [List.concat_eq_append] at hnames
    have hdirectory := hready.2
    rw [hnames, List.dropLast_concat] at hdirectory
    exact ⟨_, last, by rw [Path.location, hnames, List.append_assoc], hdirectory⟩

/-- A file that is put where a path leads is all that is changed by it. -/
theorem Ready.touches_put (h : fs.WellFormed) (hready : fs.Ready p)
    (hnode : fs.node? (p.location fs.workingDirectory) ≠ some .directory) {written : List Location}
    (hwritten : p.location fs.workingDirectory ∈ written) (node : Node) :
    Touches written fs (fs.put (p.location fs.workingDirectory) node) := by
  obtain ⟨here, name, hlocation, hhere⟩ := hready.exists_concat h hnode
  rw [hlocation] at hnode hwritten ⊢
  refine ⟨h.put hhere hnode, rfl, fun other => ?_⟩
  rw [node?_put (by simp)]
  split
  · next heq => exact .inr (.inl (heq ▸ hwritten))
  · exact .inl rfl

theorem write_run (fs : FileSystem) (p : Path) (content : ByteArray) :
    (write p content).run fs =
      match placeOf (fs.find p) with
      | .ok location => (.ok (), fs.put location (.file content))
      | .error e => (.error e, fs) := by
  rw [write, Action.run_bind, Action.run_get]
  dsimp only
  cases fs.find p with
  | error e => rfl
  | ok destination =>
    cases destination with
    | existing location node isOpen => cases node <;> cases isOpen <;> rfl
    | free location isOpen => cases isOpen <;> rfl

theorem placeOf_landing {here location : Location} {isOpen : Bool}
    (h : placeOf (.ok (fs.landing here isOpen)) = .ok location) :
    location = here ∧ fs.node? location ≠ some .directory := by
  rw [landing] at h
  split at h
  · cases h
  · next content hnode =>
    cases isOpen <;> cases h
    exact ⟨rfl, by simp [hnode]⟩
  · next hnode =>
    cases isOpen <;> cases h
    exact ⟨rfl, by simp [hnode]⟩

theorem fileOf?_landing {here location : Location} {isOpen : Bool}
    (h : fileOf? (.ok (fs.landing here isOpen)) = some location) :
    location = here ∧ fs.node? location ≠ some .directory := by
  rw [landing] at h
  split at h
  · cases h
  · next content hnode =>
    cases isOpen <;> cases h
    exact ⟨rfl, by simp [hnode]⟩
  · cases isOpen <;> cases h

/-- A file is written at the location of its path, where no directory stands. -/
theorem placeOf_eq_ok (h : fs.WellFormed) (hplain : p.IsPlain) {location : Location}
    (hplace : placeOf (fs.find p) = .ok location) :
    fs.Ready p ∧ location = p.location fs.workingDirectory ∧ fs.node? location ≠ some .directory := by
  cases hfind : fs.find p with
  | error e =>
    rw [hfind] at hplace
    cases hplace
  | ok destination =>
    obtain ⟨hready, rfl⟩ := find_eq_ok h hplain hfind
    rw [hfind] at hplace
    exact ⟨hready, placeOf_landing hplace⟩

theorem remove_run (fs : FileSystem) (p : Path) :
    (Run.succeeds (remove p)).run fs =
      match fileOf? (fs.find p) with
      | some location => (.ok true, fs.erase location)
      | none => (.ok false, fs) := by
  rw [Run.succeeds_run, remove, Action.run_bind, Action.run_get]
  dsimp only
  cases fs.find p with
  | error e => rfl
  | ok destination =>
    cases destination with
    | existing location node isOpen => cases node <;> cases isOpen <;> rfl
    | free location isOpen => rfl

/-- A file that is removed stands at the location of its path. -/
theorem fileOf?_eq_some (h : fs.WellFormed) (hplain : p.IsPlain) {location : Location}
    (hfile : fileOf? (fs.find p) = some location) :
    location = p.location fs.workingDirectory ∧ fs.node? location ≠ some .directory := by
  cases hfind : fs.find p with
  | error e =>
    rw [hfind] at hfile
    cases hfile
  | ok destination =>
    obtain ⟨-, rfl⟩ := find_eq_ok h hplain hfind
    rw [hfind] at hfile
    exact fileOf?_landing hfile

end

section
variable {scope : Scope} {p : Path} (hplain : p.IsPlain) (hwritten : p.location scope.home ∈ scope.written)
include hplain hwritten

theorem within_createParents : Action.Within scope (fun _ => True) (createParents p) where
  touches fs hfs hhome := by
    have hstart := hfs.node?_start p
    rw [createParents_run hplain hfs]
    rw [hhome] at hstart ⊢
    split
    · exact .refl _ hfs
    · exact touches_descend hfs hstart hwritten (p.dropLast_prefix_location scope.home)
  alike fs other h hhome _ := by
    have hstart := h.wellFormed.node?_start p
    rw [createParents_run hplain h.wellFormed, createParents_run hplain h.wellFormed_other,
      h.workingDirectory]
    rw [hhome] at hstart ⊢
    split
    · exact ⟨rfl, .refl fs other⟩
    · exact descend_alike h hstart (scope.used_of_written _ hwritten)
        (p.dropLast_prefix_location scope.home)

theorem within_write (content : ByteArray) :
    Action.Within scope (fun fs => fs.Ready p) (write p content) where
  touches fs hfs hhome := by
    rw [write_run]
    cases hplace : placeOf (fs.find p) with
    | error e => exact .refl _ hfs
    | ok location =>
      obtain ⟨hready, rfl, hnode⟩ := placeOf_eq_ok hfs hplain hplace
      exact hready.touches_put hfs hnode (hhome ▸ hwritten) _
  alike fs other h hhome hready := by
    have hused := scope.used_of_written _ hwritten
    rw [← hhome] at hused
    rw [write_run, write_run, (find_eq_of_ready h hplain hused hready).2]
    cases hplace : placeOf (fs.find p) with
    | error e => exact ⟨rfl, .refl fs other⟩
    | ok location =>
      obtain ⟨-, -, hnode⟩ := placeOf_eq_ok h.wellFormed hplain hplace
      exact ⟨rfl, parallel_put (ne_nil_of_node? hnode) _⟩

theorem within_remove : Action.Within scope (fun _ => True) (Run.succeeds (remove p)) where
  touches fs hfs hhome := by
    rw [remove_run]
    cases hfile : fileOf? (fs.find p) with
    | none => exact .refl _ hfs
    | some location =>
      obtain ⟨rfl, hnode⟩ := fileOf?_eq_some hfs hplain hfile
      exact touches_erase hfs hnode (hhome ▸ hwritten)
  alike fs other h hhome _ := by
    have hused := scope.used_of_written _ hwritten
    rw [← hhome] at hused
    rw [remove_run, remove_run]
    rcases find_eq_or_leadsNowhere h hplain hused with hfind | ⟨hfs, hother⟩
    · rw [hfind]
      cases hfile : fileOf? (fs.find p) with
      | none => exact ⟨rfl, .refl fs other⟩
      | some location =>
        obtain ⟨-, hnode⟩ := fileOf?_eq_some h.wellFormed hplain hfile
        exact ⟨rfl, parallel_erase (ne_nil_of_node? hnode)⟩
    · rw [hfs.fileOf?, hother.fileOf?]
      exact ⟨rfl, .refl fs other⟩

end

end FileSystem

end TelemetryCharts
