import TelemetryCharts.Proofs.Files.Ways

/-!
# Changes by actions at any paths

An action on files keeps all directories. Creating the directories above a path changes nothing but
that directories appear on the way to its parent, and writing a file changes nothing else but what
stands at one place.
-/

namespace TelemetryCharts

namespace FileSystem

/-- Says that all directories are kept, and that nothing else has changed but what stands at some
written locations and new directories on a trail. -/
structure ChangesOnly (written trail : List Location) (before after : FileSystem) : Prop where
  workingDirectory : after.workingDirectory = before.workingDirectory
  directories : ∀ location, before.node? location = some .directory →
    after.node? location = some .directory
  nodes : ∀ location, location ∉ written → after.node? location = before.node? location ∨
    before.node? location = none ∧ after.node? location = some .directory ∧ location ∈ trail

namespace ChangesOnly

variable {written written' trail trail' : List Location} {first second third : FileSystem}

theorem refl (written trail : List Location) (fs : FileSystem) : ChangesOnly written trail fs fs where
  workingDirectory := rfl
  directories _ hnode := hnode
  nodes _ _ := .inl rfl

theorem mono (h : ChangesOnly written trail first second) (hwritten : written ⊆ written')
    (htrail : trail ⊆ trail') : ChangesOnly written' trail' first second where
  workingDirectory := h.workingDirectory
  directories := h.directories
  nodes location hlocation := by
    rcases h.nodes location fun hmem => hlocation (hwritten hmem) with hsame | ⟨hnone, hnew, hmem⟩
    · exact .inl hsame
    · exact .inr ⟨hnone, hnew, htrail hmem⟩

theorem trans (h : ChangesOnly written trail first second) (h' : ChangesOnly written trail second third) :
    ChangesOnly written trail first third where
  workingDirectory := h'.workingDirectory.trans h.workingDirectory
  directories location hnode := h'.directories location (h.directories location hnode)
  nodes location hlocation := by
    rcases h.nodes location hlocation with hsame | ⟨hnone, hnew, hmem⟩
    · rw [← hsame]
      exact h'.nodes location hlocation
    · exact .inr ⟨hnone, h'.directories location hnew, hmem⟩

/-- Files at other locations are neither written nor removed. -/
theorem node?_eq_file_iff (h : ChangesOnly written trail first second) {location : Location}
    (hlocation : location ∉ written) (content : ByteArray) :
    second.node? location = some (.file content) ↔ first.node? location = some (.file content) := by
  rcases h.nodes location hlocation with hsame | ⟨hnone, hnew, -⟩
  · rw [hsame]
  · rw [hnone, hnew]
    simp

/-- A path still leads to the place where it led to a file or to nothing, unless a directory is there
now. -/
theorem find_of_placeOf (h : ChangesOnly written trail first second) {p : Path} {location : Location}
    (hplace : placeOf (first.find p) = .ok location)
    (hnode : second.node? location ≠ some .directory) :
    second.find p = .ok (second.landing location false) :=
  FileSystem.find_of_placeOf h.workingDirectory h.directories hplace hnode

end ChangesOnly

variable {fs after : FileSystem} {p q : Path} {location : Location}

theorem changesOnly_put (hnode : fs.node? location ≠ some .directory) (node : Node) :
    ChangesOnly [location] [] fs (fs.put location node) where
  workingDirectory := rfl
  directories other hother := by
    have hne : other ≠ location := fun heq => hnode (heq ▸ hother)
    rw [node?_put (ne_nil_of_node? hnode), if_neg hne, hother]
  nodes other hother := by
    rw [node?_put (ne_nil_of_node? hnode), if_neg (by simpa using hother)]
    exact .inl rfl

theorem changesOnly_erase (hnode : fs.node? location ≠ some .directory) :
    ChangesOnly [location] [] fs (fs.erase location) where
  workingDirectory := rfl
  directories other hother := by
    have hne : other ≠ location := fun heq => hnode (heq ▸ hother)
    rw [node?_erase (ne_nil_of_node? hnode), if_neg hne, hother]
  nodes other hother := by
    rw [node?_erase (ne_nil_of_node? hnode), if_neg (by simpa using hother)]
    exact .inl rfl

/-- A directory is created at a free place that is passed on the way. -/
theorem changesOnly_createDirectory (fs : FileSystem) (p : Path) :
    ChangesOnly [] (passedBy fs.workingDirectory p) fs ((createDirectory p).run fs).2 := by
  rw [createDirectory_run]
  cases hfind : fs.find p with
  | error e => exact .refl _ _ fs
  | ok destination =>
    cases destination with
    | existing location node isOpen => exact .refl _ _ fs
    | free location isOpen =>
      obtain ⟨hnone, hmem⟩ := node?_of_find_free hfind
      have hnode : fs.node? location ≠ some .directory := by
        rw [hnone]
        exact nofun
      have hput := changesOnly_put hnode .directory
      refine ⟨hput.workingDirectory, hput.directories, fun other _ => ?_⟩
      by_cases hother : other = location
      · subst hother
        refine .inr ⟨hnone, ?_, hmem⟩
        rw [node?_put (ne_nil_of_node? hnode), if_pos rfl]
      · refine .inl ?_
        rw [node?_put (ne_nil_of_node? hnode), if_neg hother]

section
variable {trail : List Location}

/-- Creating a directory changes nothing else if what is done about its failure does not. -/
theorem changesOnly_tryCatch {handle : FileError → FileAction Unit}
    (htrail : passedBy fs.workingDirectory p ⊆ trail)
    (hhandle : ∀ e, ChangesOnly [] trail fs ((handle e).run fs).2) :
    ChangesOnly [] trail fs ((tryCatch (createDirectory p) handle).run fs).2 := by
  have hcreate := (changesOnly_createDirectory fs p).mono (List.Subset.refl _) htrail
  rw [Action.run_tryCatch]
  cases hrun : (createDirectory p).run fs with
  | mk r after =>
    rw [hrun] at hcreate
    cases r with
    | ok x => exact hcreate
    | error e =>
      -- A failure to create a directory leaves the files as they were.
      have hsame : after = fs := by
        rw [createDirectory_run] at hrun
        split at hrun <;> cases hrun <;> rfl
      rw [hsame]
      exact hhandle e

theorem changesOnly_orPresent (e : FileError) :
    ChangesOnly [] trail fs ((orPresent p e).run fs).2 := by
  rw [orPresent_run]
  split <;> exact .refl _ _ fs

/-- Directories are only created where the first of the paths passes. -/
theorem changesOnly_createLineage {fuel : Nat}
    (htrail : p.chars ≠ [] → passedBy fs.workingDirectory p ⊆ trail) :
    ChangesOnly [] trail fs ((createLineage (p.lineageUpTo fuel)).run fs).2 := by
  induction fuel generalizing p fs with
  | zero => exact .refl _ _ fs
  | succ fuel ih =>
    rw [Path.lineageUpTo, createLineage]
    by_cases hchars : p.chars = []
    · rw [if_pos hchars]
      exact .refl _ _ fs
    rw [if_neg hchars]
    refine changesOnly_tryCatch (htrail hchars) fun e => ?_
    by_cases he : e = .notFound
    · have hparents : ChangesOnly [] trail fs
          ((createLineage (p.parent?.elim [] (Path.lineageUpTo fuel))).run fs).2 := by
        cases hparent : p.parent? with
        | none => exact .refl _ _ fs
        | some q =>
          apply ih
          intro hq location hlocation
          have hway := (Path.isOnWay_of_parent? hparent).resolve_left hq
          apply htrail hchars
          rw [passedBy, ← hway.isAbsolute_eq]
          exact hway.passed _ hlocation
      rw [if_pos he, Action.run_bind]
      cases hrun : (createLineage (p.parent?.elim [] (Path.lineageUpTo fuel))).run fs with
      | mk r middle =>
        rw [hrun] at hparents
        cases r with
        | error e => exact hparents
        | ok x =>
          have hsame : passedBy middle.workingDirectory p ⊆ trail := by
            rw [hparents.workingDirectory]
            exact htrail hchars
          exact hparents.trans (changesOnly_tryCatch hsame fun e => changesOnly_orPresent e)
    · rw [if_neg he]
      exact changesOnly_orPresent e

end

end FileSystem

/-- The locations that are passed on the way to the parent of a path. -/
def Path.trail (home : Location) (p : Path) : List Location :=
  p.parent?.elim [] (FileSystem.passedBy home)

namespace FileSystem

/-- Creating the directories above a path changes nothing but that directories appear on the way to
its parent. -/
theorem changesOnly_createParents (fs : FileSystem) (p : Path) :
    ChangesOnly [] (p.trail fs.workingDirectory) fs ((createParents p).run fs).2 := by
  rw [createParents, Path.trail]
  cases p.parent? with
  | none => exact .refl _ _ fs
  | some q => exact changesOnly_createLineage fun _ => List.Subset.refl _

variable {fs after : FileSystem} {p q : Path}

theorem not_isDirectory_of_orPresent {e e' : FileError}
    (h : (orPresent p e').run fs = (.error e, after)) : after.isDirectory p = false := by
  rw [orPresent_run] at h
  split at h
  · cases h
  · next hnot =>
    cases h
    simpa using hnot

/-- If a directory cannot be created and is not there already, it is not there in the end. -/
theorem not_isDirectory_of_tryCatch {e : FileError}
    (h : (tryCatch (createDirectory p) (orPresent p)).run fs = (.error e, after)) :
    after.isDirectory p = false := by
  rw [Action.run_tryCatch, createDirectory_run] at h
  cases hfind : fs.find p with
  | error e' =>
    rw [hfind] at h
    exact not_isDirectory_of_orPresent h
  | ok destination =>
    rw [hfind] at h
    cases destination with
    | existing location node isOpen => exact not_isDirectory_of_orPresent h
    | free location isOpen => cases h

theorem isDirectory_of_find_error {e : FileError} (hfind : fs.find p = .error e) :
    fs.isDirectory p = false := by
  rw [isDirectory, hfind]

theorem exists_find_of_isDirectory (h : fs.isDirectory p = true) :
    ∃ location isOpen, fs.find p = .ok (.existing location .directory isOpen) := by
  rw [isDirectory] at h
  split at h
  · next location isOpen hfind => exact ⟨location, isOpen, hfind⟩
  · cases h

/-- A directory that cannot be created after its parents is not there in the end if it is missing
whenever its parents cannot be created. -/
theorem not_isDirectory_of_createLineage_cons {parents : List Path} {e : FileError}
    (hparents : ∀ e' middle, fs.find p = .error .notFound →
      (createLineage parents).run fs = (.error e', middle) → middle.isDirectory p = false)
    (h : (createLineage (p :: parents)).run fs = (.error e, after)) :
    p.chars ≠ [] ∧ after.isDirectory p = false := by
  rw [createLineage] at h
  split at h
  · cases h
  next hchars =>
  refine ⟨hchars, ?_⟩
  rw [Action.run_tryCatch, createDirectory_run] at h
  cases hfind : fs.find p with
  | ok destination =>
    rw [hfind] at h
    cases destination with
    | existing location node isOpen => exact not_isDirectory_of_orPresent h
    | free location isOpen => cases h
  | error e' =>
    rw [hfind] at h
    dsimp only at h
    split at h
    · next hmissing =>
      subst hmissing
      rw [Action.run_bind] at h
      cases hrun : (createLineage parents).run fs with
      | mk r middle =>
        rw [hrun] at h
        cases r with
        | error e' =>
          cases h
          exact hparents _ _ hfind hrun
        | ok x => exact not_isDirectory_of_tryCatch h
    · exact not_isDirectory_of_orPresent h

/-- If the directories of a lineage cannot be created, the first of them is not there in the end. -/
theorem not_isDirectory_of_createLineage {fuel : Nat} {e : FileError}
    (h : (createLineage (p.lineageUpTo (fuel + 1))).run fs = (.error e, after)) :
    p.chars ≠ [] ∧ after.isDirectory p = false := by
  induction fuel generalizing p fs after e with
  | zero =>
    refine not_isDirectory_of_createLineage_cons (fun e' middle hfind hrun => ?_) h
    have hnone : p.parent?.elim [] (Path.lineageUpTo 0) = [] := by cases p.parent? <;> rfl
    rw [hnone] at hrun
    cases hrun
    exact isDirectory_of_find_error hfind
  | succ fuel ih =>
    refine not_isDirectory_of_createLineage_cons (fun e' middle hfind hrun => ?_) h
    cases hparent : p.parent? with
    | none =>
      rw [hparent] at hrun
      cases hrun
      exact isDirectory_of_find_error hfind
    | some q =>
      rw [hparent] at hrun
      obtain ⟨hchars, hmissing⟩ := ih hrun
      apply Bool.eq_false_iff.2
      intro hpresent
      obtain ⟨location, isOpen, hfound⟩ := exists_find_of_isDirectory hpresent
      rcases isDirectory_of_parent? hparent hfound with hnone | hdirectory
      · exact hchars hnone
      · rw [hmissing] at hdirectory
        cases hdirectory

/-- If the directories above a path cannot be created, the path leads nowhere in the end. -/
theorem find_of_createParents_error {e : FileError}
    (h : (createParents p).run fs = (.error e, after)) (destination : Destination) :
    after.find p ≠ .ok destination := by
  intro hfind
  rw [createParents] at h
  cases hparent : p.parent? with
  | none =>
    rw [hparent] at h
    cases h
  | some q =>
    rw [hparent] at h
    obtain ⟨hchars, hmissing⟩ := not_isDirectory_of_createLineage h
    rcases isDirectory_of_parent? hparent hfind with hnone | hdirectory
    · exact hchars hnone
    · rw [hmissing] at hdirectory
      cases hdirectory

end FileSystem

end TelemetryCharts
