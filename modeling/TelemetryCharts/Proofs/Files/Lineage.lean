import TelemetryCharts.Proofs.Files.Actions
import TelemetryCharts.Proofs.Files.Descent
import TelemetryCharts.Proofs.Files.Segments

/-!
# Creating the directories of a path

Directories are created from the last name of a path upwards and back again. The outcome is that of
going down from the start of the path.
-/

namespace TelemetryCharts.FileSystem

theorem createDirectory_run (fs : FileSystem) (p : Path) :
    (createDirectory p).run fs =
      match fs.find p with
      | .ok (.free location _) => (.ok (), fs.put location .directory)
      | .ok (.existing ..) => (.error .alreadyExists, fs)
      | .error e => (.error e, fs) := by
  rw [createDirectory, Action.run_bind, Action.run_get]
  dsimp only
  cases fs.find p with
  | error e => rfl
  | ok destination => cases destination <;> rfl

theorem orPresent_run (fs : FileSystem) (p : Path) (e : FileError) :
    (orPresent p e).run fs = if fs.isDirectory p then (.ok (), fs) else (.error e, fs) := by
  rw [orPresent, Action.run_bind, Action.run_get]
  dsimp only
  cases fs.isDirectory p <;> rfl

section
variable {fs : FileSystem} {here : Location} {names : List (List Char)}

/-- Directories that are there are passed without a change. -/
theorem descend_append (h : fs.WellFormed) (hnames : ∀ name ∈ names, Fits name)
    (hnode : fs.node? (here ++ names) = some .directory) (rest : List (List Char)) :
    fs.descend here (names ++ rest) = fs.descend (here ++ names) rest := by
  induction names generalizing here with
  | nil => rw [List.nil_append, List.append_nil]
  | cons name names ih =>
    obtain ⟨hfits, hnames⟩ := List.forall_mem_cons.1 hnames
    rw [List.append_cons here name names] at hnode ⊢
    rw [List.cons_append, descend_directory hfits (h.node?_of_append hnode), ih hnames hnode]

/-- A walk that fails for another reason than a missing directory creates nothing. -/
theorem descend_of_walk_error {isOpen : Bool} {e : FileError}
    (hwalk : fs.walk here isOpen names = .error e) (he : e ≠ .notFound) :
    fs.descend here names = (.error e, fs) := by
  induction names generalizing here with
  | nil => cases hwalk
  | cons name names ih =>
    by_cases hfits : Fits name
    · cases hnode : fs.node? (here ++ [name]) with
      | none =>
        rw [walk, if_neg hfits, hnode] at hwalk
        simp only at hwalk
        split at hwalk
        · cases hwalk
        · cases hwalk
          exact absurd rfl he
      | some node =>
        cases node with
        | directory =>
          rw [walk_directory hfits hnode] at hwalk
          rw [descend_directory hfits hnode, ih hwalk]
        | file content =>
          rw [walk, if_neg hfits, hnode] at hwalk
          simp only at hwalk
          rw [descend_file hfits hnode]
          split at hwalk
          · cases hwalk
          · next hnames =>
            cases hwalk
            rw [if_neg hnames]
    · rw [walk_long hfits] at hwalk
      cases hwalk
      rw [descend_long hfits]

/-- Below what is missing there is no file in the way. -/
theorem descend_fresh (hfresh : ∀ below ≠ [], fs.node? (here ++ below) = none) :
    (fs.descend here names).1 ≠ .error .alreadyExists := by
  induction names generalizing fs here with
  | nil => exact nofun
  | cons name names ih =>
    by_cases hfits : Fits name
    · rw [descend_missing hfits (hfresh [name] (by simp))]
      apply ih
      intro below hbelow
      rw [node?_put (by simp), if_neg (by simp [hbelow]), List.append_assoc]
      exact hfresh _ (by simp)
    · rw [descend_long hfits]
      exact nofun

theorem descend_of_walk_notFound (h : fs.WellFormed) {isOpen : Bool} {last : List Char}
    (hwalk : fs.walk here isOpen (names ++ [last]) = .error .notFound) :
    (fs.descend here names).1 ≠ .error .alreadyExists := by
  induction names generalizing here with
  | nil => exact nofun
  | cons name names ih =>
    have hnames : names ++ [last] ≠ [] := by simp
    rw [List.cons_append] at hwalk
    by_cases hfits : Fits name
    · cases hnode : fs.node? (here ++ [name]) with
      | none =>
        rw [descend_missing hfits hnode]
        apply descend_fresh
        intro below hbelow
        rw [node?_put (by simp), if_neg (by simp [hbelow])]
        exact h.below hbelow (by rw [hnode]; exact nofun)
      | some node =>
        cases node with
        | directory =>
          rw [walk_directory hfits hnode] at hwalk
          rw [descend_directory hfits hnode]
          exact ih hwalk
        | file content =>
          rw [walk_file hfits hnode hnames] at hwalk
          cases hwalk
    · rw [walk_long hfits] at hwalk
      cases hwalk

/-- Where no file is in the way, the last directory is created after those above it. -/
theorem descend_concat (hfile : (fs.descend here names).1 ≠ .error .alreadyExists)
    (last : List Char) :
    fs.descend here (names ++ [last]) =
      match fs.descend here names with
      | (.ok _, after) => after.descend (here ++ names) [last]
      | (.error e, after) => (.error e, after) := by
  induction names generalizing fs here with
  | nil => rw [List.nil_append, List.append_nil, descend]
  | cons name names ih =>
    rw [List.cons_append, List.append_cons here name names]
    by_cases hfits : Fits name
    · cases hnode : fs.node? (here ++ [name]) with
      | none =>
        rw [descend_missing hfits hnode] at hfile
        rw [descend_missing hfits hnode, descend_missing hfits hnode, ih hfile]
      | some node =>
        cases node with
        | directory =>
          rw [descend_directory hfits hnode] at hfile
          rw [descend_directory hfits hnode, descend_directory hfits hnode, ih hfile]
        | file content =>
          rw [descend_file hfits hnode] at hfile
          rw [descend_file hfits hnode, descend_file hfits hnode]
          by_cases hnames : names = []
          · simp [hnames] at hfile
          · simp [hnames]
    · rw [descend_long hfits, descend_long hfits]

end

section
variable {fs : FileSystem} {p : Path} {names : List (List Char)} {last : List Char}

theorem fault?_eq (hchars : p.chars ≠ []) (hnull : '\x00' ∉ p.chars)
    (hnames : p.names = names ++ [last]) :
    p.fault? = if nameLimit < (String.ofList last).utf8ByteSize then some .nameTooLong else none := by
  rw [Path.fault?, if_neg hchars, if_neg hnull, hnames, List.getLast?_concat]
  simp

/-- A directory is created where everything above it is there. -/
theorem createDirectory_of_ready (h : fs.WellFormed) (hplain : p.IsPlain) (hchars : p.chars ≠ [])
    (hnull : '\x00' ∉ p.chars) (hnames : p.names = names ++ [last]) (hready : fs.Ready p) :
    (tryCatch (createDirectory p) (orPresent p)).run fs =
      fs.descend (p.start fs.workingDirectory ++ names) [last] := by
  have hlocation : p.location fs.workingDirectory = p.start fs.workingDirectory ++ names ++ [last] := by
    rw [Path.location, hnames, List.append_assoc]
  have hfind := find_of_ready h hplain hready
  rw [fault?_eq hchars hnull hnames, hlocation] at hfind
  rw [Action.run_tryCatch, createDirectory_run]
  by_cases hfits : Fits last
  · rw [if_neg hfits, Option.elim_none, landing] at hfind
    cases hnode : fs.node? (p.start fs.workingDirectory ++ names ++ [last]) with
    | none =>
      rw [hnode] at hfind
      rw [descend_missing hfits hnode, hfind]
      rfl
    | some node =>
      cases node with
      | directory =>
        rw [hnode] at hfind
        rw [descend_directory hfits hnode, hfind]
        simp only [orPresent_run, isDirectory, hfind]
        rfl
      | file content =>
        rw [hnode] at hfind
        rw [descend_file hfits hnode, hfind]
        simp only [orPresent_run, isDirectory, hfind]
        rfl
  · rw [if_pos (Decidable.not_not.1 hfits), Option.elim_some] at hfind
    rw [descend_long hfits, hfind]
    simp only [orPresent_run, isDirectory, hfind]
    rfl

/-- A directory with others missing above it is created after these. -/
theorem createDirectory_of_missing (h : fs.WellFormed) (hplain : p.IsPlain) (hchars : p.chars ≠ [])
    (hnull : '\x00' ∉ p.chars) (hnames : p.names = names ++ [last])
    (hwalk : fs.walk (p.start fs.workingDirectory) p.isOpen (names ++ [last]) = .error .notFound)
    {create : FileAction Unit}
    (hcreate : create.run fs = fs.descend (p.start fs.workingDirectory) names) :
    (do create; tryCatch (createDirectory p) (orPresent p) : FileAction Unit).run fs =
      fs.descend (p.start fs.workingDirectory) (names ++ [last]) := by
  have htouches := touches_descend h (h.node?_start p) (List.mem_singleton_self _)
    (List.prefix_refl (p.start fs.workingDirectory ++ names))
  have hdirectories := node?_of_descend (h.node?_start p) names
  rw [Action.run_bind, hcreate, descend_concat (descend_of_walk_notFound h hwalk)]
  cases hdescend : fs.descend (p.start fs.workingDirectory) names with
  | mk r after =>
    rw [hdescend] at htouches hdirectories
    cases r with
    | error e => rfl
    | ok done =>
      have hready : after.Ready p := by
        rw [Ready, hnames, List.dropLast_concat, htouches.workingDirectory]
        exact hdirectories rfl
      have hlast := createDirectory_of_ready htouches.wellFormed hplain hchars hnull hnames hready
      rw [htouches.workingDirectory] at hlast
      exact hlast

end

/-- The parents of a path that are missing are created from above, whatever their number. -/
theorem createLineage_run {fuel : Nat} {p : Path} (hplain : p.IsPlain) (hnull : '\x00' ∉ p.chars)
    (hfuel : p.names.length < fuel) {fs : FileSystem} (h : fs.WellFormed) :
    (createLineage (p.lineageUpTo fuel)).run fs = fs.descend (p.start fs.workingDirectory) p.names := by
  induction fuel generalizing p with
  | zero => omega
  | succ fuel ih =>
    rw [Path.lineageUpTo, createLineage]
    split
    · next hchars =>
      have hnames : p.names = [] := by simp [Path.names, Path.segments, hchars, Path.split]
      rw [hnames]
      rfl
    · next hchars =>
      have hfind := find_eq_walk hplain fs
      rw [if_neg hchars, if_neg hnull] at hfind
      rw [Action.run_tryCatch, createDirectory_run]
      rcases List.eq_nil_or_concat p.names with hnames | ⟨names, last, hnames⟩
      · -- A path without a name leads to a directory that is there.
        rw [hnames, walk] at hfind
        rw [hnames, descend, hfind]
        simp only [reduceCtorEq, if_false, orPresent_run, isDirectory, hfind, if_true]
      rw [List.concat_eq_append] at hnames
      rw [hnames] at hfind ⊢
      cases hwalk : fs.walk (p.start fs.workingDirectory) p.isOpen (names ++ [last]) with
      | ok destination =>
        obtain ⟨hfits, hnode⟩ := node?_of_walk_concat (h.node?_start p) hwalk
        have hready : fs.Ready p := by
          rw [Ready, hnames, List.dropLast_concat]
          exact ⟨hfits, hnode⟩
        have hcreate := createDirectory_of_ready h hplain hchars hnull hnames hready
        rw [Action.run_tryCatch, createDirectory_run] at hcreate
        rw [hwalk] at hfind
        rw [descend_append h hfits hnode, ← hcreate, hfind]
        cases destination <;> rfl
      | error e =>
        rw [hwalk] at hfind
        rw [hfind]
        simp only
        by_cases he : e = .notFound
        · subst he
          obtain ⟨q, hparent, hq⟩ := Path.exists_parent hplain hnames
          have hlength : q.names.length < fuel := by
            rw [hnames, List.length_append, List.length_singleton] at hfuel
            rw [hq.names_eq]
            omega
          have hstart : q.start fs.workingDirectory = p.start fs.workingDirectory := by
            rw [Path.start, Path.start, hq.isAbsolute_eq]
          have habove := ih hq.plain (hq.noNull hnull) hlength
          rw [hstart, hq.names_eq] at habove
          rw [if_pos rfl, hparent, Option.elim_some]
          exact createDirectory_of_missing h hplain hchars hnull hnames hwalk habove
        · rw [if_neg he, descend_of_walk_error hwalk he]
          simp [orPresent_run, isDirectory, hfind]

/-- The directories above a path are created from above. A null character anywhere in them is found
before anything is created. -/
theorem createParents_run {p : Path} (hplain : p.IsPlain) {fs : FileSystem} (h : fs.WellFormed) :
    (createParents p).run fs =
      if p.parent?.any fun q => '\x00' ∈ q.chars then (.error .invalidName, fs)
      else fs.descend (p.start fs.workingDirectory) p.names.dropLast := by
  rw [createParents]
  rcases List.eq_nil_or_concat p.names with hnames | ⟨names, last, hnames⟩
  · rw [Path.parent?_eq_none hplain hnames, hnames]
    rfl
  · rw [List.concat_eq_append] at hnames
    obtain ⟨q, hparent, hq⟩ := Path.exists_parent hplain hnames
    have hstart : q.start fs.workingDirectory = p.start fs.workingDirectory := by
      rw [Path.start, Path.start, hq.isAbsolute_eq]
    rw [hparent, hnames, List.dropLast_concat]
    simp only [Option.any_some, decide_eq_true_eq, createDirectories, Path.lineage]
    split
    · next hnull =>
      have hchars : q.chars ≠ [] := List.ne_nil_of_mem hnull
      have hfind := find_eq_walk hq.plain fs
      rw [if_neg hchars, if_pos hnull] at hfind
      rw [Path.lineageUpTo, createLineage, if_neg hchars, Action.run_tryCatch, createDirectory_run, hfind]
      simp [orPresent_run, isDirectory, hfind]
    · next hnull =>
      have hlength := Path.length_names_le q
      rw [createLineage_run hq.plain hnull (by omega) h, hstart, hq.names_eq]

/-- Once its parents have been created, a path is ready. -/
theorem ready_of_createParents {p : Path} (hplain : p.IsPlain) {fs after : FileSystem} {x : Unit}
    (h : fs.WellFormed) (hrun : (createParents p).run fs = (.ok x, after)) : after.Ready p := by
  rw [createParents_run hplain h] at hrun
  split at hrun
  · cases hrun
  · have hstart := h.node?_start p
    have hdirectories := node?_of_descend hstart p.names.dropLast
    have htouches := touches_descend h hstart (List.mem_singleton_self _)
      (p.dropLast_prefix_location fs.workingDirectory)
    rw [hrun] at hdirectories htouches
    rw [Ready, htouches.workingDirectory]
    exact hdirectories rfl

end TelemetryCharts.FileSystem
