import TelemetryCharts.FileSystem

/-!
# Nodes of a file system

A file system is well formed if everything in it stands in a directory, and so does the working
directory. Putting and erasing files where paths lead keeps it so.
-/

namespace TelemetryCharts.FileSystem

variable {fs : FileSystem} {location here : Location} {name : List Char} {node : Node}

theorem lookup_filter (entries : List (Location × Node)) (location other : Location) :
    (entries.filter (·.1 ≠ location)).lookup other =
      if other = location then none else entries.lookup other := by
  induction entries with
  | nil => simp
  | cons entry entries ih =>
    obtain ⟨key, node⟩ := entry
    rw [List.filter_cons, List.lookup_cons]
    by_cases hkey : key = location
    · subst hkey
      rw [if_neg (by simp), ih]
      by_cases hother : other = key
      · simp [hother]
      · simp [hother, beq_eq_false_iff_ne.2 hother]
    · rw [if_pos (by simpa using hkey), List.lookup_cons, ih]
      by_cases hother : other = location
      · subst hother
        simp [beq_eq_false_iff_ne.2 (Ne.symm hkey)]
      · simp [hother]

theorem node?_nil : fs.node? [] = some .directory :=
  rfl

theorem ne_nil_of_node? (hnode : fs.node? location ≠ some .directory) : location ≠ [] :=
  fun hnil => hnode (hnil ▸ node?_nil)

theorem node?_put (hlocation : location ≠ []) (other : Location) :
    (fs.put location node).node? other = if other = location then some node else fs.node? other := by
  by_cases hnil : other = []
  · rw [hnil, node?_nil, node?_nil, if_neg hlocation.symm]
  · rw [node?, node?, if_neg hnil, if_neg hnil, put, List.lookup_cons, lookup_filter]
    by_cases hother : other = location
    · simp [hother]
    · simp [hother, beq_eq_false_iff_ne.2 hother]

theorem node?_erase (hlocation : location ≠ []) (other : Location) :
    (fs.erase location).node? other = if other = location then none else fs.node? other := by
  by_cases hnil : other = []
  · rw [hnil, node?_nil, node?_nil, if_neg hlocation.symm]
  · rw [node?, node?, if_neg hnil, if_neg hnil, erase, lookup_filter]

/-- Says that everything in a file system stands in a directory, and that its working directory is
one. -/
structure WellFormed (fs : FileSystem) : Prop where
  parent : ∀ {here : Location} {name : List Char},
    fs.node? (here ++ [name]) ≠ none → fs.node? here = some .directory
  workingDirectory : fs.node? fs.workingDirectory = some .directory

/-- It is enough to look at what is listed. -/
theorem WellFormed.of_entries
    (hentries : ∀ entry ∈ fs.entries, fs.node? entry.1.dropLast = some .directory)
    (hhome : fs.node? fs.workingDirectory = some .directory) : fs.WellFormed where
  parent {here name} hnode := by
    rw [node?, if_neg (by simp)] at hnode
    obtain ⟨node, hlookup⟩ := Option.ne_none_iff_exists'.1 hnode
    obtain ⟨above, below, hsplit, -⟩ := List.lookup_eq_some_iff.1 hlookup
    have hentry := hentries (here ++ [name], node) (by rw [hsplit]; simp)
    rwa [List.dropLast_concat] at hentry
  workingDirectory := hhome

/-- Whatever stands above something is a directory. -/
theorem WellFormed.above (h : fs.WellFormed) {names : List (List Char)} (hnames : names ≠ [])
    (hnode : fs.node? (here ++ names) ≠ none) : fs.node? here = some .directory := by
  induction names generalizing here with
  | nil => exact absurd rfl hnames
  | cons name names ih =>
    cases names with
    | nil => exact h.parent hnode
    | cons next names =>
      have hlower : fs.node? (here ++ [name]) = some .directory :=
        ih (List.cons_ne_nil _ _) (by rwa [List.append_assoc])
      exact h.parent (by rw [hlower]; exact Option.some_ne_none _)

theorem WellFormed.node?_of_append (h : fs.WellFormed) {names : List (List Char)}
    (hnode : fs.node? (here ++ names) = some .directory) : fs.node? here = some .directory := by
  by_cases hnames : names = []
  · rwa [hnames, List.append_nil] at hnode
  · exact h.above hnames (by rw [hnode]; exact nofun)

/-- Nothing stands below a file or below what is missing. -/
theorem WellFormed.below (h : fs.WellFormed) {names : List (List Char)} (hnames : names ≠ [])
    (hnode : fs.node? here ≠ some .directory) : fs.node? (here ++ names) = none := by
  cases hlower : fs.node? (here ++ names) with
  | none => rfl
  | some node => exact absurd (h.above hnames (by rw [hlower]; exact Option.some_ne_none _)) hnode

theorem WellFormed.put (h : fs.WellFormed) (hhere : fs.node? here = some .directory)
    (hnode : fs.node? (here ++ [name]) ≠ some .directory) :
    (fs.put (here ++ [name]) node).WellFormed where
  parent {above other} hother := by
    have hlocation : here ++ [name] ≠ [] := by simp
    rw [node?_put hlocation] at hother ⊢
    by_cases hself : above ++ [other] = here ++ [name]
    · obtain ⟨rfl, -⟩ := List.append_inj' hself rfl
      rw [if_neg (by simp), hhere]
    · rw [if_neg hself] at hother
      have habove := h.parent hother
      have hne : above ≠ here ++ [name] := fun heq => hnode (heq ▸ habove)
      rw [if_neg hne, habove]
  workingDirectory := by
    have hdirectory := h.workingDirectory
    have hne : fs.workingDirectory ≠ here ++ [name] := fun heq => hnode (heq ▸ hdirectory)
    rw [node?_put (by simp), FileSystem.put, if_neg hne, hdirectory]

theorem WellFormed.erase (h : fs.WellFormed) (hnode : fs.node? location ≠ some .directory) :
    (fs.erase location).WellFormed where
  parent {above other} hother := by
    rw [node?_erase (ne_nil_of_node? hnode)] at hother ⊢
    by_cases hself : above ++ [other] = location
    · rw [if_pos hself] at hother
      exact absurd rfl hother
    · rw [if_neg hself] at hother
      have habove := h.parent hother
      have hne : above ≠ location := fun heq => hnode (heq ▸ habove)
      rw [if_neg hne, habove]
  workingDirectory := by
    have hdirectory := h.workingDirectory
    have hne : fs.workingDirectory ≠ location := fun heq => hnode (heq ▸ hdirectory)
    rw [node?_erase (ne_nil_of_node? hnode), FileSystem.erase, if_neg hne, hdirectory]

end TelemetryCharts.FileSystem
