import TelemetryCharts.Proofs.Files.Footprint
import TelemetryCharts.Proofs.Files.Walk

/-!
# Reading where a plain path leads

In file systems that agree on the location of a plain path, the path leads to the same file or
directory, or to nothing that exists. What is missing may be missed in different ways.
-/

namespace TelemetryCharts.FileSystem

/-- Says that a path leads to nothing that exists. -/
def LeadsNowhere (fs : FileSystem) (p : Path) : Prop :=
  ∀ location node isOpen, fs.find p ≠ .ok (.existing location node isOpen)

section
variable {fs other : FileSystem} {p : Path} {used : List Location}

theorem LeadsNowhere.isFile (h : fs.LeadsNowhere p) : fs.isFile p = false := by
  unfold FileSystem.isFile
  split
  · next hfind => exact absurd hfind (h _ _ _)
  · rfl

theorem LeadsNowhere.isDirectory (h : fs.LeadsNowhere p) : fs.isDirectory p = false := by
  unfold FileSystem.isDirectory
  split
  · next hfind => exact absurd hfind (h _ _ _)
  · rfl

/-- Something has a directory above it, and so does the start of a path. -/
theorem WellFormed.node?_dropLast (h : fs.WellFormed) (p : Path)
    (hnode : fs.node? (p.location fs.workingDirectory) ≠ none) :
    fs.node? (p.start fs.workingDirectory ++ p.names.dropLast) = some .directory := by
  rcases List.eq_nil_or_concat p.names with hnames | ⟨names, last, hnames⟩
  · rw [hnames, List.dropLast_nil, List.append_nil]
    exact h.node?_start p
  · rw [List.concat_eq_append] at hnames
    rw [Path.location, hnames, ← List.append_assoc] at hnode
    rw [hnames, List.dropLast_concat]
    exact h.parent hnode

section
variable (h : Agrees used fs other) (hplain : p.IsPlain)
  (hused : p.location fs.workingDirectory ∈ used)
include h hplain hused

/-- Where a path is ready, it leads to the same in file systems that agree on its location. -/
theorem find_eq_of_ready (hready : fs.Ready p) : other.Ready p ∧ other.find p = fs.find p := by
  have hprefix := p.dropLast_prefix_location fs.workingDirectory
  have hready' : other.Ready p := by
    rw [Ready, h.workingDirectory]
    exact ⟨hready.1, h.node?_eq_some hused hprefix hready.2⟩
  refine ⟨hready', ?_⟩
  rw [find_of_ready h.wellFormed hplain hready, find_of_ready h.wellFormed_other hplain hready',
    h.workingDirectory, landing, landing, h.node?_eq _ hused]

/-- A path leads to the same in file systems that agree on its location, or else to nothing that
exists in any of them. -/
theorem find_eq_or_leadsNowhere :
    other.find p = fs.find p ∨ fs.LeadsNowhere p ∧ other.LeadsNowhere p := by
  by_cases hready : fs.Ready p
  · exact .inl (find_eq_of_ready h hplain hused hready).2
  · refine .inr ⟨?_, ?_⟩
    · intro location node isOpen hfind
      exact hready (find_eq_ok h.wellFormed hplain hfind).1
    · intro location node isOpen hfind
      obtain ⟨hready', hlanding⟩ := find_eq_ok h.wellFormed_other hplain hfind
      have hnode : fs.node? (p.location fs.workingDirectory) ≠ none := by
        intro hnone
        rw [h.workingDirectory, landing, h.node?_eq _ hused, hnone] at hlanding
        cases hlanding
      exact hready ⟨hready'.1, h.wellFormed.node?_dropLast p hnode⟩

theorem isFile_eq : other.isFile p = fs.isFile p := by
  rcases find_eq_or_leadsNowhere h hplain hused with hfind | ⟨hfs, hother⟩
  · rw [isFile, isFile, hfind]
  · rw [hfs.isFile, hother.isFile]

theorem contains_eq : other.contains p = fs.contains p := by
  rcases find_eq_or_leadsNowhere h hplain hused with hfind | ⟨hfs, hother⟩
  · rw [contains, contains, isFile, isFile, isDirectory, isDirectory, hfind]
  · rw [contains, contains, hfs.isFile, hfs.isDirectory, hother.isFile, hother.isDirectory]

theorem read_eq_of_isFile (hfile : fs.isFile p = true) : other.read p = fs.read p := by
  rcases find_eq_or_leadsNowhere h hplain hused with hfind | ⟨hfs, -⟩
  · rw [read, read, hfind]
  · rw [hfs.isFile] at hfile
    cases hfile

end

end

end TelemetryCharts.FileSystem
