import Mathlib.Data.List.Forall2
import TelemetryCharts.Chart.Configuration
import TelemetryCharts.Proofs.Chart.Outputs
import TelemetryCharts.Proofs.Series.Outcomes

/-!
# Paths in configuration files

The relative paths in a configuration file start at the directory of the file. A chart whose output is
not given gets one from the name of its table as the file has it, although the path of the table is
settled first: what a path starts at does not change the name that it ends with.
-/

namespace TelemetryCharts

namespace Path

/-- What stands between a directory and a path that starts there. -/
def joint (base : Path) : List Char :=
  if base.chars = [] ∨ base.chars.getLast? = some '/' then [] else ['/']

/-- Says where a path of a file in the directory `base` leads: an absolute path stays as it is, and a
relative one stands after the directory. -/
structure LocatedFrom (base p located : Path) : Prop where
  absolute : p.isAbsolute = true → located = p
  relative : p.isAbsolute = false → located.chars = base.chars ++ base.joint ++ p.chars

theorem locatedFrom_resolve (base p : Path) : base.LocatedFrom p (base.resolve p) := by
  constructor
  · intro habsolute
    rw [resolve, if_pos habsolute]
  · intro hrelative
    rw [resolve, if_neg (by simp [hrelative]), joint]
    simp only [Bool.or_eq_true, decide_eq_true_eq]
    split
    · rw [List.append_nil]
    · rw [List.append_assoc, List.singleton_append]

end Path

namespace Chart

/-- The path of the picture of a table in the directory for pictures. -/
def pictureOf (stem : List Char) : Path :=
  ⟨"plots/".toList ++ stem ++ ".svg".toList⟩

/-- Says that a chart is one that a file in the directory `base` lists, with all of its paths located
from there. Its output is the one that is listed, or else it has the stem of the table that is listed. -/
structure IsResolved (base : Path) (listed loaded : Chart) : Prop where
  input : base.LocatedFrom listed.input loaded.input
  seriesOut : Option.Rel base.LocatedFrom listed.seriesOut loaded.seriesOut
  output : ∃ stem located, listed.input.stem? = some stem ∧
    base.LocatedFrom (listed.output.getD (pictureOf stem)) located ∧
    loaded.output = some located ∧ loaded.outputPath = located
  window : loaded.window = listed.window
  truncate : loaded.truncate = listed.truncate
  style : loaded.style = listed.style
  labels : loaded.labels = listed.labels
  width : loaded.width = listed.width
  height : loaded.height = listed.height

/-- The output that a chart gets from its table does not depend on what the path of the table starts
at. -/
theorem outputPath_located (base : Path) {chart : Chart} {stem : List Char}
    (hstem : chart.input.stem? = some stem) :
    { chart with input := base.resolve chart.input }.outputPath =
      chart.output.getD (pictureOf stem) := by
  rw [outputPath]
  congr 1
  rw [defaultOutput_eq, stemOf, Path.stem?_resolve base hstem]
  rfl

/-- A chart whose table has a name is resolved. -/
theorem isResolved_resolve (base : Path) {chart : Chart} (hname : chart.input.fileName?.isSome = true) :
    IsResolved base chart (chart.resolve base) := by
  obtain ⟨name, hname⟩ := Option.isSome_iff_exists.1 hname
  have hstem : chart.input.stem? = some (Path.cutName name).1 := by
    rw [Path.stem?, hname, Option.map_some]
  have hseries : Option.Rel base.LocatedFrom chart.seriesOut (chart.seriesOut.map base.resolve) := by
    cases chart.seriesOut with
    | none => exact .none
    | some p => exact .some (base.locatedFrom_resolve p)
  refine ⟨base.locatedFrom_resolve _, hseries, ⟨_, _, hstem, base.locatedFrom_resolve _, ?_, ?_⟩,
    rfl, rfl, rfl, rfl, rfl, rfl⟩
  · rw [resolve, outputPath_located base hstem]
  · rw [outputPath, resolve, outputPath_located base hstem, Option.getD_some]

end Chart

namespace Configuration

variable {fs : FileSystem} {path : Path} {text : List Char} {listed : List Chart}

/-- A configuration that can be read lists its charts, with their paths taken as relative to its
directory. -/
theorem load_of_parse (hread : readText fs path = .ok text) (hparse : parse text = .ok listed) :
    load fs path = .ok (listed.map (Chart.resolve (path.parent?.getD (Path.ofText "")))) := by
  rw [load, hread]
  show ((parse text).within _ >>= _) = _
  rw [hparse]
  rfl

/-- The charts of a configuration file are loaded one for one, each with its paths located from the
directory of the file. -/
theorem load_resolves (hread : readText fs path = .ok text) (hparse : parse text = .ok listed)
    (hnames : ∀ chart ∈ listed, chart.input.fileName?.isSome = true) :
    ∃ charts, load fs path = .ok charts ∧
      List.Forall₂ (Chart.IsResolved (path.parent?.getD (Path.ofText ""))) listed charts := by
  refine ⟨_, load_of_parse hread hparse, ?_⟩
  rw [List.forall₂_map_right_iff, List.forall₂_same]
  exact fun chart hchart => Chart.isResolved_resolve _ (hnames chart hchart)

/-- A configuration of two charts, of which one has a path that ends in a dot, and the other one an
absolute path to a name that begins with a dot. -/
def mixedPaths : String :=
  "[[chart]]\ninput='r/a.b.csv/.'\nseries_out='s'\n[[chart]]\ninput='/r/.b'\n"

theorem load_resolves_mixedPaths :
    let fs : FileSystem :=
      ⟨[(["c".toList], .directory), (["c".toList, "d.toml".toList], .file mixedPaths.toUTF8)], []⟩
    ∃ listed charts, load fs ⟨"c/d.toml".toList⟩ = .ok charts ∧
      charts.map Chart.outputPath = ["c/plots/a.b.svg", "c/plots/.b.svg"].map Path.ofText ∧
      List.Forall₂ (Chart.IsResolved ⟨"c".toList⟩) listed charts := by
  intro fs
  obtain ⟨text, hread, hlisted⟩ := exists_ok_of_any (o := readText fs ⟨"c/d.toml".toList⟩)
    (p := fun text => (parse text).toOption.any (fun listed => decide
      ((∀ chart ∈ listed, chart.input.fileName?.isSome = true) ∧
        listed.map (fun chart => (chart.resolve ⟨"c".toList⟩).outputPath) =
          ["c/plots/a.b.svg", "c/plots/.b.svg"].map Path.ofText)) = true)
    (by decide +kernel)
  obtain ⟨listed, hparse, hnames, houtputs⟩ := exists_ok_of_any hlisted
  obtain ⟨charts, hload, hcharts⟩ := load_resolves hread hparse hnames
  obtain rfl := Except.ok.inj ((load_of_parse hread hparse).symm.trans hload)
  refine ⟨listed, _, hload, ?_, hcharts⟩
  rw [List.map_map]
  exact houtputs

end Configuration

end TelemetryCharts
