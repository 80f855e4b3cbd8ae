import TelemetryCharts.Proofs.Chart.Resolution
import TelemetryCharts.Proofs.Session.Runs

/-!
# Pictures without a given place

A chart whose output is not given is drawn to a file with a name and the extension of an svg picture,
whatever the path of its table is. So its format is never what it fails for.
-/

namespace TelemetryCharts

namespace Path

/-- A name is cut at its last dot. -/
theorem cutName_append {stem extension : List Char} (hstem : stem ≠ [])
    (hdot : '.' ∉ extension) : cutName (stem ++ '.' :: extension) = (stem, some extension) := by
  have hreverse : (stem ++ '.' :: extension).reverse = extension.reverse ++ '.' :: stem.reverse := by
    simp
  have hplain : ∀ c ∈ extension.reverse, (decide (c ≠ '.')) = true := by
    intro c hc
    rw [decide_eq_true_eq]
    rintro rfl
    exact hdot (List.mem_reverse.1 hc)
  have hafter : (extension.reverse ++ '.' :: stem.reverse).takeWhile (· ≠ '.') =
      extension.reverse := by
    rw [List.takeWhile_append_of_pos hplain]
    simp
  have hbefore : (extension.reverse ++ '.' :: stem.reverse).dropWhile (· ≠ '.') =
      '.' :: stem.reverse := by
    rw [List.dropWhile_append_of_pos hplain]
    simp
  rw [cutName, hreverse, hafter, hbefore]
  simp [hstem]

/-- A dot at the start of a name belongs to its stem, so something is left when the extension has been
cut off. -/
theorem cutName_fst_ne_nil {name : List Char} (hname : name ≠ []) : (cutName name).1 ≠ [] := by
  rw [cutName]
  split
  · exact hname
  · next hbefore => exact hbefore

theorem fileName?_ne_nil {p : Path} {name : List Char} (h : p.fileName? = some name) :
    name ≠ [] := by
  obtain ⟨first, rest, hsegments⟩ := exists_segments p
  rw [fileName?, hsegments] at h
  dsimp only at h
  split at h
  · cases h
  · next hlast =>
    cases h
    intro hnil
    exact hlast (by rw [hnil]; rfl)

/-- A name alone is a path whose last name it is, unless it leads nowhere or upwards. -/
theorem fileName?_of_notMem {name : List Char} (hslash : '/' ∉ name) (hidle : isIdle name = false)
    (hparent : name ≠ ['.', '.']) : fileName? ⟨name⟩ = some name := by
  rw [fileName?, segments, split_of_notMem hslash]
  simp [dropIdle, hidle, hparent]

/-- Says that a path leads to a file that is named as an svg picture: with a stem that is not empty. -/
structure NamesSvg (p : Path) : Prop where
  fileName : ∃ stem, stem ≠ [] ∧ p.fileName? = some (stem ++ ".svg".toList)
  format : Format.ofPath p = .ok .svg

theorem namesSvg_append (front : List Char) {stem : List Char} (hstem : stem ≠ [])
    (hslash : '/' ∉ stem) : NamesSvg ⟨front ++ '/' :: (stem ++ ".svg".toList)⟩ := by
  have hcut : cutName (stem ++ ".svg".toList) = (stem, some "svg".toList) :=
    cutName_append hstem (by decide)
  have hlast : (stem ++ ".svg".toList).getLast? = some 'g' := by
    rw [List.getLast?_append]
    rfl
  have hidle : isIdle (stem ++ ".svg".toList) = false := by
    rw [← Bool.not_eq_true, isIdle, Bool.or_eq_true, decide_eq_true_eq, decide_eq_true_eq]
    rintro (hnil | hdot)
    · rw [hnil] at hlast
      cases hlast
    · rw [hdot] at hlast
      exact absurd hlast (by decide)
  have hparent : stem ++ ".svg".toList ≠ ['.', '.'] := by
    intro heq
    rw [heq] at hlast
    exact absurd hlast (by decide)
  have hname : fileName? ⟨front ++ '/' :: (stem ++ ".svg".toList)⟩ =
      some (stem ++ ".svg".toList) :=
    fileName?_append front (fileName?_of_notMem (by simp [hslash]) hidle hparent)
  refine ⟨⟨stem, hstem, hname⟩, ?_⟩
  have hextension : Format.extension? ⟨front ++ '/' :: (stem ++ ".svg".toList)⟩ = some "svg" := by
    rw [Format.extension?, extension?, hname, Option.bind_some, hcut]
    rfl
  rw [Format.ofPath, hextension]
  rfl

end Path

/-- Says that a stop is the failure of a format that is not supported. -/
def Stop.IsUnsupported : Stop → Prop
  | .failure f => ∃ path extension, f.cause = .unsupportedFormat path extension
  | .overflow => False

theorem Stop.isUnsupported_within {context : String} {stop : Stop} :
    (stop.within context).IsUnsupported ↔ stop.IsUnsupported := by
  cases stop <;> rfl

/-- Says that a format that is not supported is not what an outcome fails for. -/
def Outcome.Supported {α : Type} (o : Outcome α) : Prop :=
  ∀ stop, o = .error stop → ¬ stop.IsUnsupported

namespace Outcome.Supported

variable {α β : Type} {o : Outcome α}

theorem ok (x : α) : Supported (.ok x) :=
  nofun

theorem fail (cause : Cause) (h : ∀ path extension, cause ≠ .unsupportedFormat path extension) :
    Supported (fail cause : Outcome α) := by
  rintro stop ⟨⟩ ⟨path, extension, hcause⟩
  exact h path extension hcause

theorem within (h : o.Supported) (context : String) : (o.within context).Supported := by
  cases o with
  | ok x => exact ok x
  | error stop =>
    rintro _ ⟨⟩
    rw [Stop.isUnsupported_within]
    exact h stop rfl

theorem bind (h : o.Supported) {f : α → Outcome β} (hf : ∀ x, o = .ok x → (f x).Supported) :
    (o >>= f).Supported := by
  cases o with
  | ok x => exact hf x rfl
  | error stop =>
    rintro _ ⟨⟩
    exact h stop rfl

end Outcome.Supported

namespace Frame

/-- A series fails for its window or for what is missing in its table, or else its failures cannot be
counted. -/
theorem IsTyped.supported_series {frame : Frame} {cells : TypedCells} (h : frame.IsTyped cells)
    (window : Nat) : (frame.series window).Supported := by
  by_cases hwindow : 1 ≤ window
  · by_cases htimeSteps : none ∈ cells.timeSteps
    · rw [h.series_of_no_timeStep hwindow htimeSteps]
      exact .fail _ nofun
    by_cases htotalSucc : none ∈ cells.totalSucc
    · rw [h.series_of_no_totalSucc hwindow htimeSteps htotalSucc]
      exact .fail _ nofun
    by_cases hlarge : ∃ total ∈ cells.failures, 2 ^ 64 ≤ total
    · rw [h.series_of_overflow hwindow htimeSteps htotalSucc hlarge]
      rintro stop ⟨⟩ ⟨⟩
    · obtain ⟨s, hs⟩ := h.exists_series hwindow htimeSteps htotalSucc fun total htotal =>
        Nat.not_le.1 fun hle => hlarge ⟨total, htotal, hle⟩
      rw [hs]
      exact .ok s
  · obtain rfl : window = 0 := by omega
    exact Outcome.Supported.fail .windowOfZero nofun

theorem supported_load (fs : FileSystem) (path : Path) (truncate : Option Nat) :
    (load fs path truncate).Supported := by
  cases hcontent : fs.read path with
  | error e =>
    rw [load_of_read_error hcontent]
    exact .fail _ nofun
  | ok content =>
    rw [load_of_read hcontent]
    cases Table.read content.toList with
    | error e => exact (Outcome.Supported.fail (.table e) nofun).within _
    | ok frame =>
      dsimp only
      split
      · exact .ok _
      · exact .fail _ nofun

end Frame

/-- Says that a format that is not supported is not what a run fails for, whatever files there are. -/
def Run.Supported {α : Type} (run : Run α) : Prop :=
  ∀ fs, Outcome.Supported (run.run fs).1

namespace Run.Supported

variable {α β : Type} {run : Run α}

theorem ofOutcome {o : Outcome α} (h : o.Supported) : (Run.ofOutcome o).Supported :=
  fun _ => h

theorem ofFileAction (action : FileAction α) : (Run.ofFileAction action).Supported := by
  intro fs
  rw [Run.ofFileAction_run]
  cases (action.run fs).1 with
  | ok x => exact .ok x
  | error e => exact Outcome.Supported.fail (.file e) nofun

theorem within (h : run.Supported) (context : String) : (run.within context).Supported := by
  intro fs
  rw [Run.within_run]
  exact (h fs).within context

theorem bind (h : run.Supported) {f : α → Run β} (hf : ∀ x, (f x).Supported) :
    (run >>= f).Supported := by
  intro fs
  have hfirst := h fs
  rw [Action.run_bind]
  cases hrun : run.run fs with
  | mk r after =>
    rw [hrun] at hfirst
    cases r with
    | ok x => exact hf x after
    | error stop =>
      rintro _ ⟨⟩
      exact hfirst stop rfl

end Run.Supported

namespace Chart

open Outcome

theorem supported_derive (chart : Chart) (fs : FileSystem) : (chart.derive fs).Supported := by
  have hload := Frame.supported_load fs chart.input chart.truncate
  refine (hload.within _).bind fun frame hframe => ?_
  obtain ⟨cells, hcells⟩ := Frame.exists_isTyped (Outcome.within_eq_ok_iff.1 hframe)
  exact (hcells.supported_series chart.window).within _

theorem supported_exportSeries (chart : Chart) (s : Series Float) :
    (chart.exportSeries s).Supported := by
  rw [exportSeries]
  split
  · exact (Run.Supported.ofFileAction _).within _
  · exact fun fs => .ok ()

section
variable [Painter]

theorem supported_render {p : Path} {format : Format} (hformat : Format.ofPath p = .ok format)
    (s : Series Float) (chart : Chart) : (s.render chart p).Supported := by
  have hdraw : (s.draw chart format p).Supported := by
    intro fs
    rcases s.draw_cases chart format p fs with ⟨content, after, hdrawn, -⟩ | hfails
    · rw [hdrawn]
      exact .ok ()
    · rw [hfails]
      exact Supported.fail .drawing nofun
  have hfiles := (Run.Supported.ofFileAction (FileSystem.createParents p)).bind fun _ => hdraw
  intro fs
  rw [Series.render, Action.run_bind, Run.ofOutcome_run, hformat]
  exact hfiles fs

/-- A chart whose format is supported does not fail for its format. -/
theorem supported_execute {chart : Chart} {format : Format}
    (hformat : Format.ofPath chart.outputPath = .ok format) : chart.execute.Supported := by
  have hstages : ∀ o : Outcome (Series Float), o.Supported → (do
      let s ← Run.ofOutcome o
      chart.exportSeries s
      (s.render chart chart.outputPath).within
        s!"Render chart to {Text.quoted chart.outputPath.text}"
      return s : Run (Series Float)).Supported := by
    intro o ho
    refine (Run.Supported.ofOutcome ho).bind fun s => ?_
    refine (chart.supported_exportSeries s).bind fun _ => ?_
    exact ((supported_render hformat s chart).within _).bind fun _ _ => .ok s
  intro fs
  rw [execute, Action.run_bind, Run.ofOutcome_run, hformat]
  exact hstages _ (chart.supported_derive fs) fs

end

theorem stemOf_ne_nil (input : Path) : stemOf input ≠ [] := by
  rw [stemOf]
  cases hname : input.fileName? with
  | none =>
    rw [Path.stem?, hname]
    decide
  | some name =>
    rw [Path.stem?, hname]
    exact Path.cutName_fst_ne_nil (Path.fileName?_ne_nil hname)

theorem namesSvg_defaultOutput (input : Path) : (defaultOutput input).NamesSvg := by
  rw [defaultOutput_eq]
  exact Path.namesSvg_append _ (stemOf_ne_nil input) (slash_notMem_stemOf input)

/-- Says that a chart is drawn to a file that is named as an svg picture, so that it never fails for
its format, whatever the painter is. -/
structure IsDrawable (chart : Chart) : Prop where
  outputPath : chart.outputPath.NamesSvg
  supported : ∀ [Painter], chart.execute.Supported

theorem isDrawable_of_namesSvg {chart : Chart} (h : chart.outputPath.NamesSvg) : chart.IsDrawable :=
  ⟨h, supported_execute h.format⟩

/-- Whatever path its table has, a chart whose output is not given can be drawn as it is, and also with
its paths taken as relative to any directory, as it comes out of a configuration file. -/
theorem isDrawable_of_open :
    (∀ chart : Chart, chart.output = none →
      chart.IsDrawable ∧ ∀ base, (chart.resolve base).IsDrawable) ∧
    ∀ fs path text listed, Configuration.readText fs path = .ok text →
      Configuration.parse text = .ok listed →
        ∃ charts, Configuration.load fs path = .ok charts ∧
          List.Forall₂ (fun chart loaded => chart.output = none → loaded.IsDrawable)
            listed charts := by
  have hresolved : ∀ (base : Path) (chart : Chart), chart.output = none →
      (chart.resolve base).IsDrawable := by
    intro base chart hopen
    apply isDrawable_of_namesSvg
    rw [outputPath_resolve base hopen]
    exact Path.namesSvg_append _ (stemOf_ne_nil _) (slash_notMem_stemOf _)
  refine ⟨fun chart hopen => ⟨isDrawable_of_namesSvg ?_, fun base => hresolved base chart hopen⟩, ?_⟩
  · rw [outputPath, hopen]
    exact namesSvg_defaultOutput chart.input
  · intro fs path text listed hread hparse
    refine ⟨_, Configuration.load_of_parse hread hparse, ?_⟩
    rw [List.forall₂_map_right_iff, List.forall₂_same]
    exact fun chart _ => hresolved _ chart

/-- A configuration of charts of a path without a name, of an empty path and of a name that begins and
ends with dots. -/
def namelessInputs : String :=
  "[[chart]]\ninput='..'\n[[chart]]\ninput=''\n[[chart]]\ninput='/r/..x.'\n"

theorem isDrawable_namelessInputs :
    let fs : FileSystem :=
      ⟨[(["c".toList], .directory), (["c".toList, "d.toml".toList], .file namelessInputs.toUTF8)], []⟩
    (new ⟨"..".toList⟩).IsDrawable ∧
      ∃ charts, Configuration.load fs ⟨"c/d.toml".toList⟩ = .ok charts ∧
        charts.map outputPath =
          ["c/plots/chart.svg", "c/plots/c.svg", "c/plots/..x.svg"].map Path.ofText ∧
        ∀ loaded ∈ charts, loaded.IsDrawable := by
  intro fs
  obtain ⟨text, hread, hlisted⟩ :=
    exists_ok_of_any (o := Configuration.readText fs ⟨"c/d.toml".toList⟩)
      (p := fun text => (Configuration.parse text).toOption.any (fun listed => decide
        ((∀ chart ∈ listed, chart.output = none) ∧
          listed.map (fun chart => (chart.resolve ⟨"c".toList⟩).outputPath) =
            ["c/plots/chart.svg", "c/plots/c.svg", "c/plots/..x.svg"].map Path.ofText)) = true)
      (by decide +kernel)
  obtain ⟨listed, hparse, hopen, houtputs⟩ := exists_ok_of_any hlisted
  obtain ⟨charts, hload, hcharts⟩ := isDrawable_of_open.2 fs _ text listed hread hparse
  refine ⟨(isDrawable_of_open.1 (new ⟨"..".toList⟩) rfl).1, charts, hload, ?_, fun loaded hmem => ?_⟩
  · obtain rfl := Except.ok.inj ((Configuration.load_of_parse hread hparse).symm.trans hload)
    rw [List.map_map]
    exact houtputs
  · obtain ⟨i, hi, rfl⟩ := List.getElem_of_mem hmem
    have hi' : i < listed.length := hcharts.length_eq ▸ hi
    exact hcharts.get hi' hi (hopen _ (List.getElem_mem hi'))

end Chart

end TelemetryCharts
