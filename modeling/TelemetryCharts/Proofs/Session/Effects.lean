import TelemetryCharts.Proofs.Series.Export
import TelemetryCharts.Proofs.Series.Outcomes
import TelemetryCharts.Proofs.Session.Accounts
import TelemetryCharts.Proofs.Session.Runs

/-!
# Effects of charts

A chart whose format, table or window is wrong changes nothing at all. A chart that is made changes
the files that it writes, and nothing else but that directories above them may be new.
-/

namespace TelemetryCharts

open FileSystem

namespace Format

/-- Says that charts are drawn to files with the extension of a path, in whatever case it is
written. -/
def Supports (p : Path) : Prop :=
  ∃ extension ∈ p.extension?, extension.map Char.toLower ∈ ["svg".toList, "png".toList]

instance (p : Path) : Decidable (Supports p) :=
  inferInstanceAs (Decidable (∃ extension ∈ p.extension?, _))

theorem ofPath_cases (p : Path) :
    (Supports p ∧ ∃ format, ofPath p = .ok format) ∨
      ¬ Supports p ∧ ofPath p = fail (.unsupportedFormat p (extension? p)) := by
  rw [ofPath]
  have hsupports : Supports p ↔ extension? p = some "svg" ∨ extension? p = some "png" := by
    rw [Supports, extension?]
    cases p.extension? with
    | none => simp
    | some extension => simp [← String.toList_inj]
  rw [hsupports]
  split
  · next hsvg => exact .inl ⟨.inl hsvg, _, rfl⟩
  · next hpng => exact .inl ⟨.inr hpng, _, rfl⟩
  · next hsvg hpng => exact .inr ⟨fun h => h.elim hsvg hpng, rfl⟩

end Format

namespace FileSystem

/-- The places to which paths lead, as far as there is a file or a free name. -/
def placesOf (fs : FileSystem) (paths : List Path) : List Location :=
  paths.filterMap fun p => (placeOf (fs.find p)).toOption

theorem mem_placesOf {fs : FileSystem} {paths : List Path} {location : Location} :
    location ∈ fs.placesOf paths ↔ ∃ p ∈ paths, placeOf (fs.find p) = .ok location := by
  rw [placesOf, List.mem_filterMap]
  apply exists_congr
  intro p
  apply and_congr_right
  intro _
  cases placeOf (fs.find p) <;> simp [Except.toOption]

theorem singleton_subset_placesOf {fs : FileSystem} {paths : List Path} {p : Path} {location : Location}
    (hp : p ∈ paths) (hplace : placeOf (fs.find p) = .ok location) : [location] ⊆ fs.placesOf paths :=
  List.cons_subset.2 ⟨mem_placesOf.2 ⟨p, hp, hplace⟩, List.nil_subset _⟩

end FileSystem

namespace Chart

variable {fs after : FileSystem} {chart : Chart} {s : Series Float}

/-- Says that a chart has been made: the files that were there give its series, the picture and the
export of the series are where the chart has them written, and everything else is as it was but for
new directories above these two files. An export that leads to the file of the picture is lost. -/
structure Made [Painter] (chart : Chart) (s : Series Float) (before after : FileSystem) : Prop where
  derived : chart.derive before = .ok s
  drawn : ∃ content, s.picture? chart chart.outputPath = some content ∧
    after.read chart.outputPath = .ok content
  exported : ∀ p ∈ chart.seriesOut, ¬ SameFile after p chart.outputPath →
    ∃ content, after.read p = .ok content ∧ s.IsExport content
  effects : ChangesOnly (after.placesOf chart.writtenPaths) (chart.trail before.workingDirectory)
    before after

theorem derive_of_load_error {stop : Stop}
    (hload : Frame.load fs chart.input chart.truncate = .error stop) :
    chart.derive fs = .error (stop.within "Load telemetry table") := by
  rw [derive, hload]
  rfl

theorem derive_of_series_error {frame : Frame} {stop : Stop}
    (hload : Frame.load fs chart.input chart.truncate = .ok frame)
    (hseries : frame.series chart.window = .error stop) :
    chart.derive fs = .error (stop.within "Transform telemetry series") := by
  rw [derive, hload]
  show (frame.series chart.window).within _ = _
  rw [hseries]
  rfl

section
variable [Painter]

/-- A picture is drawn after the export, so the export is still there unless the picture has taken
its place. -/
theorem made_of_exported {exported : FileSystem} {location : Location}
    {content : ByteArray} (hderive : chart.derive fs = .ok s)
    (hexported : chart.Exported s fs exported)
    (hcontent : s.picture? chart chart.outputPath = some content)
    (hdrawn : Deposits chart.outputPath content location exported after) :
    chart.Made s fs after := by
  have houtput := chart.trail_subset fs.workingDirectory chart.outputPath_mem_writtenPaths
  have hplace := singleton_subset_placesOf chart.outputPath_mem_writtenPaths hdrawn.placeOf_eq
  have hpicture := hdrawn.changes
  cases hexported with
  | nothing hpath =>
    refine ⟨hderive, ⟨content, hcontent, hdrawn.read⟩, by simp [hpath], ?_⟩
    exact hpicture.mono hplace houtput
  | @file p target exported hpath hexport =>
    have hmem := mem_writtenPaths_of_seriesOut hpath
    rw [hexport.changes.workingDirectory] at hpicture
    -- The place of the export is that of the picture, or the export is still there.
    have htarget : after.node? target ≠ some .directory := by
      by_cases heq : target = location
      · rw [heq, hdrawn.node]
        exact nofun
      · rw [hexport.node_later hpicture (by simpa using heq)]
        exact nofun
    have hlater := hexport.placeOf_later hpicture htarget
    refine ⟨hderive, ⟨content, hcontent, hdrawn.read⟩, fun q hq hdifferent => ?_, ?_⟩
    · obtain rfl : p = q := Option.some.inj (hpath.symm.trans hq)
      refine ⟨_, hexport.read_later hpicture ?_, s.isExport_exportText⟩
      rw [List.mem_singleton]
      rintro rfl
      exact hdifferent ⟨target, hlater, hdrawn.placeOf_eq⟩
    · have hexported := singleton_subset_placesOf hmem hlater
      exact (hexport.changes.mono hexported (chart.trail_subset _ hmem)).trans
        (hpicture.mono hplace houtput)

/-- A chart that succeeds has been made. -/
theorem made_of_execute (hrun : (chart.execute).run fs = (.ok s, after)) : chart.Made s fs after := by
  cases execution_of_execute hrun with
  | drawn hderive hexported hcontent hdrawn =>
    exact made_of_exported hderive hexported hcontent hdrawn

/-- The format, the table and the window of a chart are checked in this order, and nothing changes if
one of them is wrong. A chart that succeeds answers with the series that is derived from the files
that were there, and it changes nothing but the files that it is to write. All this is so whatever the
painter is. -/
theorem execute_stages (fs : FileSystem) (chart : Chart) :
    (¬ Format.Supports chart.outputPath → (chart.execute).run fs =
      (fail (.unsupportedFormat chart.outputPath (Format.extension? chart.outputPath)), fs)) ∧
    (Format.Supports chart.outputPath →
      (∀ stop, Frame.load fs chart.input chart.truncate = .error stop →
        (chart.execute).run fs = (.error (stop.within "Load telemetry table"), fs)) ∧
      ∀ frame stop, Frame.load fs chart.input chart.truncate = .ok frame →
        frame.series chart.window = .error stop →
        (chart.execute).run fs = (.error (stop.within "Transform telemetry series"), fs)) ∧
    ∀ s after, (chart.execute).run fs = (.ok s, after) → chart.Made s fs after := by
  refine ⟨fun hformat => ?_, fun hformat => ?_, fun s after => made_of_execute⟩
  · obtain ⟨hsupports, -⟩ | ⟨-, hfails⟩ := Format.ofPath_cases chart.outputPath
    · exact absurd hsupports hformat
    · rw [execute_run, hfails]
      rfl
  · obtain ⟨-, format, hok⟩ | ⟨hfails, -⟩ := Format.ofPath_cases chart.outputPath
    · refine ⟨fun stop hload => ?_, fun frame stop hload hseries => ?_⟩
      · rw [execute_run, hok, derive_of_load_error hload]
      · rw [execute_run, hok, derive_of_series_error hload hseries]
    · exact absurd hformat hfails

end

end Chart

/-- The lines of the export of the series of the table with one record. -/
def shortExport : List String :=
  ["\x7b", "  \"window\": 1,", "  \"time_steps\": [", "    0.0", "  ],",
    "  \"moving_average\": \x7b", "    \"time_steps\": [", "      0.0", "    ],",
    "    \"values\": [", "      3.0", "    ]", "  \x7d,", "  \"failure_total\": [", "    1", "  ],",
    "  \"event_markers\": \x7b", "    \"START_SERVER\": [", "      \x7b", "        \"row\": 0,",
    "        \"time_step\": 0.0", "      \x7d", "    ],", "    \"STOP_SERVER\": [],",
    "    \"START_CLIENT\": []", "  \x7d", "\x7d"]

section
attribute [local instance] Painter.ofNames

/-- One chart for each stage that can go wrong, and one that is made as a bitmap. -/
theorem execute_stages_halfEmpty :
    let document := { missingChart with output := some ⟨"Run.PDF".toList⟩ }
    let windowless := { thereChart with window := 0 }
    let bitmap := { thereChart with output := some ⟨"there.PNG".toList⟩ }
    (document.execute).run halfEmpty =
        (fail (.unsupportedFormat ⟨"Run.PDF".toList⟩ (some "pdf")), halfEmpty) ∧
      (missingChart.execute).run halfEmpty =
        (.error ((Stop.ofCause (.tableNotFound missingChart.input)).within "Load telemetry table"),
          halfEmpty) ∧
      (windowless.execute).run halfEmpty =
        (.error ((Stop.ofCause .windowOfZero).within "Transform telemetry series"), halfEmpty) ∧
      ∃ s after, (bitmap.execute).run halfEmpty = (.ok s, after) ∧ bitmap.Made s halfEmpty after ∧
        after.read ⟨"there.PNG".toList⟩ = .ok "Png".toUTF8 ∧
        after.read ⟨"plots/json/there".toList⟩ = .ok ("\n".intercalate shortExport).toUTF8 := by
  intro document windowless bitmap
  refine ⟨(Chart.execute_stages halfEmpty document).1 (by decide), ?_, ?_, ?_⟩
  · have hload : Frame.load halfEmpty missingChart.input none =
        .error (.ofCause (.tableNotFound missingChart.input)) := by
      rw [Frame.load]
      rfl
    exact ((Chart.execute_stages halfEmpty missingChart).2.1 (by decide)).1 _ hload
  · have hpresent : Outcome.isOk (Frame.load halfEmpty windowless.input none) = true := by
      decide +kernel
    cases hload : Frame.load halfEmpty windowless.input none with
    | error stop =>
      rw [hload] at hpresent
      cases hpresent
    | ok frame =>
      exact ((Chart.execute_stages halfEmpty windowless).2.1 (by decide)).2 frame _ hload rfl
  · obtain ⟨hsucceeds, hapart⟩ : Outcome.isOk ((bitmap.execute).run halfEmpty).1 = true ∧
        placeOf (((bitmap.execute).run halfEmpty).2.find ⟨"there.PNG".toList⟩) ≠
          placeOf (((bitmap.execute).run halfEmpty).2.find ⟨"plots/json/there".toList⟩) := by
      decide +kernel
    obtain ⟨t, hderive, hlines⟩ := exists_ok_of_any (o := bitmap.derive halfEmpty)
      (p := fun t => t.toJson.render .pretty 0 = ['\n'].intercalate (shortExport.map String.toList))
      (by decide +kernel)
    have htext : t.toJson.print .pretty = "\n".intercalate shortExport := by
      rwa [← String.toList_inj, String.toList_intercalate, Json.Value.print, String.toList_ofList]
    obtain ⟨s, hrun⟩ := Chart.execute_eq_ok hsucceeds
    have hmade := (Chart.execute_stages halfEmpty bitmap).2.2 s _ hrun
    obtain rfl : t = s := Except.ok.inj (hderive.symm.trans hmade.derived)
    obtain ⟨content, hpicture, hdrawn⟩ := hmade.drawn
    obtain rfl : "Png".toUTF8 = content := Option.some.inj hpicture
    obtain ⟨content, hread, hexport⟩ := hmade.exported _ rfl (by
      rintro ⟨_, hexport, hpicture⟩
      exact hapart (hpicture.trans hexport.symm))
    refine ⟨t, _, hrun, hmade, hdrawn, ?_⟩
    rw [← htext, ← hexport.content_eq]
    exact hread

end

end TelemetryCharts
