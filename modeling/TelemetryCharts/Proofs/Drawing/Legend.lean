import TelemetryCharts.Proofs.Session.Runs

/-!
# What is drawn and what is in the legend

A chart is drawn as one line through the moving average, one line through the failures, and a dashed
line for each marker of a tracked kind. Of the lines for a kind only the first one brings an entry to
the legend, so a kind is listed there once if it has any markers, however many it has.
-/

namespace TelemetryCharts

namespace Command

/-- What a command draws, whatever it brings to the legend. -/
inductive Shape (α : Type)
  | solid (points : List (α × α))
  | dashed (lower upper : α × α)

variable {α : Type}

/-- The shape that a command draws. -/
def shape : Command α → Shape α
  | line _ points _ => .solid points
  | dashed _ lower upper _ => .dashed lower upper

theorem legend_cons (c : Command α) (commands : List (Command α)) :
    legend (c :: commands) = (c.entry?.map fun entry => (c.stroke, entry)).toList ++ legend commands := by
  rw [legend, List.filterMap_cons]
  cases c.entry? <;> rfl

theorem legend_append (first second : List (Command α)) :
    legend (first ++ second) = legend first ++ legend second :=
  List.filterMap_append

end Command

theorem Labels.exists_marker?_of_tracked {kind : Event} (h : kind ∈ Event.tracked) (labels : Labels) :
    ∃ entry, labels.marker? kind = some entry := by
  cases kind with
  | stopProgram => exact absurd h (by decide)
  | _ => exact ⟨_, rfl⟩

namespace Series

/-- The tracked kinds of which there are markers. -/
def marked {α : Type} (s : Series α) : List Event :=
  Event.tracked.filter fun kind => s.markers.get kind ≠ []

theorem marked_subset {α : Type} (s : Series α) : s.marked ⊆ Event.tracked :=
  fun _ => List.mem_of_mem_filter

section
variable {α : Type} [Scale α] (s : Series α) (labels : Labels)

/-- A vertical line from the bottom of the chart to its top. -/
def upright (timeStep : α) : Command.Shape α :=
  .dashed (timeStep, s.valueRange.start) (timeStep, s.valueRange.stop)

/-- What is made of the lines for markers, where it does not matter which of them brings an entry. -/
theorem filterMap_markerCommands {β : Type} {f : Command α → Option β} {g : α → Option β} {kind : Event}
    (h : ∀ timeStep label?, f (.dashed kind.stroke (timeStep, s.valueRange.start)
      (timeStep, s.valueRange.stop) label?) = g timeStep) :
    (s.markerCommands labels kind).filterMap f = (s.markers.timeSteps kind).filterMap g := by
  rw [markerCommands, List.filterMap_map]
  conv_rhs => rw [← List.zipIdx_map_fst 0 (s.markers.timeSteps kind), List.filterMap_map]
  exact List.filterMap_congr fun p _ => h p.1 _

theorem shape_markerCommands (kind : Event) :
    (s.markerCommands labels kind).map Command.shape = (s.markers.timeSteps kind).map s.upright := by
  rw [← List.filterMap_eq_map, ← List.filterMap_eq_map]
  exact s.filterMap_markerCommands labels fun _ _ => rfl

/-- Of lines that are numbered from a position on, only one at position zero brings an entry. -/
theorem legend_numbered (stroke : Stroke) (label? : Option String) (timeSteps : List α) (first : Nat) :
    Command.legend ((timeSteps.zipIdx first).map fun (timeStep, i) =>
        .dashed stroke (timeStep, s.valueRange.start) (timeStep, s.valueRange.stop)
          (if i = 0 then label? else none)) =
      if first = 0 ∧ timeSteps ≠ [] then (label?.map fun entry => (stroke, entry)).toList else [] := by
  induction timeSteps generalizing first with
  | nil => simp [Command.legend]
  | cons timeStep timeSteps ih =>
    -- The positions of all later lines are greater than zero, whatever the first one is.
    rw [List.zipIdx_cons, List.map_cons, Command.legend_cons, ih (first + 1)]
    by_cases hfirst : first = 0
    · simp [hfirst, Command.entry?, Command.stroke]
    · simp [hfirst, Command.entry?]

theorem legend_markerCommands (kind : Event) :
    Command.legend (s.markerCommands labels kind) =
      if s.markers.get kind = [] then []
      else ((labels.marker? kind).map fun entry => (kind.stroke, entry)).toList := by
  rw [markerCommands, legend_numbered, Markers.timeSteps]
  by_cases hnone : s.markers.get kind = []
  · simp [hnone]
  · simp [hnone]

/-- What markers of some kinds bring to the legend. -/
theorem legend_flatMap (kinds : List Event) :
    Command.legend (kinds.flatMap (s.markerCommands labels)) =
      (kinds.filter fun kind => s.markers.get kind ≠ []).filterMap fun kind =>
        (labels.marker? kind).map fun entry => (kind.stroke, entry) := by
  induction kinds with
  | nil => rfl
  | cons kind kinds ih =>
    rw [List.flatMap_cons, Command.legend_append, ih, legend_markerCommands]
    by_cases hnone : s.markers.get kind = []
    · simp [hnone]
    · cases hentry : labels.marker? kind <;> simp [hnone, hentry]

theorem map_shape_commands :
    (s.commands labels).map Command.shape =
      .solid s.average.points :: .solid s.failurePoints ::
        Event.tracked.flatMap fun kind => (s.markers.timeSteps kind).map s.upright := by
  simp only [commands, List.map_append, List.map_flatMap, shape_markerCommands]
  rfl

theorem legend_commands :
    Command.legend (s.commands labels) =
      (⟨.success, 10, 3⟩, labels.successful) :: (⟨.failure, 10, 3⟩, labels.unsuccessful) ::
        s.marked.filterMap fun kind => (labels.marker? kind).map fun entry => (kind.stroke, entry) := by
  rw [commands, Command.legend_append, legend_flatMap]
  rfl

theorem map_filterMap_marker? {kinds : List Event} (h : kinds ⊆ Event.tracked) :
    (kinds.filterMap fun kind => (labels.marker? kind).map fun entry => (kind.stroke, entry)).map
        (fun entry => some entry.2) = kinds.map labels.marker? := by
  induction kinds with
  | nil => rfl
  | cons kind kinds ih =>
    obtain ⟨hkind, hkinds⟩ := List.cons_subset.1 h
    obtain ⟨entry, hentry⟩ := labels.exists_marker?_of_tracked hkind
    simp [hentry, ih hkinds]

/-- The legend lists the successes, the failures and the tracked kinds of which there are markers. -/
theorem texts_legend :
    (Command.legend (s.commands labels)).map (fun entry => some entry.2) =
      some labels.successful :: some labels.unsuccessful :: s.marked.map labels.marker? := by
  rw [legend_commands, List.map_cons, List.map_cons, map_filterMap_marker? labels s.marked_subset]

/-- Only the markers of tracked kinds matter for what is drawn. -/
theorem commands_congr {markers : Markers α}
    (h : ∀ kind ∈ Event.tracked, markers.get kind = s.markers.get kind) :
    { s with markers }.commands labels = s.commands labels := by
  have hkinds : ∀ kind ∈ Event.tracked,
      { s with markers }.markerCommands labels kind = s.markerCommands labels kind := by
    intro kind hkind
    simp only [markerCommands, Markers.timeSteps, h kind hkind]
    rfl
  rw [commands, commands, List.flatMap_congr hkinds]
  rfl

end

/-- Without fonts a file holds the text of a picture if it holds any. -/
theorem eq_of_picture?_fontless {s : Series Float} {chart : Chart} {p : Path} {content : ByteArray}
    (h : @picture? Painter.fontless s chart p = some content) :
    content = (Svg.render (Picture.ofSeries s chart)).toUTF8 := by
  obtain ⟨format, -, hpaint⟩ := Option.bind_eq_some_iff.1 h
  cases format with
  | svg => exact (Option.some.inj hpaint).symm
  | png => cases hpaint

end Series

namespace Picture

variable (s : Series Float) (chart : Chart)

/-- The pixel of a point in the picture of a series. -/
def pixelOf (p : Float × Float) : Pixel :=
  (ofSeries s chart).area.pixel s.timeRange s.valueRange p

/-- The ends of the dashed line at a time step, in the picture of a series. -/
def uprightPixels (timeStep : Float) : List Pixel :=
  let area := (ofSeries s chart).area
  let column := PlotArea.place s.timeRange area.left area.right timeStep
  [(column, area.bottom), (column, area.dashEnd)]

/-- The lines without dashes go through the moving average and through the failures, as far as these
have points. -/
theorem points_lines :
    (ofSeries s chart).lines.map PictureLine.points =
      ([s.average.points, s.failurePoints].filter (· ≠ [])).map (List.map (pixelOf s chart)) := by
  have hkind : ∀ kind, (s.markerCommands chart.labels kind).filterMap (line? (pixelOf s chart)) =
      (s.markers.timeSteps kind).filterMap fun _ => none :=
    fun kind => s.filterMap_markerCommands chart.labels fun _ _ => rfl
  show ((s.commands chart.labels).filterMap (line? (pixelOf s chart))).map _ = _
  rw [Series.commands, List.filterMap_append, List.filterMap_flatMap]
  simp only [hkind, List.filterMap_none]
  by_cases haverage : s.average.points = []
  · by_cases hfailures : s.failurePoints = [] <;> simp [line?, haverage, hfailures]
  · by_cases hfailures : s.failurePoints = [] <;> simp [line?, haverage, hfailures]

/-- There is a dashed line for each marker of a tracked kind. -/
theorem points_dashedLines :
    (ofSeries s chart).dashedLines.map PictureLine.points =
      Event.tracked.flatMap fun kind => (s.markers.timeSteps kind).map (uprightPixels s chart) := by
  have hkind : ∀ kind, ((s.markerCommands chart.labels kind).filterMap
      (dashedLine? (ofSeries s chart).area (pixelOf s chart))).map PictureLine.points =
        (s.markers.timeSteps kind).map (uprightPixels s chart) := by
    intro kind
    rw [List.map_filterMap, ← List.filterMap_eq_map]
    exact s.filterMap_markerCommands chart.labels fun _ _ => rfl
  show ((s.commands chart.labels).filterMap
    (dashedLine? (ofSeries s chart).area (pixelOf s chart))).map _ = _
  rw [Series.commands, List.filterMap_append, List.filterMap_flatMap, List.map_append, List.map_flatMap]
  exact List.flatMap_congr fun kind _ => hkind kind

end Picture

/-- Whatever the series and the chart, what is drawn is a line through the moving average, a line through
the failures, and a vertical dashed line for each marker of a tracked kind. Markers of other kinds do
not matter. The legend lists the successes, the failures, and once each tracked kind of which there are
markers. Where drawing succeeds, this is what the file holds a picture of. -/
theorem Series.drawn_with_legend (s : Series Float) (chart : Chart) :
    (s.commands chart.labels).map Command.shape =
        .solid s.average.points :: .solid s.failurePoints ::
          Event.tracked.flatMap (fun kind => (s.markers.timeSteps kind).map s.upright) ∧
      (Command.legend (s.commands chart.labels)).map (fun entry => some entry.2) =
        some chart.labels.successful :: some chart.labels.unsuccessful ::
          s.marked.map chart.labels.marker? ∧
      (∀ markers : Markers Float, (∀ kind ∈ Event.tracked, markers.get kind = s.markers.get kind) →
        { s with markers }.commands chart.labels = s.commands chart.labels) ∧
      ∀ (p : Path) (fs after : FileSystem), (s.render chart p).run fs = (.ok (), after) →
        ∃ picture : Picture, after.read p = .ok (Svg.render picture).toUTF8 ∧
          picture.lines.map PictureLine.points =
            ([s.average.points, s.failurePoints].filter (· ≠ [])).map
              (List.map (Picture.pixelOf s chart)) ∧
          picture.dashedLines.map PictureLine.points =
            Event.tracked.flatMap (fun kind =>
              (s.markers.timeSteps kind).map (Picture.uprightPixels s chart)) ∧
          picture.legend = Command.legend (s.commands chart.labels) := by
  refine ⟨s.map_shape_commands chart.labels, s.texts_legend chart.labels,
    fun markers h => s.commands_congr chart.labels h, fun p fs after hrender => ?_⟩
  obtain ⟨content, hpicture, hread⟩ := s.read_of_render hrender
  rw [eq_of_picture?_fontless hpicture] at hread
  exact ⟨Picture.ofSeries s chart, hread, Picture.points_lines s chart,
    Picture.points_dashedLines s chart, rfl⟩

/-- A series without points in its moving average, in which one tracked kind has two markers, one has no
entry, and the end of the run has a marker. -/
def restarted : Series Float where
  window := 5
  timeSteps := [1, 2, 3]
  average := ⟨[], []⟩
  failureTotal := [4, 0, 7]
  markers := ⟨fun
    | .startServer => some [⟨0, 1⟩, ⟨2, 3⟩]
    | .stopServer => none
    | .startClient => some [⟨1, 2⟩]
    | .stopProgram => some [⟨2, 3⟩]⟩

/-- A working directory with nothing in it. -/
def emptyHome : FileSystem :=
  ⟨[(["home".toList], .directory)], ["home".toList]⟩

theorem drawn_restarted :
    restarted.marked = [.startServer, .startClient] ∧
      ∃ after, (restarted.render (.new ⟨[]⟩) ⟨"run.svg".toList⟩).run emptyHome = (.ok (), after) ∧
        ∃ picture : Picture, after.read ⟨"run.svg".toList⟩ = .ok (Svg.render picture).toUTF8 ∧
          picture.dashedLines.length = 3 ∧ picture.legend.map Prod.snd =
            ["Successful ops.", "Unsuccessful ops.", "Server start", "Client start"] := by
  have hsucceeds : Outcome.isOk
      ((restarted.render (.new ⟨[]⟩) ⟨"run.svg".toList⟩).run emptyHome).1 = true := by
    decide +kernel
  obtain ⟨-, htexts, -, hdrawn⟩ := restarted.drawn_with_legend (.new ⟨[]⟩)
  cases hrun : (restarted.render (.new ⟨[]⟩) ⟨"run.svg".toList⟩).run emptyHome with
  | mk result after =>
    rw [hrun] at hsucceeds
    cases result with
    | error stop => cases hsucceeds
    | ok x =>
      obtain ⟨picture, hread, -, hdashes, hlegend⟩ := hdrawn _ _ after hrun
      have hlength := congrArg List.length hdashes
      rw [List.length_map] at hlength
      refine ⟨by decide, after, rfl, picture, hread, hlength, ?_⟩
      apply List.map_injective_iff.2 (fun _ _ => Option.some.inj)
      rw [List.map_map, hlegend]
      exact htexts

end TelemetryCharts
