import TelemetryCharts.Proofs.Session.Independence

/-!
# Accounts of sessions

A session of independent charts leaves the files that its charts leave alone and reports how many of
them fail alone. It does so whatever the order of its charts.
-/

namespace TelemetryCharts

open FileSystem

/-- How many of some charts fail when each of them is made alone. -/
def failuresAlone [Painter] (fs : FileSystem) (charts : List Chart) : Nat :=
  failureCount (charts.map fun chart => (chart.alone fs).1)

namespace Session

/-- What is said about a number of failures. -/
def report (failed total : Nat) : String :=
  s!"{shown failed} out of {shown total} charts failed:"

/-- Says that a session has reported a number of failures if there were any: as a warning if they
are to be ignored, and else as the failure of the session. -/
structure Reports (session : Session) (ignoreErrors : Bool) (failed total : Nat) : Prop where
  status : Ending.status session.ending ≠ 0 ↔ 0 < failed ∧ ignoreErrors = false
  message : 0 < failed → ignoreErrors = false → session.ending = some (.failed (report failed total))
  warning : 0 < failed → ignoreErrors = true → session.log.getLast? = some (.warn (report failed total))

section
variable [Painter]

/-- Says that a session has made charts of which each has done what it does alone. -/
structure Accounts (session : Session) (fs : FileSystem) (charts : List Chart)
    (ignoreErrors : Bool) : Prop where
  files : Combines fs (charts.map fun chart => (chart.alone fs).2) fs session.files
  written : ∀ chart ∈ charts, ∀ p ∈ chart.writtenPaths,
    session.files.node? (p.location fs.workingDirectory) =
      (chart.alone fs).2.node? (p.location fs.workingDirectory)
  untouched : ∀ location,
    (∀ chart ∈ charts, ∀ p ∈ chart.writtenPaths, p.location fs.workingDirectory ≠ location) →
    ∀ content, session.files.node? location = some (.file content) ↔
      fs.node? location = some (.file content)
  reports : session.Reports ignoreErrors (failuresAlone fs charts) charts.length

theorem ofCharts_files (fs : FileSystem) (charts : List Chart) (ignoreErrors : Bool) :
    (Session.ofCharts fs charts ignoreErrors).files = (executeAll fs charts).2 := by
  unfold Session.ofCharts
  dsimp only
  split
  · rfl
  split
  · rfl
  split <;> rfl

theorem reports_ofCharts {fs : FileSystem} {charts : List Chart}
    (hcalm : (executeAll fs charts).1.any Outcome.isOverflow = false) (ignoreErrors : Bool) :
    (Session.ofCharts fs charts ignoreErrors).Reports ignoreErrors
      (failureCount (executeAll fs charts).1) charts.length := by
  unfold Session.ofCharts
  dsimp only
  rw [if_neg (by rw [hcalm]; exact nofun)]
  by_cases hnone : failureCount (executeAll fs charts).1 = 0
  · rw [if_pos hnone, hnone]
    exact ⟨by simp [Ending.status], nofun, nofun⟩
  · have hsome := Nat.pos_of_ne_zero hnone
    rw [if_neg hnone]
    cases ignoreErrors with
    | true => exact ⟨by simp [Ending.status], nofun, fun _ _ => List.getLast?_concat⟩
    | false => exact ⟨by simpa [Ending.status] using hsome, fun _ _ => rfl, nofun⟩

/-- What is logged before the charts are made does not count. -/
theorem Accounts.of_log {session : Session} {fs : FileSystem} {charts : List Chart}
    {ignoreErrors : Bool} (h : session.Accounts fs charts ignoreErrors) (entries : List LogEntry) :
    ({ session with log := entries ++ session.log } : Session).Accounts fs charts ignoreErrors where
  files := h.files
  written := h.written
  untouched := h.untouched
  reports := by
    refine ⟨h.reports.status, h.reports.message, fun hfailed hignore => ?_⟩
    rw [List.getLast?_append, h.reports.warning hfailed hignore]
    rfl

/-- Arguments that ask for charts have these made in a session. -/
theorem ofArguments_eq {arguments : List String} {cl : CommandLine} {fs : FileSystem}
    {charts : List Chart} (hparse : CommandLine.parse arguments = .ok cl)
    (hcharts : cl.charts fs = .ok charts) (hne : charts ≠ []) :
    Session.ofArguments fs arguments =
      { Session.ofCharts fs charts cl.ignoreErrors with
        log := cl.log ++ (Session.ofCharts fs charts cl.ignoreErrors).log } := by
  rw [Session.ofArguments, hparse]
  dsimp only
  rw [hcharts]
  cases charts with
  | nil => exact absurd rfl hne
  | cons chart charts => rfl

/-- Whatever the painter is, and in whatever order independent charts are made in one session, each of
them does what it does alone, and the session reports how many of them fail alone. -/
theorem accounts_of_independent {fs : FileSystem} {charts order : List Chart} (h : fs.WellFormed)
    (hne : charts ≠ []) (hplain : ∀ chart ∈ charts, chart.HasPlainPaths)
    (hindependent : charts.Pairwise (Chart.Independent fs.workingDirectory))
    (hcalm : ∀ chart ∈ charts, Outcome.isOverflow (chart.alone fs).1 = false)
    (horder : order.Perm charts) :
    (executeAll fs order).1 = order.map (fun chart => (chart.alone fs).1) ∧
      (∀ ignoreErrors, (Session.ofCharts fs order ignoreErrors).Accounts fs charts ignoreErrors) ∧
      ∀ arguments cl, CommandLine.parse arguments = .ok cl → cl.charts fs = .ok order →
        (Session.ofArguments fs arguments).Accounts fs charts cl.ignoreErrors := by
  have hplain' : ∀ chart ∈ order, chart.HasPlainPaths :=
    fun chart hchart => hplain chart (horder.mem_iff.1 hchart)
  have hcalm' : ∀ chart ∈ order, Outcome.isOverflow (chart.alone fs).1 = false :=
    fun chart hchart => hcalm chart (horder.mem_iff.1 hchart)
  have hindependent' := (horder.pairwise_iff fun hxy => Std.Symm.symm _ _ hxy).2 hindependent
  obtain ⟨hresults, hfiles⟩ := executeAll_of_agrees hplain' hindependent' hcalm'
    fun chart _ => Agrees.refl (chart.scope fs.workingDirectory).used h
  have hcombines := hfiles.perm (horder.map _)
  have hcount : failureCount (executeAll fs order).1 = failuresAlone fs charts := by
    rw [hresults]
    exact (horder.map _).countP_eq _
  have hnone : (executeAll fs order).1.any Outcome.isOverflow = false := by
    rw [hresults, List.any_map, List.any_eq_false]
    intro chart hchart
    simp [hcalm' chart hchart]
  have haccounts : ∀ ignoreErrors,
      (Session.ofCharts fs order ignoreErrors).Accounts fs charts ignoreErrors := by
    intro ignoreErrors
    have hreports := reports_ofCharts hnone ignoreErrors
    rw [hcount, horder.length_eq] at hreports
    refine ⟨?_, ?_, ?_, hreports⟩
    · rw [ofCharts_files]
      exact hcombines
    · intro chart hchart p hp
      rw [ofCharts_files, node?_written h hplain hcombines hindependent hchart hp]
    · intro location hlocation content
      rw [ofCharts_files, node?_untouched h hplain hcombines hlocation]
  refine ⟨hresults, haccounts, ?_⟩
  intro arguments cl hparse hcharts
  rw [ofArguments_eq hparse hcharts fun hnil => hne (List.nil_perm.1 (hnil ▸ horder))]
  exact (haccounts cl.ignoreErrors).of_log cl.log

end

end Session

/-- A table with one record. -/
def shortTable : String :=
  "timeStep,totalSucc,getFailCount,putFailCount,deleteFailCount,event\n0,3,0,1,0,START_SERVER\n"

/-- A working directory in which the table of only one of two charts is there. -/
def halfEmpty : FileSystem :=
  let home : Location := ["home".toList]
  ⟨[(home, .directory), (home ++ ["there.csv".toList], .file shortTable.toUTF8)], home⟩

/-- A chart whose table is there. Both of its files have to be given directories. -/
def thereChart : Chart :=
  { Chart.new ⟨"there.csv".toList⟩ with window := 1, seriesOut := some ⟨"plots/json/there".toList⟩ }

/-- A chart whose table is missing. -/
def missingChart : Chart :=
  Chart.new ⟨"missing.csv".toList⟩

/-- A chart of the same table that is drawn as a bitmap. -/
def bitmapChart : Chart :=
  { thereChart with output := some ⟨"there.png".toList⟩, seriesOut := none }

/-- A painter of both formats, whose pictures are the names of their formats. -/
@[reducible]
def Painter.ofNames : Painter where
  paint? _ _ format := some format.name.toUTF8

section
attribute [local instance] Painter.ofNames

/-- A vector picture and a bitmap are drawn, whatever becomes of the third chart. -/
theorem accounts_halfEmpty :
    let charts := [thereChart, bitmapChart, missingChart]
    let session := Session.ofCharts halfEmpty charts.reverse false
    (executeAll halfEmpty charts.reverse).1 =
        charts.reverse.map (fun chart => (chart.alone halfEmpty).1) ∧
      session.Accounts halfEmpty charts false ∧
      session.ending = some (.failed "1 out of 3 charts failed:") ∧
      session.files.read thereChart.outputPath = .ok "Svg".toUTF8 ∧
      session.files.read bitmapChart.outputPath = .ok "Png".toUTF8 := by
  intro charts session
  have h : halfEmpty.WellFormed := .of_entries (by decide) (by decide)
  have hplain : ∀ chart ∈ charts, chart.HasPlainPaths := by decide
  have hindependent : charts.Pairwise (Chart.Independent halfEmpty.workingDirectory) := by decide
  have hcalm : ∀ chart ∈ charts, Outcome.isOverflow (chart.alone halfEmpty).1 = false := by
    decide +kernel
  have hfailures : failuresAlone halfEmpty charts = 1 := by decide +kernel
  obtain ⟨hresults, haccounts, -⟩ := Session.accounts_of_independent h (List.cons_ne_nil _ _) hplain
    hindependent hcalm charts.reverse_perm
  have hmessage := (haccounts false).reports.message (by rw [hfailures]; exact Nat.one_pos) rfl
  rw [hfailures] at hmessage
  exact ⟨hresults, haccounts false, hmessage, by decide +kernel, by decide +kernel⟩

end

end TelemetryCharts
