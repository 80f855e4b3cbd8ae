import TelemetryCharts.Proofs.Series.Outcomes
import TelemetryCharts.Proofs.Session.Effects

/-!
# What a failed chart leaves

A chart that fails after its series has been derived leaves no picture, and all that it can leave is
the export of the series: it is written before the picture is drawn, and nothing takes it away when
the drawing fails.
-/

namespace TelemetryCharts

/-- Says that every file was there before, with the same content. -/
def FileSystem.NoneNew (before after : FileSystem) : Prop :=
  ∀ location content, after.node? location = some (.file content) →
    before.node? location = some (.file content)

namespace Chart

open FileSystem

variable {fs after : FileSystem} {chart : Chart} {s : Series Float} {stop : Stop}

/-- What is there when a chart with a series has failed: the export has failed, or else the picture
has, and then the export stays. -/
inductive Failed (chart : Chart) (s : Series Float) (before after : FileSystem) : Prop
  | exporting {stop : Stop} (hrun : (chart.exportSeries s).run before = (.error stop, after))
    (hchanges : ChangesOnly [] (chart.trail before.workingDirectory) before after)
  | drawing {exported : FileSystem} (hrun : (chart.exportSeries s).run before = (.ok (), exported))
    (hexported : chart.Exported s before exported)
    (hwithdraws : Withdraws chart.outputPath (chart.outputPath.trail exported.workingDirectory)
      exported after)

theorem failed_of_execute [Painter] (hformat : Format.Supports chart.outputPath)
    (hderive : chart.derive fs = .ok s) (hrun : (chart.execute).run fs = (.error stop, after)) :
    chart.Failed s fs after := by
  cases execution_of_execute hrun with
  | unsupported hfails =>
    obtain ⟨-, format, hok⟩ | ⟨hunsupported, -⟩ := Format.ofPath_cases chart.outputPath
    · rw [hfails] at hok
      cases hok
    · exact absurd hformat hunsupported
  | underived hok hfails =>
    rw [hderive] at hfails
    cases hfails
  | unexported hderived hexport hchanges =>
    rw [hderive] at hderived
    cases hderived
    exact .exporting hexport hchanges
  | undrawn hderived hexport hexported hwithdraws =>
    rw [hderive] at hderived
    cases hderived
    exact .drawing hexport hexported hwithdraws

/-- The files that are left are files that were there, and the export if it has been written. -/
theorem Failed.file_cases (h : chart.Failed s fs after) {location : Location} {content : ByteArray}
    (hnode : after.node? location = some (.file content)) :
    fs.node? location = some (.file content) ∨
      ∃ p ∈ chart.seriesOut, (∃ exported, (chart.exportSeries s).run fs = (.ok (), exported)) ∧
        placeOf (after.find p) = .ok location ∧ content = s.exportText.toUTF8 := by
  cases h with
  | exporting hrun hchanges =>
    exact .inl ((hchanges.node?_eq_file_iff List.not_mem_nil content).1 hnode)
  | drawing hrun hexported hwithdraws =>
    obtain ⟨⟨written, hchanges, hwritten⟩, hnothing⟩ := hwithdraws
    have hother : location ∉ written := by
      intro hmem
      rw [hnothing location (hwritten location hmem)] at hnode
      cases hnode
    have hthere := (hchanges.node?_eq_file_iff hother content).1 hnode
    cases hexported with
    | nothing hpath => exact .inl hthere
    | @file p target exported hpath hdeposits =>
      by_cases heq : location = target
      · subst heq
        have hplace := hdeposits.placeOf_later hchanges (by rw [hnode]; exact nofun)
        rw [hdeposits.node] at hthere
        cases hthere
        exact .inr ⟨p, hpath, ⟨_, hrun⟩, hplace, rfl⟩
      · exact .inl ((hdeposits.changes.node?_eq_file_iff (by simpa using heq) content).1 hthere)

/-- An export that has been written is there in the end unless the picture was to take its place. -/
theorem Failed.export_stays (h : chart.Failed s fs after) {p : Path} (hpath : chart.seriesOut = some p)
    {exported : FileSystem} (hrun : (chart.exportSeries s).run fs = (.ok (), exported))
    (hdifferent : ¬ SameFile after p chart.outputPath) :
    ∃ location, placeOf (after.find p) = .ok location ∧
      after.node? location = some (.file s.exportText.toUTF8) := by
  cases h with
  | exporting hfailed hchanges =>
    rw [hrun] at hfailed
    cases hfailed
  | drawing hrun' hexported hwithdraws =>
    obtain ⟨⟨written, hchanges, hwritten⟩, hnothing⟩ := hwithdraws
    cases hexported with
    | nothing hnone =>
      rw [hpath] at hnone
      cases hnone
    | @file q target exported hpath' hdeposits =>
      obtain rfl : p = q := Option.some.inj (hpath.symm.trans hpath')
      have hother : target ∉ written := by
        intro hmem
        have hplace := hwritten target hmem
        have hgone := hnothing target hplace
        have hlater := hdeposits.placeOf_later hchanges (by rw [hgone]; exact nofun)
        exact hdifferent ⟨target, hlater, hplace⟩
      have hnode := hdeposits.node_later hchanges hother
      exact ⟨target, hdeposits.placeOf_later hchanges (by rw [hnode]; exact nofun), hnode⟩

/-- When the export has not failed, there is no file in the end where the picture was to be. -/
theorem Failed.nothing_drawn (h : chart.Failed s fs after) {exported : FileSystem}
    (hrun : (chart.exportSeries s).run fs = (.ok (), exported)) {location : Location}
    (hplace : placeOf (after.find chart.outputPath) = .ok location) : after.node? location = none := by
  cases h with
  | exporting hfailed hchanges =>
    rw [hrun] at hfailed
    cases hfailed
  | drawing hrun' hexported hwithdraws => exact hwithdraws.nothing location hplace

/-- A chart that fails after its series has been derived leaves no picture. It leaves no other new
file either exactly if the export has failed as well, if it was not asked for, if the picture was to
take its place, or if it was there before. -/
theorem leftovers_of_failed [Painter] (hformat : Format.Supports chart.outputPath)
    (hderive : chart.derive fs = .ok s) (hrun : (chart.execute).run fs = (.error stop, after)) :
    (∀ location content, after.node? location = some (.file content) →
      fs.node? location = some (.file content) ∨
        ∃ p ∈ chart.seriesOut, (∃ exported, (chart.exportSeries s).run fs = (.ok (), exported)) ∧
          placeOf (after.find p) = .ok location ∧ content = s.exportText.toUTF8) ∧
    (NoneNew fs after ↔
      ∀ p ∈ chart.seriesOut, ∀ exported, (chart.exportSeries s).run fs = (.ok (), exported) →
        SameFile after p chart.outputPath ∨ ∃ location, placeOf (after.find p) = .ok location ∧
          fs.node? location = some (.file s.exportText.toUTF8)) ∧
    ∀ exported, (chart.exportSeries s).run fs = (.ok (), exported) →
      ∀ location, placeOf (after.find chart.outputPath) = .ok location →
        after.node? location = none := by
  have hfailed := failed_of_execute hformat hderive hrun
  refine ⟨fun location content => hfailed.file_cases, ⟨fun hnone p hpath exported hexport => ?_, ?_⟩,
    fun exported hexport location => hfailed.nothing_drawn hexport⟩
  · by_cases hsame : SameFile after p chart.outputPath
    · exact .inl hsame
    · obtain ⟨location, hplace, hnode⟩ := hfailed.export_stays hpath hexport hsame
      exact .inr ⟨location, hplace, hnone _ _ hnode⟩
  · intro hexports location content hnode
    rcases hfailed.file_cases hnode with hold | ⟨p, hpath, ⟨exported, hexport⟩, hplace, rfl⟩
    · exact hold
    · rcases hexports p hpath exported hexport with ⟨other, hother, hpicture⟩ | ⟨other, hother, hold⟩
      · -- There is no file where the picture was to be, so there is none here.
        obtain rfl : location = other := Except.ok.inj (hplace.symm.trans hother)
        rw [hfailed.nothing_drawn hexport hpicture] at hnode
        cases hnode
      · obtain rfl : location = other := Except.ok.inj (hplace.symm.trans hother)
        exact hold

end Chart

open FileSystem

/-- A working directory in which a directory stands where a picture is to be drawn. -/
def blockedPicture : FileSystem :=
  let plots := halfEmpty.workingDirectory ++ ["plots".toList]
  (halfEmpty.put plots .directory).put (plots ++ ["there.svg".toList]) .directory

/-- The export is left when the picture cannot be drawn. -/
theorem thereChart_leftover :
    Format.Supports thereChart.outputPath ∧ ∃ s stop after,
      thereChart.derive blockedPicture = .ok s ∧
        (thereChart.execute).run blockedPicture = (.error stop, after) ∧
        ¬ NoneNew blockedPicture after := by
  refine ⟨by decide, ?_⟩
  obtain ⟨s, hderive, -⟩ := exists_ok_of_any (o := thereChart.derive blockedPicture)
    (p := fun _ => True) (by decide +kernel)
  have hfails : Outcome.isOk ((thereChart.execute).run blockedPicture).1 = false := by
    decide +kernel
  obtain ⟨stop, hrun⟩ := Chart.execute_eq_error hfails
  refine ⟨s, stop, _, hderive, hrun, fun hnone => ?_⟩
  let place := blockedPicture.workingDirectory ++ ["plots".toList, "json".toList, "there".toList]
  have hfile : (((thereChart.execute).run blockedPicture).2.node? place).any (· ≠ .directory) = true := by
    decide +kernel
  have hfree : blockedPicture.node? place = none := by decide
  obtain ⟨node, hnode, hne⟩ := (Option.any_eq_true _ _).1 hfile
  cases node with
  | directory => simp at hne
  | file content =>
    have hold := hnone place content hnode
    rw [hfree] at hold
    cases hold

/-- Without an export nothing is left when the picture cannot be drawn. -/
theorem leftovers_blockedPicture :
    let bare := { thereChart with seriesOut := none }
    ∃ s stop after, bare.derive blockedPicture = .ok s ∧
      (bare.execute).run blockedPicture = (.error stop, after) ∧ NoneNew blockedPicture after := by
  intro bare
  obtain ⟨s, hderive, -⟩ := exists_ok_of_any (o := bare.derive blockedPicture)
    (p := fun _ => True) (by decide +kernel)
  have hfails : Outcome.isOk ((bare.execute).run blockedPicture).1 = false := by
    decide +kernel
  obtain ⟨stop, hrun⟩ := Chart.execute_eq_error hfails
  obtain ⟨-, hnone, -⟩ := Chart.leftovers_of_failed (by decide) hderive hrun
  exact ⟨s, stop, _, hderive, hrun, hnone.2 nofun⟩

end TelemetryCharts
