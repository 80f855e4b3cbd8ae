import Mathlib.Data.List.Pairwise
import TelemetryCharts.Proofs.Files.Combination
import TelemetryCharts.Proofs.Session.Stages

/-!
# Independent charts

Charts whose paths lie apart can be made in one session in any order. Each of them has the result
that it has when it is made alone, and the files are those that each of them leaves alone.
-/

namespace TelemetryCharts

open FileSystem

namespace Chart

/-- Says that neither of two charts writes to, above or below a path that the other one uses. -/
def Independent (home : Location) (first second : Chart) : Prop :=
  (∀ p ∈ first.writtenPaths, ∀ q ∈ second.paths, Apart (p.location home) (q.location home)) ∧
    ∀ p ∈ second.writtenPaths, ∀ q ∈ first.paths, Apart (p.location home) (q.location home)

instance (home : Location) (first second : Chart) : Decidable (Independent home first second) :=
  inferInstanceAs (Decidable (_ ∧ _))

/-- The result of a chart that is made alone, and the files that it leaves. -/
def alone [Painter] (fs : FileSystem) (chart : Chart) : Outcome (Series Float) × FileSystem :=
  (chart.execute).run fs

section
variable {home : Location} {first second : Chart}

instance (home : Location) : Std.Symm (Independent home) where
  symm _ _ h := ⟨h.2, h.1⟩

theorem Independent.apart (h : Independent home first second) :
    ∀ target ∈ (first.scope home).written, ∀ location ∈ (second.scope home).used,
      Apart target location := by
  intro target htarget location hlocation
  obtain ⟨p, hp, rfl⟩ := List.mem_map.1 htarget
  obtain ⟨q, hq, rfl⟩ := List.mem_map.1 hlocation
  exact h.1 p hp q hq

end

section
variable [Painter] {fs other : FileSystem} {chart : Chart}

theorem touches_execute (hplain : chart.HasPlainPaths) (h : fs.WellFormed) :
    Touches (chart.scope fs.workingDirectory).written fs ((chart.execute).run fs).2 :=
  (within_execute hplain).touches fs h rfl

/-- A chart does in file systems that agree on its paths what it does alone. -/
theorem execute_of_agrees (hplain : chart.HasPlainPaths)
    (h : Agrees (chart.scope fs.workingDirectory).used fs other) :
    ((chart.execute).run other).1 = (chart.alone fs).1 ∧
      Combines fs [(chart.alone fs).2] other ((chart.execute).run other).2 := by
  obtain ⟨hanswer, hparallel⟩ := (within_execute hplain).alike fs other h rfl trivial
  have htouches := touches_execute hplain h.wellFormed_other
  rw [h.workingDirectory] at htouches
  exact ⟨hanswer, hparallel.combines h htouches (chart.scope fs.workingDirectory).used_of_written⟩

/-- A chart leaves file systems that agree on the paths of an independent chart so. -/
theorem agrees_execute {next : Chart} (hplain : chart.HasPlainPaths)
    (hindependent : Independent fs.workingDirectory chart next)
    (h : Agrees (chart.scope fs.workingDirectory).used fs other)
    (hnext : Agrees (next.scope fs.workingDirectory).used fs other) :
    Agrees (next.scope fs.workingDirectory).used fs ((chart.execute).run other).2 :=
  hnext.of_combines (execute_of_agrees hplain h).2 (touches_execute hplain h.wellFormed)
    (touches_execute hplain h.wellFormed_other) hindependent.apart

end

end Chart

variable [Painter]

theorem executeAll_cons {fs : FileSystem} {chart : Chart}
    (h : Outcome.isOverflow ((chart.execute).run fs).1 = false) (charts : List Chart) :
    executeAll fs (chart :: charts) =
      (((chart.execute).run fs).1 :: (executeAll ((chart.execute).run fs).2 charts).1,
        (executeAll ((chart.execute).run fs).2 charts).2) := by
  rw [executeAll]
  cases hrun : (chart.execute).run fs with
  | mk result after =>
    rw [hrun] at h
    exact if_neg (by rw [h]; exact nofun)

/-- Charts that are made one after the other do what each of them does alone. -/
theorem executeAll_of_agrees {fs : FileSystem} {charts : List Chart}
    (hplain : ∀ chart ∈ charts, chart.HasPlainPaths)
    (hindependent : charts.Pairwise (Chart.Independent fs.workingDirectory))
    (hcalm : ∀ chart ∈ charts, Outcome.isOverflow (chart.alone fs).1 = false)
    {other : FileSystem}
    (hagrees : ∀ chart ∈ charts, Agrees (chart.scope fs.workingDirectory).used fs other) :
    (executeAll other charts).1 = charts.map (fun chart => (chart.alone fs).1) ∧
      Combines fs (charts.map fun chart => (chart.alone fs).2) other (executeAll other charts).2 := by
  induction charts generalizing other with
  | nil => exact ⟨rfl, .nil fs other⟩
  | cons chart charts ih =>
    obtain ⟨hplain, hplains⟩ := List.forall_mem_cons.1 hplain
    obtain ⟨hcalm, hcalms⟩ := List.forall_mem_cons.1 hcalm
    obtain ⟨hagrees, hagreeing⟩ := List.forall_mem_cons.1 hagrees
    obtain ⟨hapart, hindependent⟩ := List.pairwise_cons.1 hindependent
    obtain ⟨hanswer, hcombines⟩ := Chart.execute_of_agrees hplain hagrees
    obtain ⟨hanswers, hrest⟩ := ih hplains hindependent hcalms fun next hnext =>
      Chart.agrees_execute hplain (hapart next hnext) hagrees (hagreeing next hnext)
    rw [executeAll_cons (hanswer ▸ hcalm), hanswer, hanswers]
    refine ⟨rfl, hcombines.cons hrest ?_⟩
    intro second hsecond location hchanged hchanged'
    obtain ⟨next, hnext, rfl⟩ := List.mem_map.1 hsecond
    have hfirst := Chart.touches_execute hplain hagrees.wellFormed
    have hsecond := Chart.touches_execute (hplains next hnext) hagrees.wellFormed
    apply hfirst.eq_of_apart hsecond ?_ hchanged hchanged'
    intro target htarget target' htarget'
    exact (hapart next hnext).apart target htarget target' (Scope.used_of_written _ target' htarget')

section
variable {fs after : FileSystem} {charts : List Chart} (h : fs.WellFormed)
  (hplain : ∀ chart ∈ charts, chart.HasPlainPaths)
  (hcombines : Combines fs (charts.map fun chart => (chart.alone fs).2) fs after)
include h hplain hcombines

/-- At a path that one chart writes there is what this chart leaves. -/
theorem node?_written (hindependent : charts.Pairwise (Chart.Independent fs.workingDirectory))
    {chart : Chart} (hchart : chart ∈ charts) {p : Path} (hp : p ∈ chart.writtenPaths) :
    after.node? (p.location fs.workingDirectory) =
      (chart.alone fs).2.node? (p.location fs.workingDirectory) := by
  rcases hcombines.unchanged_or_changed (p.location fs.workingDirectory) with
    ⟨hsame, hnode⟩ | ⟨other, hother, hchanged, hnode⟩
  · rw [hnode, hsame _ (List.mem_map_of_mem hchart)]
  · obtain ⟨next, hnext, rfl⟩ := List.mem_map.1 hother
    have hself : next = chart := by
      apply Decidable.byContradiction
      intro hne
      have hapart := (hindependent.forall hnext hchart hne).apart
      have hused := Chart.location_mem_used fs.workingDirectory (chart.writtenPaths_subset hp)
      exact hchanged ((Chart.touches_execute (hplain next hnext) h).node?_eq_of_apart
        fun target htarget => hapart target htarget _ hused)
    rw [hnode, hself]

/-- At other locations there are the files that were there, and no others. -/
theorem node?_untouched {location : Location}
    (hlocation : ∀ chart ∈ charts, ∀ p ∈ chart.writtenPaths, p.location fs.workingDirectory ≠ location)
    (content : ByteArray) :
    after.node? location = some (.file content) ↔ fs.node? location = some (.file content) := by
  rcases hcombines.unchanged_or_changed location with ⟨-, hnode⟩ | ⟨other, hother, hchanged, hnode⟩
  · rw [hnode]
  · obtain ⟨next, hnext, rfl⟩ := List.mem_map.1 hother
    rcases (Chart.touches_execute (hplain next hnext) h).nodes location with
      hsame | hwritten | ⟨hnone, hdirectory, -⟩
    · exact absurd hsame hchanged
    · obtain ⟨p, hp, hlocation'⟩ := List.mem_map.1 hwritten
      exact absurd hlocation' (hlocation next hnext p hp)
    · rw [hnode, Chart.alone, hnone, hdirectory]
      simp

end

end TelemetryCharts
