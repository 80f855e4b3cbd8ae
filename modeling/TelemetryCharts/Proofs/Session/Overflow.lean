import TelemetryCharts.Proofs.Series.Outcomes
import TelemetryCharts.Session.Program

/-!
# Sums of failures that are no counters

The failure counters of a row are counters one by one, but their sum may exceed the machine words.
Such a row is all that ends a session early: a chart without one has a series or a failure.
-/

namespace TelemetryCharts

theorem Outcome.within_eq_overflow_iff {α : Type} {o : Outcome α} {context : String} :
    o.within context = .error .overflow ↔ o = .error .overflow := by
  cases o with
  | ok x => exact iff_of_false nofun nofun
  | error stop => cases stop <;> simp [Outcome.within, Except.mapError, Stop.within]

theorem Outcome.bind_eq_overflow_iff {α β : Type} {o : Outcome α} {f : α → Outcome β} :
    (o >>= f) = .error .overflow ↔
      o = .error .overflow ∨ ∃ x, o = .ok x ∧ f x = .error .overflow := by
  cases o with
  | ok x => simp [bind, Except.bind]
  | error stop => simp [bind, Except.bind]

theorem Outcome.isOverflow_iff {α : Type} {o : Outcome α} :
    o.isOverflow = true ↔ o = .error .overflow := by
  cases o with
  | ok x => simp [Outcome.isOverflow]
  | error stop => cases stop <;> simp [Outcome.isOverflow]

/-- There is a series or a failure unless there is an overflow. -/
theorem Outcome.ne_overflow_iff {α : Type} {o : Outcome α} :
    o ≠ .error .overflow ↔ (∃ x, o = .ok x) ∨ ∃ f, o = .error (.failure f) := by
  cases o with
  | ok x => simp
  | error stop => cases stop <;> simp

namespace Frame

variable {frame : Frame} {cells : TypedCells} {window : Nat}

/-- An overflow is what comes of a row whose failures cannot be counted, if nothing is missing. -/
theorem IsTyped.series_eq_overflow_iff (h : frame.IsTyped cells) :
    frame.series window = .error .overflow ↔
      1 ≤ window ∧ none ∉ cells.timeSteps ∧ none ∉ cells.totalSucc ∧
        ∃ total ∈ cells.failures, 2 ^ 64 ≤ total := by
  by_cases hwindow : 1 ≤ window
  · by_cases htimeSteps : none ∈ cells.timeSteps
    · rw [h.series_of_no_timeStep hwindow htimeSteps]
      exact iff_of_false nofun fun hoverflow => hoverflow.2.1 htimeSteps
    by_cases htotalSucc : none ∈ cells.totalSucc
    · rw [h.series_of_no_totalSucc hwindow htimeSteps htotalSucc]
      exact iff_of_false nofun fun hoverflow => hoverflow.2.2.1 htotalSucc
    by_cases hlarge : ∃ total ∈ cells.failures, 2 ^ 64 ≤ total
    · exact iff_of_true (h.series_of_overflow hwindow htimeSteps htotalSucc hlarge)
        ⟨hwindow, htimeSteps, htotalSucc, hlarge⟩
    · have hsmall : ∀ total ∈ cells.failures, total < 2 ^ 64 := fun total htotal =>
        Nat.not_le.1 fun hle => hlarge ⟨total, htotal, hle⟩
      obtain ⟨s, hs⟩ := h.exists_series hwindow htimeSteps htotalSucc hsmall
      rw [hs]
      exact iff_of_false nofun fun hoverflow => hlarge hoverflow.2.2.2
  · obtain rfl : window = 0 := by omega
    exact iff_of_false nofun fun hoverflow => hwindow hoverflow.1

end Frame

/-- A chart has a series or a failure exactly if the failures in each row that is kept can be
counted, as far as they are looked at: not for a window of zero, and not where the table cannot be
loaded or where a time step or a total of successes is missing. -/
theorem Chart.derive_answers_iff (fs : FileSystem) (chart : Chart) :
    ((∃ s, chart.derive fs = .ok s) ∨ ∃ f, chart.derive fs = .error (.failure f)) ↔
      ∀ frame cells, Frame.load fs chart.input chart.truncate = .ok frame → frame.IsTyped cells →
        1 ≤ chart.window → none ∉ cells.timeSteps → none ∉ cells.totalSucc →
          ∀ total ∈ cells.failures, total < 2 ^ 64 := by
  rw [← Outcome.ne_overflow_iff, derive, ne_eq, Outcome.bind_eq_overflow_iff]
  simp only [Outcome.within_eq_overflow_iff, Outcome.within_eq_ok_iff, Frame.load_ne_overflow,
    false_or]
  constructor
  · intro hnone frame cells hload hcells hwindow htimeSteps htotalSucc total htotal
    refine Nat.not_le.1 fun hlarge => hnone ⟨frame, hload, ?_⟩
    exact hcells.series_eq_overflow_iff.2 ⟨hwindow, htimeSteps, htotalSucc, total, htotal, hlarge⟩
  · rintro hsmall ⟨frame, hload, hoverflow⟩
    obtain ⟨cells, hcells⟩ := Frame.exists_isTyped hload
    obtain ⟨hwindow, htimeSteps, htotalSucc, total, htotal, hlarge⟩ :=
      hcells.series_eq_overflow_iff.1 hoverflow
    have hlt := hsmall frame cells hload hcells hwindow htimeSteps htotalSucc total htotal
    omega

/-- A row of three counters each of which is a signed machine word. -/
def crowdedTable : String :=
  "timeStep,event,totalSucc,getFailCount,putFailCount,deleteFailCount\n" ++
    "1,,5,9223372036854775807,9223372036854775807,2\n"

/-- The sum of failures may exceed the counters, and then no other chart is made. -/
theorem derive_crowdedTable :
    let fs := FileSystem.ofTable crowdedTable.toUTF8
    let crowded := Chart.new ⟨"t.csv".toList⟩
    let missing := Chart.new ⟨"missing.csv".toList⟩
    ¬ ((∃ s, crowded.derive fs = .ok s) ∨ ∃ f, crowded.derive fs = .error (.failure f)) ∧
      Ending.status (Session.ofCharts fs [crowded, missing] true).ending = 101 ∧
      (executeAll fs [crowded, missing]).1.length = 1 := by
  have hoverflow : Outcome.isOverflow ((Chart.new ⟨"t.csv".toList⟩).derive
      (.ofTable crowdedTable.toUTF8)) = true := by
    decide +kernel
  refine ⟨?_, by decide +kernel, by decide +kernel⟩
  rw [← Outcome.ne_overflow_iff, not_not]
  exact Outcome.isOverflow_iff.1 hoverflow

end TelemetryCharts
