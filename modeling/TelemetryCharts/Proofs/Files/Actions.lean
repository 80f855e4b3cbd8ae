import TelemetryCharts.Proofs.Files.Footprint

/-!
# Actions in a scope

An action has a scope if it stays at the locations of the scope and does the same to all file systems
that agree on them. Actions in a scope are put together from smaller ones.
-/

namespace TelemetryCharts

/-- An action that may fail and that leaves files behind in any case. -/
abbrev Action (ε α : Type) := ExceptT ε (StateM FileSystem) α

namespace Action

variable {ε α β : Type}

theorem run_bind (a : Action ε α) (f : α → Action ε β) (fs : FileSystem) :
    (a >>= f).run fs =
      match a.run fs with
      | (.ok x, after) => (f x).run after
      | (.error e, after) => (.error e, after) := by
  show ExceptT.bindCont f (a.run fs).1 (a.run fs).2 = _
  obtain ⟨r, after⟩ := a.run fs
  cases r <;> rfl

theorem run_tryCatch (a : Action ε α) (f : ε → Action ε α) (fs : FileSystem) :
    (tryCatch a f).run fs =
      match a.run fs with
      | (.ok x, after) => (.ok x, after)
      | (.error e, after) => (f e).run after := by
  show (match (a.run fs).1 with
    | Except.ok x => (pure (Except.ok x) : StateM FileSystem (Except ε α))
    | Except.error e => (f e).run) (a.run fs).2 = _
  obtain ⟨r, after⟩ := a.run fs
  cases r <;> rfl

theorem run_get (fs : FileSystem) : (get : Action ε FileSystem).run fs = (.ok fs, fs) :=
  rfl

end Action

open FileSystem

/-- The locations that are used and those of them that are written, for a working directory. -/
structure Scope where
  home : Location
  used : List Location
  written : List Location
  used_of_written : ∀ location ∈ written, location ∈ used

/-- Says that an action keeps to a scope: it touches no other location, and where `P` holds it answers
the same in file systems that agree on the scope and changes them in the same way. -/
structure Action.Within {ε α : Type} (scope : Scope) (P : FileSystem → Prop) (a : Action ε α) :
    Prop where
  touches : ∀ fs : FileSystem, fs.WellFormed → fs.workingDirectory = scope.home →
    Touches scope.written fs (a.run fs).2
  alike : ∀ fs other, Agrees scope.used fs other → fs.workingDirectory = scope.home → P fs →
    (a.run other).1 = (a.run fs).1 ∧ Parallel fs other (a.run fs).2 (a.run other).2

namespace Action.Within

variable {ε ε' α β : Type} {scope : Scope} {P : FileSystem → Prop} {a : Action ε α}

/-- An answer that does not depend on the files. -/
theorem answer (r : Except ε α) : Within scope P (ExceptT.mk (pure r)) where
  touches _ hfs _ := .refl _ hfs
  alike fs other _ _ _ := ⟨rfl, .refl fs other⟩

/-- An action that is chosen by what is seen of the files, if only files in the scope are seen. -/
theorem get_bind {f : β → Action ε α} {see : FileSystem → β} (hf : ∀ x, Within scope P (f x))
    (hsee : ∀ fs other, Agrees scope.used fs other → fs.workingDirectory = scope.home →
      see other = see fs) : Within scope P (get >>= fun fs => f (see fs)) where
  touches fs hfs hhome := (hf (see fs)).touches fs hfs hhome
  alike fs other h hhome hP := by
    rw [run_bind, run_bind, run_get, run_get]
    dsimp only
    rw [hsee fs other h hhome]
    exact (hf (see fs)).alike fs other h hhome hP

/-- Two actions, the second of which may rely on what the first has achieved. -/
theorem bind {Q : α → FileSystem → Prop} {f : α → Action ε β} (ha : Within scope P a)
    (hf : ∀ x, Within scope (Q x) (f x))
    (hpost : ∀ fs x after, fs.WellFormed → fs.workingDirectory = scope.home → P fs →
      a.run fs = (.ok x, after) → Q x after) : Within scope P (a >>= f) where
  touches fs hfs hhome := by
    have hfirst := ha.touches fs hfs hhome
    rw [run_bind]
    cases hrun : a.run fs with
    | mk r after =>
      rw [hrun] at hfirst
      cases r with
      | error e => exact hfirst
      | ok x =>
        have hsecond :=
          (hf x).touches after hfirst.wellFormed (hfirst.workingDirectory.trans hhome)
        exact hfirst.trans hsecond
  alike fs other h hhome hP := by
    have htouches := ha.touches fs h.wellFormed hhome
    have htouches' := ha.touches other h.wellFormed_other (h.workingDirectory.trans hhome)
    obtain ⟨hanswer, hparallel⟩ := ha.alike fs other h hhome hP
    rw [run_bind, run_bind]
    cases hrun : a.run fs with
    | mk r after =>
      cases hrun' : a.run other with
      | mk r' after' =>
        rw [hrun] at htouches
        rw [hrun'] at htouches'
        rw [hrun, hrun'] at hanswer hparallel
        obtain rfl : r' = r := hanswer
        cases r' with
        | error e => exact ⟨rfl, hparallel⟩
        | ok x =>
          have hagrees := h.of_parallel hparallel htouches htouches'
          have hafter := htouches.workingDirectory.trans hhome
          obtain ⟨hanswer', hparallel'⟩ := (hf x).alike after after' hagrees hafter
            (hpost fs x after h.wellFormed hhome hP hrun)
          exact ⟨hanswer', hparallel.trans hparallel'⟩

/-- Two actions, the second of which relies on nothing. -/
theorem andThen {f : α → Action ε β} (ha : Within scope P a)
    (hf : ∀ x, Within scope (fun _ => True) (f x)) : Within scope P (a >>= f) :=
  ha.bind hf fun _ _ _ _ _ _ _ => trivial

/-- An action that does the same as another one and makes its answer from that of the other. -/
theorem of_run {b : Action ε' β} (answer : Except ε α → Except ε' β) (ha : Within scope P a)
    (hrun : ∀ fs, b.run fs = (answer (a.run fs).1, (a.run fs).2)) : Within scope P b where
  touches fs hfs hhome := by
    rw [hrun]
    exact ha.touches fs hfs hhome
  alike fs other h hhome hP := by
    obtain ⟨hanswer, hparallel⟩ := ha.alike fs other h hhome hP
    rw [hrun, hrun, hanswer]
    exact ⟨rfl, hparallel⟩

theorem adapt (ha : Within scope P a) (f : ε → ε') : Within scope P (a.adapt f) :=
  ha.of_run (Except.mapError f) fun _ => rfl

end Action.Within

end TelemetryCharts
