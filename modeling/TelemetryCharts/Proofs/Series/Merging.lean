import Mathlib.Algebra.GroupWithZero.Nat
import Mathlib.Data.List.Nodup
import Mathlib.Data.List.Perm.Basic
import Mathlib.Logic.Function.Basic
import TelemetryCharts.Proofs.Series.Heaps
import TelemetryCharts.Series.Markers

/-!
# Merging the rows of markers

The rows of all markers are an interleaving of the rows of each kind. At every step the least of the
first rows that are left is taken, so what comes of rows in order is in order, and of rows in any order
none is lost.
-/

namespace TelemetryCharts

/-- Says that elements are taken from lists, one after the other, until no list has any left, and that
each one taken is the least of the first elements that are left. -/
inductive Merges {ι : Type} [DecidableEq ι] : (ι → List Nat) → List Nat → Prop
  | done {left : ι → List Nat} (hleft : ∀ i, left i = []) : Merges left []
  | take {left : ι → List Nat} {i : ι} {x : Nat} {rest taken : List Nat} (hi : left i = x :: rest)
      (hleast : ∀ j, ∀ y ∈ (left j).head?, x ≤ y)
      (hrest : Merges (Function.update left i rest) taken) : Merges left (x :: taken)

theorem filter_cons_perm {others lists : List (List Nat)} (h : others.Perm (lists.filter (· ≠ [])))
    (rest : List Nat) : ((rest :: others).filter (· ≠ [])).Perm ((rest :: lists).filter (· ≠ [])) := by
  have hothers : (others.filter (· ≠ [])).Perm (lists.filter (· ≠ [])) := by
    simpa using h.filter (· ≠ [])
  rw [List.filter_cons, List.filter_cons]
  split
  · exact hothers.cons rest
  · exact hothers

section
variable {ι : Type} [DecidableEq ι] {left : ι → List Nat} {taken : List Nat}

namespace Merges

/-- The elements of each list keep their order. -/
theorem sublist (h : Merges left taken) (j : ι) : (left j).Sublist taken := by
  induction h with
  | done hleft => rw [hleft j]
  | @take left i x rest taken hi hleast hrest ih =>
    by_cases hj : j = i
    · subst hj
      rw [Function.update_self] at ih
      rw [hi]
      exact ih.cons_cons x
    · rw [Function.update_of_ne hj] at ih
      exact ih.cons x

theorem exists_mem (h : Merges left taken) {y : Nat} (hy : y ∈ taken) : ∃ j, y ∈ left j := by
  induction h with
  | done hleft => cases hy
  | @take left i x rest taken hi hleast hrest ih =>
    rcases List.mem_cons.1 hy with rfl | hy
    · exact ⟨i, by simp [hi]⟩
    · obtain ⟨j, hj⟩ := ih hy
      by_cases hji : j = i
      · subst hji
        rw [Function.update_self] at hj
        exact ⟨j, by simp [hi, hj]⟩
      · rw [Function.update_of_ne hji] at hj
        exact ⟨j, hj⟩

/-- Lists in order are merged into one that is in order. -/
theorem pairwise (h : Merges left taken) (hsorted : ∀ j, (left j).Pairwise (· ≤ ·)) :
    taken.Pairwise (· ≤ ·) := by
  induction h with
  | done hleft => exact .nil
  | @take left i x rest taken hi hleast hrest ih =>
    have hleft : ∀ j, (Function.update left i rest j).Sublist (left j) := by
      intro j
      by_cases hj : j = i
      · subst hj
        rw [Function.update_self, hi]
        exact List.sublist_cons_self x rest
      · rw [Function.update_of_ne hj]
    refine List.pairwise_cons.2 ⟨fun y hy => ?_, ih fun j => (hsorted j).sublist (hleft j)⟩
    obtain ⟨j, hj⟩ := hrest.exists_mem hy
    have hj := (hleft j).mem hj
    obtain ⟨z, zs, hcons⟩ := List.exists_cons_of_ne_nil (List.ne_nil_of_mem hj)
    have hz : x ≤ z := hleast j z (by rw [hcons]; rfl)
    have hpairwise := hsorted j
    rw [hcons] at hj hpairwise
    rcases List.mem_cons.1 hj with rfl | hzs
    · exact hz
    · exact Nat.le_trans hz (List.rel_of_pairwise_cons hpairwise hzs)

end Merges

variable {keys : List ι} {i : ι}

/-- A list of a key may be exchanged for another one without the need of more keys. -/
theorem mem_of_update_ne_nil (hkeys : ∀ j, left j ≠ [] → j ∈ keys) (hi : i ∈ keys) {rest : List Nat}
    {j : ι} (hj : Function.update left i rest j ≠ []) : j ∈ keys := by
  by_cases hji : j = i
  · exact hji ▸ hi
  · rw [Function.update_of_ne hji] at hj
    exact hkeys j hj

variable (hnodup : keys.Nodup)
include hnodup

/-- A list that is exchanged for another one leaves all others as they are. -/
theorem exists_map_update_perm (left : ι → List Nat) (hi : i ∈ keys) (rest : List Nat) :
    ∃ others, (keys.map left).Perm (left i :: others) ∧
      (keys.map (Function.update left i rest)).Perm (rest :: others) := by
  have hothers : (keys.erase i).map (Function.update left i rest) = (keys.erase i).map left := by
    apply List.map_congr_left
    intro j hj
    rw [Function.update_of_ne (hnodup.mem_erase_iff.1 hj).1]
  have hkeys := List.perm_cons_erase hi
  refine ⟨(keys.erase i).map left, hkeys.map left, ?_⟩
  rw [← hothers]
  simpa using hkeys.map (Function.update left i rest)

/-- The elements that are taken are those of all lists together. -/
theorem Merges.perm (h : Merges left taken) (hkeys : ∀ j, left j ≠ [] → j ∈ keys) :
    taken.Perm (keys.map left).flatten := by
  induction h with
  | done hleft => simp [hleft]
  | @take left i x rest taken hi hleast hrest ih =>
    have hmem : i ∈ keys := hkeys i (by simp [hi])
    obtain ⟨others, hbefore, hafter⟩ := exists_map_update_perm hnodup left hmem rest
    have htaken := (ih fun j => mem_of_update_ne_nil hkeys hmem).trans hafter.flatten
    rw [hi] at hbefore
    exact (htaken.cons x).trans hbefore.flatten.symm

/-- Taking elements from a heap until nothing is left merges the lists that the heap holds. -/
theorem Heap.drain_merges {count : Nat} {heap : Heap} (hvalid : heap.Valid)
    (hkeys : ∀ j, left j ≠ [] → j ∈ keys) (hperm : heap.Perm ((keys.map left).filter (· ≠ [])))
    (hcount : (keys.map left).flatten.length = count) : Merges left (heap.drain count) := by
  induction count generalizing heap left with
  | zero =>
    have hnil := List.flatten_eq_nil_iff.1 (List.length_eq_zero_iff.1 hcount)
    refine .done fun j => ?_
    by_contra hne
    exact hne (hnil _ (List.mem_map_of_mem (hkeys j hne)))
  | succ count ih =>
    cases heap with
    | nil =>
      -- If all lists were empty there would be nothing to count.
      have hempty := List.filter_eq_nil_iff.1 hperm.symm.eq_nil
      have hnil : (keys.map left).flatten = [] := by
        rw [List.flatten_eq_nil_iff]
        intro l hl
        simpa using hempty l hl
      rw [hnil] at hcount
      cases hcount
    | cons l others =>
      obtain ⟨hmem, hne⟩ := List.mem_filter.1 (hperm.mem_iff.1 List.mem_cons_self)
      obtain ⟨i, hi, rfl⟩ := List.mem_map.1 hmem
      obtain ⟨x, rest, hlist⟩ := List.exists_cons_of_ne_nil (of_decide_eq_true hne)
      obtain ⟨lists, hbefore, hafter⟩ := exists_map_update_perm hnodup left hi rest
      rw [hlist] at hvalid hperm hbefore ⊢
      obtain ⟨remaining, hpop, hremaining, hleft, hleast⟩ := hvalid.exists_pop?
      rw [drain, hpop]
      refine .take hlist ?_ (ih hremaining (fun j => mem_of_update_ne_nil hkeys hi) ?_ ?_)
      · intro j y hy
        have hj : left j ≠ [] := fun hnil => by simp [hnil] at hy
        refine hleast (left j) (hperm.mem_iff.2 ?_) y hy
        simpa [hj] using ⟨j, hkeys j hj, rfl⟩
      · have hfront := hperm.trans (hbefore.filter _)
        rw [List.filter_cons_of_pos (by simp)] at hfront
        exact hleft.trans ((filter_cons_perm hfront.cons_inv rest).trans (hafter.filter _).symm)
      · have hlength := hbefore.flatten.length_eq
        rw [hcount] at hlength
        rw [hafter.flatten.length_eq]
        simpa using hlength.symm

/-- Merging lists takes the least of their first elements until nothing is left. -/
theorem mergeHeads_merges (hkeys : ∀ j, left j ≠ [] → j ∈ keys) :
    Merges left (mergeHeads (keys.map left)) :=
  Heap.drain_merges hnodup (Heap.valid_ofLists _) hkeys (Heap.ofLists_perm _) rfl

end

namespace Markers

variable {α : Type}

/-- The rows of the markers of a kind. -/
def rowsOf (markers : Markers α) (kind : Event) : List Nat :=
  (markers.get kind).map Marker.row

theorem map_fst_entries (markers : Markers α) :
    markers.entries.map Prod.fst = Event.all.filter fun kind => (markers.entry? kind).isSome := by
  rw [entries, List.map_filterMap, ← List.filterMap_eq_filter]
  apply List.filterMap_congr
  intro kind _
  cases hentry : markers.entry? kind <;> simp [Option.guard, hentry]

/-- The rows that are merged are those of the kinds that have an entry. -/
theorem rows_eq (markers : Markers α) :
    markers.rows = mergeHeads ((markers.entries.map Prod.fst).map markers.rowsOf) := by
  rw [rows, List.map_map]
  congr 1
  apply List.map_congr_left
  rintro ⟨kind, found⟩ hmem
  obtain ⟨other, -, hother⟩ := List.mem_filterMap.1 hmem
  obtain ⟨entry, hentry, heq⟩ := Option.map_eq_some_iff.1 hother
  cases heq
  rw [Function.comp_apply, rowsOf, get, hentry, Option.getD_some]

/-- The rows of all markers are merged from the rows of each kind. -/
theorem merges_rows (markers : Markers α) : Merges markers.rowsOf markers.rows := by
  rw [rows_eq, map_fst_entries]
  apply mergeHeads_merges
  · exact List.Nodup.filter _ (by decide)
  · intro kind hne
    rw [List.mem_filter]
    refine ⟨by cases kind <;> decide, ?_⟩
    cases hentry : markers.entry? kind with
    | none => simp [rowsOf, get, hentry] at hne
    | some found => rfl

theorem rows_perm (markers : Markers α) :
    markers.rows.Perm (Event.all.map markers.rowsOf).flatten := by
  apply markers.merges_rows.perm (by decide)
  intro kind _
  cases kind <;> decide

theorem total_eq (markers : Markers α) :
    markers.total = (Event.all.map fun kind => (markers.get kind).length).sum := by
  rw [total, ← List.sum_eq_foldl, entries, List.map_filterMap]
  induction Event.all with
  | nil => rfl
  | cons kind kinds ih =>
    rw [List.filterMap_cons, List.map_cons, List.sum_cons, get]
    cases markers.entry? kind with
    | none => simpa using ih
    | some found => simpa using ih

/-- Whatever the markers are, all of their rows together are an interleaving of the rows of each kind:
no row is lost or comes twice, and the rows of a kind keep their order. Each row is the least of the
first ones that were left, so rows in order stay in order. -/
theorem rows_interleave (markers : Markers α) :
    Merges markers.rowsOf markers.rows ∧
      (∀ row, markers.rows.count row =
        (Event.all.map fun kind => (markers.rowsOf kind).count row).sum) ∧
      (∀ kind, (markers.rowsOf kind).Sublist markers.rows) ∧
      markers.rows.length = markers.total ∧
      markers.total = (Event.all.map fun kind => (markers.get kind).length).sum ∧
      ((∀ kind, (markers.rowsOf kind).Pairwise (· ≤ ·)) → markers.rows.Pairwise (· ≤ ·)) := by
  have hmerges := markers.merges_rows
  have hperm := markers.rows_perm
  refine ⟨hmerges, fun row => ?_, hmerges.sublist, ?_, markers.total_eq, hmerges.pairwise⟩
  · rw [hperm.count_eq, List.count_flatten, List.map_map]
    rfl
  · rw [hperm.length_eq, List.length_flatten, total_eq, List.map_map]
    simp only [Function.comp_def, rowsOf, List.length_map]

/-- Markers of which some have the same rows, and of which no kind but two has an entry. -/
def repeated : Markers Float where
  entry?
    | .stopServer => some [⟨2, 1⟩, ⟨5, 0⟩, ⟨5, 2⟩]
    | .stopProgram => some [⟨2, 7⟩, ⟨9, 7⟩]
    | _ => none

theorem rows_repeated :
    repeated.rows = [2, 2, 5, 5, 9] ∧ repeated.rows.Pairwise (· ≤ ·) := by
  refine ⟨by decide, repeated.rows_interleave.2.2.2.2.2 fun kind => ?_⟩
  cases kind <;> decide

end Markers

end TelemetryCharts
