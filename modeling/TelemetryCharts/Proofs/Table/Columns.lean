import Mathlib.Algebra.Group.Int.Defs
import TelemetryCharts.Proofs.Table.Inference
import TelemetryCharts.Proofs.Words

/-!
# Columns of integers, doubles and texts

A column into which integers, doubles or texts were written is read as a column of the same values.
Integers have to be signed machine words, and one of the first texts has to show that they are
texts.
-/

namespace TelemetryCharts.Table

open Decimal

/-- Cells that all look the same make a column of their kind, unless there are none of them. -/
theorem unify_replicate (count : Nat) (k : Kind) :
    Kind.unify (List.replicate count k) = if count = 0 then .text else k := by
  cases count with
  | zero => rfl
  | succ count => cases k <;> simp [Kind.unify, List.replicate_succ]

/-- One cell that looks like text makes a column of texts. -/
theorem unify_of_text_mem {kinds : List Kind} (h : Kind.text ∈ kinds) : Kind.unify kinds = .text := by
  have hall : ∀ p : Kind → Bool, p .text = false → kinds.all p = false := by
    intro p hp
    rw [List.all_eq_false]
    exact ⟨.text, h, by simp [hp]⟩
  unfold Kind.unify
  split
  · rfl
  rw [if_neg (by simp [hall]), if_neg (by simp [hall]), if_neg (by simp [hall])]

theorem columnKind_words {α : Type} {values : List α} {write : α → List Char} {k : Kind}
    (hword : ∀ x, IsWord (write x)) (hkind : ∀ x, Kind.of (write x) = k) :
    Kind.unify (((values.map write).take sampleSize).filterMap writtenKind?) =
      if values = [] then .text else k := by
  have hkinds : ((values.map write).take sampleSize).filterMap writtenKind? =
      List.replicate (values.take sampleSize).length k := by
    rw [← List.map_take, List.filterMap_map, List.filterMap_congr (g := fun _ => some k)]
    · rw [List.filterMap_eq_map', List.map_const']
    · intro x _
      rw [Function.comp_apply, (hword x).writtenKind?, hkind]
  rw [hkinds, unify_replicate]
  congr 1
  rw [List.length_eq_zero_iff, List.take_eq_nil_iff]
  simp [sampleSize]

theorem isWord_signedDigits (i : Int) : IsWord (signedDigits i) where
  ne_nil := signedDigits_ne_nil i
  plain c hc := by
    rcases mem_signedDigits hc with rfl | hdigit
    · rfl
    · exact forall_isDigit (p := fun c => needsQuotes c = false) (by decide) hdigit
  unspaced c hc := by
    rcases mem_signedDigits hc with rfl | hdigit
    · rfl
    · exact forall_isDigit (p := fun c => isSpace (some c) = false) (by decide) hdigit

theorem isWord_tabular (x : Float) : IsWord (tabular x) := by
  have hchars : ∀ c ∈ tabular x, needsQuotes c = false ∧ isSpace (some c) = false := by
    rcases tabular_cases x with ⟨n, hn, h⟩ | h
    · intro c hc
      rw [h] at hc
      rcases hn.mem_render hc with rfl | rfl | rfl | hdigit
      · exact ⟨rfl, rfl⟩
      · exact ⟨rfl, rfl⟩
      · exact ⟨rfl, rfl⟩
      · exact forall_isDigit (p := fun c => needsQuotes c = false ∧ isSpace (some c) = false)
          (by decide) hdigit
    · have hnames : ∀ cell ∈ ["NaN".toList, "inf".toList, "-inf".toList],
          cell.all (fun c => !needsQuotes c && !isSpace (some c)) = true := by decide
      intro c hc
      have hplain := List.all_eq_true.1 (hnames _ h) c hc
      simpa using hplain
  exact ⟨tabular_ne_nil x, fun c hc => (hchars c hc).1, fun c hc => (hchars c hc).2⟩

/-- Says that an integer is a signed machine word. -/
def InRange (i : Int) : Prop :=
  -2 ^ 63 ≤ i ∧ i < 2 ^ 63

instance (i : Int) : Decidable (InRange i) :=
  inferInstanceAs (Decidable (_ ∧ _))

theorem readInteger?_signedDigits (i : Int) :
    readInteger? (signedDigits i) = if InRange i then some (Int64.ofInt i) else none := by
  rw [readInteger?, integer?_signedDigits]
  exact wordOfInt?_eq i

/-- Written integers are read as a column whose casts are those of the integers. An empty column has
no cells to cast. -/
theorem exists_integerColumn {values : List Int} (h : ∀ i ∈ values, InRange i) :
    ∃ column, writtenColumn? (values.map signedDigits) = some column ∧
      column.toFloats = values.map (fun i => some (Float.ofInt i)) ∧
      column.toCounters = values.map Column.counterOfInt? ∧ column.length = values.length := by
  rw [writtenColumn?, columnKind_words isWord_signedDigits Kind.of_signedDigits]
  by_cases hnil : values = []
  · subst hnil
    exact ⟨.text [], rfl, rfl, rfl, rfl⟩
  · rw [if_neg hnil]
    refine ⟨.integers (values.map fun i => some (Int64.ofInt i)), ?_, ?_, ?_, ?_⟩
    · simp only [Kind.column?, Kind.column?.read, List.map_map, List.mapM_map]
      rw [mapM_eq_some_map (g := fun i => some (Int64.ofInt i))]
      · rfl
      · intro i hi
        simp [(isWord_signedDigits i).numberCell?, readInteger?_signedDigits, h i hi]
    · simp only [Column.toFloats, List.map_map]
      apply List.map_congr_left
      intro i hi
      simp [Int64.toInt_ofInt_of_le (h i hi).1 (h i hi).2]
    · simp only [Column.toCounters, List.map_map]
      apply List.map_congr_left
      intro i hi
      simp [Int64.toInt_ofInt_of_le (h i hi).1 (h i hi).2]
    · rw [Column.length, List.length_map]

/-- An integer that is no signed machine word makes its column unreadable. -/
theorem integerColumn_eq_none {values : List Int} {i : Int} (hi : i ∈ values) (h : ¬ InRange i) :
    writtenColumn? (values.map signedDigits) = none := by
  have hne : values ≠ [] := List.ne_nil_of_mem hi
  rw [writtenColumn?, columnKind_words isWord_signedDigits Kind.of_signedDigits, if_neg hne]
  simp only [Kind.column?, Kind.column?.read, List.map_map, List.mapM_map]
  rw [mapM_eq_none_of_mem hi]
  · rfl
  · simp [(isWord_signedDigits i).numberCell?, readInteger?_signedDigits, h]

/-- Written doubles are read as some column. -/
theorem doubleColumn_isSome (values : List Float) :
    (writtenColumn? (values.map tabular)).isSome = true := by
  rw [writtenColumn?, columnKind_words isWord_tabular Kind.of_tabular]
  by_cases hnil : values = []
  · subst hnil
    rfl
  · rw [if_neg hnil]
    simp only [Kind.column?, Kind.column?.read, List.map_map, List.mapM_map, Option.isSome_map]
    apply mapM_isSome
    intro x _
    simp [(isWord_tabular x).numberCell?, float?_tabular_isSome]

end TelemetryCharts.Table
