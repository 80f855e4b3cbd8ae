import Mathlib.Data.List.TakeWhile
import TelemetryCharts.Proofs.Table.Columns

/-!
# Columns of arbitrary texts

A text with quotes in it never looks like a truth value or a number, so a written text looks like
what it is even though its quotes are doubled. A column is read as texts if one of its first cells
is such a text, or if all of them are empty.
-/

namespace TelemetryCharts.Table

/-- Says that a text is a truth value or a number as far as the reader of a table can tell. -/
def IsLiteral (text : List Char) : Prop :=
  isBoolean text = true ∨ isFloat text = true ∨ isInteger text = true

instance (text : List Char) : Decidable (IsLiteral text) :=
  inferInstanceAs (Decidable (_ ∨ _ ∨ _))

theorem Kind.of_eq_text {text : List Char} (h : ¬ IsLiteral text) : Kind.of text = .text := by
  simp only [IsLiteral, not_or, Bool.not_eq_true] at h
  obtain ⟨hboolean, hfloat, hinteger⟩ := h
  simp [Kind.of, hboolean, hfloat, hinteger]

section
variable {text : List Char} (h : '"' ∈ text)
include h

theorem quote_mem_dropSign : '"' ∈ dropSign text := by
  unfold dropSign
  split
  · simpa using h
  · simpa using h
  · exact h

theorem quote_mem_dropWhile : '"' ∈ text.dropWhile Text.isDecimalDigit := by
  have hmem := h
  rw [← List.takeWhile_append_dropWhile (p := Text.isDecimalDigit) (l := text), List.mem_append] at hmem
  rcases hmem with hmem | hmem
  · exact absurd (List.mem_takeWhile_imp hmem) (by decide)
  · exact hmem

theorem isDigits_of_quote_mem : isDigits text = false := by
  have hall : text.all Text.isDecimalDigit = false :=
    List.all_eq_false.2 ⟨'"', h, by decide⟩
  rw [isDigits, hall, Bool.and_false]

theorem isExponent_of_quote_mem : isExponent text = false := by
  cases text with
  | nil => cases h
  | cons c text =>
    rw [isExponent]
    rcases List.mem_cons.1 h with rfl | hmem
    · rfl
    · rw [isDigits_of_quote_mem (quote_mem_dropSign hmem), Bool.and_false]

theorem isBoolean_of_quote_mem : isBoolean text = false := by
  have hmem : '"' ∈ text.map foldCase := List.mem_map.2 ⟨'"', h, by decide⟩
  rw [isBoolean, decide_eq_false_iff_not]
  intro hword
  simp only [List.mem_cons, List.not_mem_nil, or_false] at hword
  rcases hword with hword | hword <;> (rw [hword] at hmem; revert hmem; decide)

theorem isInteger_of_quote_mem : isInteger text = false := by
  unfold isInteger
  split
  · exact isDigits_of_quote_mem (by simpa using h)
  · exact isDigits_of_quote_mem h

theorem isFloat_of_quote_mem : isFloat text = false := by
  have hsign := quote_mem_dropSign h
  have hdrop := quote_mem_dropWhile hsign
  have hname : (dropSign text ∈ ["inf".toList, "NaN".toList]) = False := by
    rw [eq_iff_iff, iff_false]
    intro hword
    simp only [List.mem_cons, List.not_mem_nil, or_false] at hword
    rcases hword with hword | hword <;> (rw [hword] at hsign; revert hsign; decide)
  simp only [isFloat, hname, decide_false, Bool.false_or]
  split
  · next fraction heq =>
    rw [heq] at hdrop
    have hfraction : '"' ∈ fraction := by simpa using hdrop
    have hafter := quote_mem_dropWhile hfraction
    have hempty : (fraction.dropWhile Text.isDecimalDigit).isEmpty = false := by
      rw [List.isEmpty_eq_false_iff]
      exact List.ne_nil_of_mem hafter
    rw [hempty, isExponent_of_quote_mem hafter]
    simp
  · rw [isExponent_of_quote_mem hdrop, Bool.and_false]

/-- A text with a quote in it is no truth value and no number. -/
theorem not_isLiteral_of_quote_mem : ¬ IsLiteral text := by
  simp [IsLiteral, isBoolean_of_quote_mem h, isFloat_of_quote_mem h, isInteger_of_quote_mem h]

theorem quote_mem_doubleQuotes : '"' ∈ doubleQuotes text :=
  List.mem_flatMap.2 ⟨'"', h, by simp⟩

end

theorem doubleQuotes_eq_self {text : List Char} (h : '"' ∉ text) : doubleQuotes text = text := by
  induction text with
  | nil => rfl
  | cons c text ih =>
    simp only [List.mem_cons, not_or] at h
    rw [doubleQuotes_cons, if_neg (Ne.symm h.1), ih h.2]
    rfl

/-- A written text that is no literal looks like text. -/
theorem writtenKind?_of_not_isLiteral {text : List Char} (hne : text ≠ []) (h : ¬ IsLiteral text) :
    writtenKind? text = some .text := by
  have hchars := mt Field.written_chars_eq_nil.1 hne
  rw [writtenKind?, cellKind?, if_neg hchars, Field.bare_written, Text.gapless?_map_some]
  by_cases hquote : '"' ∈ text
  · have hany : text.any needsQuotes = true := List.any_eq_true.2 ⟨'"', hquote, rfl⟩
    rw [if_pos hany, Option.map_some, Option.getD_some,
      Kind.of_eq_text (not_isLiteral_of_quote_mem (quote_mem_doubleQuotes hquote))]
  · rw [doubleQuotes_eq_self hquote, ite_self, Option.map_some, Option.getD_some, Kind.of_eq_text h]

/-- Says that the first cells of a column show that it holds texts: they are all empty, or one of
them is neither empty nor a literal. -/
def LooksLikeText (cells : List (List Char)) : Prop :=
  (∀ text ∈ cells.take sampleSize, text = []) ∨
    ∃ text ∈ cells.take sampleSize, text ≠ [] ∧ ¬ IsLiteral text

/-- Written texts are read as they are, and empty ones as missing cells. -/
theorem textColumn_eq {cells : List (List Char)} (h : LooksLikeText cells) :
    writtenColumn? cells =
      some (.text (cells.map fun text => if text = [] then none else some (String.ofList text))) := by
  have hkind : Kind.unify ((cells.take sampleSize).filterMap writtenKind?) = .text := by
    rcases h with hempty | ⟨text, htext, hne, hliteral⟩
    · have hnone : (cells.take sampleSize).filterMap writtenKind? = [] := by
        rw [List.filterMap_eq_nil_iff]
        intro text htext
        rw [hempty text htext, writtenKind?_nil]
      rw [hnone]
      rfl
    · exact unify_of_text_mem
        (List.mem_filterMap.2 ⟨text, htext, writtenKind?_of_not_isLiteral hne hliteral⟩)
  rw [writtenColumn?, hkind]
  simp only [Kind.column?, Kind.column?.read, List.mapM_map]
  rw [mapM_eq_some_map (g := fun text => if text = [] then none else some (String.ofList text))]
  · rfl
  · intro text _
    simp [textCell?_written]

end TelemetryCharts.Table
