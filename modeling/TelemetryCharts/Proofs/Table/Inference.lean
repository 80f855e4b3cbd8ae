import Mathlib.Data.List.Basic
import TelemetryCharts.Proofs.Decimal.Doubles
import TelemetryCharts.Proofs.Table.Rows
import TelemetryCharts.Proofs.Traversal

/-!
# Columns of written tables

The type of a column follows from the texts that were written into its first cells, and its cells
are read from these texts alone.
-/

namespace TelemetryCharts

namespace Table

open Decimal

/-- The column that is read from written cells. -/
def writtenColumn? (cells : List (List Char)) : Option Column :=
  (Kind.unify ((cells.take sampleSize).filterMap writtenKind?)).column?
    (cells.map fun text => some (Field.written text))

/-- The columns of a written table are read one by one, each from its own cells. -/
theorem readColumns_render {names : List String} {table : List (List (List Char))}
    (hnames : names ≠ []) (hrows : ∀ row ∈ table, row.length = names.length) :
    readColumns names ((render table).map some) =
      names.zipIdx.mapM fun (name, position) =>
        (writtenColumn? (table.map fun row => row[position]?.getD [])).map fun column =>
          (name, column) := by
  have hpos : 0 < names.length := List.length_pos_iff.2 hnames
  have hne : ∀ row ∈ table, row ≠ [] := by
    intro row hrow hnil
    have hlength := hrows row hrow
    rw [hnil, List.length_nil] at hlength
    omega
  have hfits : ∀ row ∈ table, row ≠ [] ∧ row.length ≤ names.length - 1 + 1 := by
    intro row hrow
    have hlength := hrows row hrow
    exact ⟨hne row hrow, by omega⟩
  have hbody := rows_render hfits
  have hfull : (table.map fun row => Row.mk (row.map Field.written) false).any (·.overfull) = false := by
    simp
  simp only [readColumns, hbody, hfull, Bool.false_eq_true, if_false]
  apply mapM_congr
  rintro ⟨name, position⟩ hmem
  have hposition : position < names.length := (List.mem_zipIdx' hmem).1
  have hkinds : ((lines sampleSize ((render table).map some)).map fun line =>
        lineFields (trimLine line)).filterMap (fun fields => fields[position]?.bind cellKind?) =
      ((table.map fun row => row[position]?.getD []).take sampleSize).filterMap writtenKind? := by
    rw [lines_render, ← List.map_take, List.map_map, List.filterMap_map, List.filterMap_map]
    apply List.filterMap_congr
    intro row hrow
    have hrow' := hne row (List.mem_of_mem_take hrow)
    simp only [Function.comp_apply, lineFields_bind_cellKind? hrow']
    cases row[position]? with
    | none => rfl
    | some text => rfl
  have hfields : (table.map fun row => Row.mk (row.map Field.written) false).map
        (fun row => row.fields[position]?.map Field.trim) =
      (table.map fun row => row[position]?.getD []).map fun text => some (Field.written text) := by
    rw [List.map_map, List.map_map]
    apply List.map_congr_left
    intro row hrow
    have hlength := hrows row hrow
    simp only [Function.comp_apply, List.getElem?_map]
    rw [List.getElem?_eq_getElem (by omega), Option.map_some, Option.map_some, Field.trim_written,
      Option.getD_some]
  simp only [columnKind, writtenColumn?, hkinds, hfields]

/-- A text that is written as it is and that holds no blanks. -/
structure IsWord (text : List Char) : Prop where
  ne_nil : text ≠ []
  plain : ∀ c ∈ text, needsQuotes c = false
  unspaced : ∀ c ∈ text, isSpace (some c) = false

theorem IsWord.any_needsQuotes {text : List Char} (h : IsWord text) :
    text.any needsQuotes = false := by
  rw [List.any_eq_false]
  intro c hc
  simp [h.plain c hc]

/-- A word looks like what its text looks like. -/
theorem IsWord.writtenKind? {text : List Char} (h : IsWord text) :
    Table.writtenKind? text = some (Kind.of text) := by
  have hchars := mt Field.written_chars_eq_nil.1 h.ne_nil
  rw [Table.writtenKind?, cellKind?, if_neg hchars, Field.bare_written, h.any_needsQuotes]
  simp [Text.gapless?_map_some]

/-- A number is read from a word as from its text. -/
theorem IsWord.numberCell? {α : Type} {read? : List Char → Option α} {text : List Char}
    (h : IsWord text) :
    Table.numberCell? read? (Field.written text) = (read? text).map some := by
  have hdrop : (text.map some).dropWhile isSpace = text.map some := by
    cases text with
    | nil => rfl
    | cons c text => simp [h.unspaced c (by simp)]
  have hfield := Field.written_plain h.any_needsQuotes
  have hread : readDecoded read? (text.map some) = read? text := by
    simp [readDecoded, Text.gapless?_map_some]
  have hne := h.ne_nil
  simp only [Table.numberCell?, hfield, Field.bare, Bool.false_and, Bool.false_eq_true, if_false,
    List.map_eq_nil_iff, hne, hread, hdrop]
  cases hvalue : read? text with
  | some x => rfl
  | none =>
    cases text with
    | nil => exact absurd rfl hne
    | cons c text => simp only [List.map_cons] at hread ⊢; simp [hread, hvalue]

end Table

end TelemetryCharts
