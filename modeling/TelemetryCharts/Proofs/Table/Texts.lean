import TelemetryCharts.Proofs.Decimal.Doubles
import TelemetryCharts.Proofs.Table.Contents
import TelemetryCharts.Telemetry.Event

/-!
# What cells say

A cell that is cast to text says what its text is if its column was read as text, and otherwise how
the number or the truth value in it is written. No number and no truth value is written like the label
of an event, and none is read from such a label. So a cell says a label exactly if the label is its
text, whatever the kind of its column.
-/

namespace TelemetryCharts

open Decimal

/-- No number and no truth value is read from the label of an event. -/
theorem Event.label_not_literal (kind : Event) :
    integer? kind.label.toList = none ∧ float? kind.label.toList = none ∧
      Table.readBoolean? kind.label.toList = none := by
  cases kind <;> decide +kernel

namespace Table

/-- The text that a cell in a column of a kind is cast to. A cell that cannot be read has none. -/
def Kind.text? (k : Kind) (cell : Option Field) : Option (Option String) :=
  match k with
  | text => cell.elim (some none) textCell?
  | integer => (cell.elim (some none) (numberCell? readInteger?)).map
      (·.map fun i => String.ofList (signedDigits i.toInt))
  | float => (cell.elim (some none) (numberCell? float?)).map
      (·.map fun x => String.ofList (tabular x))
  | boolean => (cell.elim (some none) booleanCell?).map (·.map fun b => if b then "true" else "false")

/-- The texts of a column are those of its cells. -/
theorem Kind.mapM_text? {k : Kind} {cells : List (Option Field)} {column : Column}
    (h : k.column? cells = some column) : cells.mapM k.text? = some column.toTexts := by
  cases k with
  | text =>
    obtain ⟨values, hvalues, rfl⟩ := Option.map_eq_some_iff.1 h
    exact hvalues
  | integer | float | boolean =>
    obtain ⟨values, hvalues, rfl⟩ := Option.map_eq_some_iff.1 h
    exact mapM_map_eq_some hvalues

section
variable {kind : Event} {f : Field}

/-- The text of a label as it stands in a cell. -/
def labelText (kind : Event) : Decoded :=
  kind.label.toList.map some

theorem labelText_ne_nil (kind : Event) : labelText kind ≠ [] := by
  cases kind <;> decide

/-- The text that is read from a field is a label exactly if the label stands in the field. -/
theorem textCell?_eq_label_iff {v : Option String} (h : textCell? f = some v) :
    v = some kind.label ↔ f.content = labelText kind := by
  rcases textCell?_content h with hplain | ⟨hempty, rfl⟩
  · rw [textCell?] at hplain
    split at hplain
    · next hnil =>
      cases hplain
      exact iff_of_false (Option.some_ne_none _).symm fun hlabel =>
        labelText_ne_nil kind (hlabel.symm.trans hnil)
    · obtain ⟨cs, hcs, rfl⟩ := Option.map_eq_some_iff.1 hplain
      have hcontent : f.content = cs.map some := Text.gapless?_eq_some_iff.1 hcs
      rw [hcontent, labelText, List.map_inj_right fun _ _ => Option.some.inj, Option.some_inj,
        String.ext_iff, String.toList_ofList]
  · rw [hempty]
    apply iff_of_false
    · cases kind <;> decide
    · exact (labelText_ne_nil kind).symm

/-- No number is read from a field in which a label stands. -/
theorem Bare.content_ne_label {α : Type} {read? : List Char → Option α} (hread : Bare read?)
    (hlabel : read? kind.label.toList = none) {v : Option α} (h : numberCell? read? f = some v) :
    f.content ≠ labelText kind := by
  intro hcontent
  have hdrop : (labelText kind).dropWhile isSpace = labelText kind := by
    cases kind <;> rfl
  have hnone : readDecoded read? (labelText kind) = none := by
    rw [readDecoded, labelText, Text.gapless?_map_some, Option.bind_some, hlabel]
  have hplain := hread.numberCell?_content h
  rw [hcontent, hread.numberCell?_plain, readBare, hnone, hdrop] at hplain
  dsimp only at hplain
  split at hplain
  · next hnil => exact labelText_ne_nil kind hnil
  · rw [hnone] at hplain
    cases hplain

/-- No truth value is read from a field in which a label stands. -/
theorem content_ne_label_of_booleanCell? {v : Option Bool} (h : booleanCell? f = some v) :
    f.content ≠ labelText kind := by
  intro hcontent
  have hplain := booleanCell?_content h
  rw [hcontent, booleanCell?, Field.bare_plain, if_neg (by simpa using labelText_ne_nil kind),
    readDecoded, labelText, Text.gapless?_map_some, Option.bind_some,
    kind.label_not_literal.2.2] at hplain
  cases hplain

theorem signedDigits_ne_label (i : Int) : String.ofList (signedDigits i) ≠ kind.label := by
  intro heq
  have hinteger := integer?_signedDigits i
  rw [← String.toList_ofList (l := signedDigits i), heq, kind.label_not_literal.1] at hinteger
  cases hinteger

theorem tabular_ne_label (x : Float) : String.ofList (tabular x) ≠ kind.label := by
  intro heq
  have hfloat := float?_tabular_isSome x
  rw [← String.toList_ofList (l := tabular x), heq, kind.label_not_literal.2.1] at hfloat
  cases hfloat

/-- Whatever the kind of its column is, a cell says the label of an event exactly if the label is its
text. -/
theorem Kind.text?_eq_label_iff {k : Kind} {cell : Option Field} {v : Option String}
    (h : k.text? cell = some v) : v = some kind.label ↔ contentOf cell = labelText kind := by
  cases cell with
  | none =>
    have hv : v = none := by
      cases k <;> (cases h; rfl)
    rw [hv]
    exact iff_of_false nofun (labelText_ne_nil kind).symm
  | some f =>
    cases k with
    | text => exact textCell?_eq_label_iff h
    | integer =>
      obtain ⟨i, hi, rfl⟩ := Option.map_eq_some_iff.1 h
      apply iff_of_false
      · intro hsays
        obtain ⟨j, -, hj⟩ := Option.map_eq_some_iff.1 hsays
        exact signedDigits_ne_label _ hj
      · apply bare_readInteger?.content_ne_label _ hi
        rw [readInteger?, kind.label_not_literal.1]
        rfl
    | float =>
      obtain ⟨x, hx, rfl⟩ := Option.map_eq_some_iff.1 h
      apply iff_of_false
      · intro hsays
        obtain ⟨y, -, hy⟩ := Option.map_eq_some_iff.1 hsays
        exact tabular_ne_label _ hy
      · exact bare_float?.content_ne_label kind.label_not_literal.2.1 hx
    | boolean =>
      obtain ⟨b, hb, rfl⟩ := Option.map_eq_some_iff.1 h
      apply iff_of_false
      · intro hsays
        obtain ⟨c, -, hc⟩ := Option.map_eq_some_iff.1 hsays
        revert hc
        cases kind <;> cases c <;> decide
      · exact content_ne_label_of_booleanCell? hb

end

end Table

end TelemetryCharts
