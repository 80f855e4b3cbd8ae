import TelemetryCharts.Proofs.Text.Utf8
import TelemetryCharts.Table.Printer
import TelemetryCharts.Table.Reader

/-!
# Reading written fields

A written field is scanned up to its end whatever its text is, and its text is read from it again.
-/

namespace TelemetryCharts.Table

/-- The field as which a text is written. -/
def Field.written (text : List Char) : Field :=
  ⟨(renderField text).map some, text.any needsQuotes⟩

theorem Field.written_plain {text : List Char} (h : text.any needsQuotes = false) :
    Field.written text = ⟨text.map some, false⟩ := by
  simp only [Field.written, renderField, h, Bool.false_eq_true, if_false]

theorem Field.written_quoted {text : List Char} (h : text.any needsQuotes = true) :
    Field.written text = ⟨some '"' :: ((doubleQuotes text).map some ++ [some '"']), true⟩ := by
  simp [Field.written, renderField, h]

/-- The end of a field: what it ends at, and what follows. -/
def FieldEnd (tail : Decoded) (stop : Stop) (rest : Decoded) : Prop :=
  ∀ quoted, scanField quoted false tail = ([], stop, rest)

theorem fieldEnd_comma (rest : Decoded) : FieldEnd (some ',' :: rest) .comma rest := by
  intro quoted
  simp [scanField]

theorem fieldEnd_lineEnd (rest : Decoded) : FieldEnd (some '\n' :: rest) .lineEnd rest := by
  intro quoted
  simp [scanField]

theorem fieldEnd_textEnd : FieldEnd [] .textEnd [] :=
  fun _ => rfl

theorem FieldEnd.head_ne_quote {tail rest : Decoded} {stop : Stop} (h : FieldEnd tail stop rest) :
    tail.head? ≠ some (some '"') := by
  intro hhead
  cases tail with
  | nil => cases hhead
  | cons c tail =>
    obtain rfl : c = some '"' := by simpa using hhead
    have hscan := h false
    simp [scanField] at hscan

theorem doubleQuotes_cons (c : Char) (text : List Char) :
    doubleQuotes (c :: text) = (if c = '"' then ['"', '"'] else [c]) ++ doubleQuotes text :=
  rfl

section
variable {tail rest : Decoded} {stop : Stop}

/-- In a field without quotes every character up to the end is taken as it is. -/
theorem scanField_plain (h : FieldEnd tail stop rest) {text : List Char}
    (hplain : text.any needsQuotes = false) :
    scanField false false (text.map some ++ tail) = (text.map some, stop, rest) := by
  induction text with
  | nil => exact h false
  | cons c text ih =>
    simp only [List.any_cons, Bool.or_eq_false_iff, needsQuotes, decide_eq_false_iff_not] at hplain
    obtain ⟨⟨⟨⟨hcomma, -⟩, -⟩, hline⟩, htext⟩ := hplain
    rw [List.map_cons, List.cons_append, scanField]
    simp [hcomma, hline, ih htext]

/-- Between quotes, the doubled quotes of a text leave the scan inside, and its commas and line ends
do not end the field. -/
theorem scanField_inside (h : FieldEnd tail stop rest) (text : List Char) :
    scanField true true ((doubleQuotes text).map some ++ some '"' :: tail) =
      ((doubleQuotes text).map some ++ [some '"'], stop, rest) := by
  induction text with
  | nil => simp [doubleQuotes, scanField, h true]
  | cons c text ih =>
    rw [doubleQuotes_cons]
    by_cases hc : c = '"'
    · simp [hc, scanField, ih]
    · simp [hc, scanField, ih]

/-- A written field is scanned up to its end, whatever its text is. -/
theorem nextField_written (h : FieldEnd tail stop rest) (text : List Char) :
    nextField ((renderField text).map some ++ tail) = (Field.written text, stop, rest) := by
  unfold Field.written nextField renderField
  cases hquotes : text.any needsQuotes with
  | false =>
    have hhead : decide ((text.map some ++ tail).head? = some (some '"')) = false := by
      rw [decide_eq_false_iff_not]
      cases text with
      | nil => exact h.head_ne_quote
      | cons c text =>
        intro hc
        obtain rfl : c = '"' := by simpa using hc
        simp [needsQuotes] at hquotes
    simp only [Bool.false_eq_true, if_false, hhead, scanField_plain h hquotes]
  | true =>
    simp [scanField, scanField_inside h text]

end

/-- Doubled quotes stand for the quotes of the text. -/
theorem undoubleQuotes_doubleQuotes (text : List Char) :
    undoubleQuotes ((doubleQuotes text).map some) = text.map some := by
  induction text with
  | nil => rfl
  | cons c text ih =>
    rw [doubleQuotes_cons]
    by_cases hc : c = '"'
    · simp [hc, undoubleQuotes, ih]
    · simp only [if_neg hc, List.singleton_append, List.map_cons]
      rw [undoubleQuotes, ih]
      · simp [hc]
      · simp [hc]

/-- The last character of a written field is never a carriage return. -/
theorem getLast?_renderField (text : List Char) : (renderField text).getLast? ≠ some '\r' := by
  unfold renderField
  split
  · rw [List.cons_append, ← List.cons_append, List.getLast?_concat]
    decide
  · next h =>
    intro hlast
    exact h (List.any_eq_true.2 ⟨'\r', List.mem_of_getLast? hlast, rfl⟩)

theorem dropReturn_map_some {text : List Char} (h : text.getLast? ≠ some '\r') :
    dropReturn (text.map some) = text.map some := by
  rw [dropReturn, if_neg]
  rw [List.getLast?_map]
  intro hlast
  obtain ⟨c, hc, hreturn⟩ := Option.map_eq_some_iff.1 hlast
  rw [Option.some.inj hreturn] at hc
  exact h hc

theorem Field.trim_written (text : List Char) : (Field.written text).trim = Field.written text := by
  simp only [Field.trim, Field.written, dropReturn_map_some (getLast?_renderField text)]

theorem Field.written_chars_eq_nil {text : List Char} : (Field.written text).chars = [] ↔ text = [] := by
  cases h : text.any needsQuotes with
  | false => simp [Field.written_plain h]
  | true =>
    rw [Field.written_quoted h]
    refine ⟨fun hnil => by simp at hnil, fun hnil => ?_⟩
    simp [hnil] at h

/-- What stands between the quotes of a written field, or the whole field where it has none. -/
theorem Field.bare_written (text : List Char) :
    (Field.written text).bare =
      (if text.any needsQuotes then doubleQuotes text else text).map some := by
  cases h : text.any needsQuotes with
  | false => simp [Field.bare, Field.written_plain h]
  | true => simp [Field.bare, Field.written_quoted h]

/-- The text of a written field is read from it again. An empty text is a missing cell. -/
theorem textCell?_written (text : List Char) :
    textCell? (Field.written text) = some (if text = [] then none else some (String.ofList text)) := by
  rw [textCell?]
  by_cases hnil : text = []
  · rw [if_pos (Field.written_chars_eq_nil.2 hnil), if_pos hnil]
  rw [if_neg (fun h => hnil (Field.written_chars_eq_nil.1 h)), if_neg hnil]
  cases h : text.any needsQuotes with
  | false => simp [Field.written_plain h, Text.gapless?_map_some]
  | true =>
    have hlast : ((doubleQuotes text).map some ++ [some '"']).dropLast = (doubleQuotes text).map some :=
      List.dropLast_concat
    have hend : (some '"' :: ((doubleQuotes text).map some ++ [some '"'])).getLast? =
        some (some '"') := by
      rw [← List.cons_append, List.getLast?_concat]
    simp [Field.written_quoted h, hlast, hend, undoubleQuotes_doubleQuotes, Text.gapless?_map_some]

end TelemetryCharts.Table
