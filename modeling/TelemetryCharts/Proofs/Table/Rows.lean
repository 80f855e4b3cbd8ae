import TelemetryCharts.Proofs.Table.Quoting

/-!
# Reading written rows

A written table is split into the rows that it was written from, and into lines that are these rows,
even where fields hold commas, quotes and line ends.
-/

namespace TelemetryCharts.Table

theorem renderFields_cons (field next : List Char) (fields : List (List Char)) :
    renderFields (field :: next :: fields) = renderField field ++ ',' :: renderFields (next :: fields) :=
  rfl

/-- Only one empty field is written as nothing. -/
theorem eq_singleton_nil_of_renderFields {fields : List (List Char)} (hne : fields ≠ [])
    (hnil : renderFields fields = []) : fields = [[]] := by
  cases fields with
  | nil => exact absurd rfl hne
  | cons field fields =>
    cases fields with
    | nil =>
      have hempty : (Field.written field).chars = [] := by
        rw [renderFields] at hnil
        rw [Field.written, hnil, List.map_nil]
      rw [Field.written_chars_eq_nil.1 hempty]
    | cons next fields => simp [renderFields_cons] at hnil

/-- A written row is read as its fields, and what follows its line end is left. -/
theorem nextRow_renderFields (rest : Decoded) {fields : List (List Char)} (hne : fields ≠ []) :
    ∀ {more : Nat}, fields.length ≤ more + 1 →
      nextRow more ((renderFields fields).map some ++ some '\n' :: rest) =
        (⟨fields.map Field.written, false⟩, rest) := by
  induction fields with
  | nil => exact absurd rfl hne
  | cons field fields ih =>
    intro more hlength
    cases fields with
    | nil =>
      rw [nextRow, renderFields, nextField_written (fieldEnd_lineEnd rest)]
      rfl
    | cons next fields =>
      cases more with
      | zero => simp at hlength
      | succ more =>
        have hnext := ih (List.cons_ne_nil _ _) (by simpa using hlength)
        rw [renderFields_cons, List.map_append, List.map_cons, List.append_assoc, List.cons_append,
          nextRow, nextField_written (fieldEnd_comma _)]
        simp [hnext]

/-- The rows of a written table are those that it was written from. -/
theorem rows_render {more : Nat} {table : List (List (List Char))}
    (hrows : ∀ row ∈ table, row ≠ [] ∧ row.length ≤ more + 1) :
    rows more ((render table).map some) = table.map fun row => ⟨row.map Field.written, false⟩ := by
  induction table with
  | nil =>
    rw [render, List.flatMap_nil, List.map_nil, rows]
    rfl
  | cons row table ih =>
    obtain ⟨hne, hlength⟩ := hrows row (by simp)
    have htext : (render (row :: table)).map some =
        (renderFields row).map some ++ some '\n' :: (render table).map some := by
      simp [render, renderRow]
    have hnext := nextRow_renderFields ((render table).map some) hne hlength
    have hcons : ∃ c cs, (render (row :: table)).map some = c :: cs := by
      cases h : (render (row :: table)).map some with
      | nil => simp [htext] at h
      | cons c cs => exact ⟨c, cs, rfl⟩
    obtain ⟨c, cs, hcs⟩ := hcons
    rw [hcs, rows, ← hcs, htext, hnext, ih fun row hrow => hrows row (List.mem_cons_of_mem _ hrow)]
    rfl

/-- A line without its line end is read as the fields of its row, but for an empty one at its end. -/
theorem exists_nextRow_line {fields : List (List Char)} (hne : fields ≠ []) :
    ∀ {more : Nat}, fields.length ≤ more + 1 →
      ∃ seen, (nextRow more ((renderFields fields).map some)).1.fields = seen.map Field.written ∧
        (seen = fields ∨ fields = seen ++ [[]]) := by
  induction fields with
  | nil => exact absurd rfl hne
  | cons field fields ih =>
    intro more hlength
    cases fields with
    | nil =>
      refine ⟨[field], ?_, .inl rfl⟩
      have hfield := nextField_written fieldEnd_textEnd field
      rw [List.append_nil] at hfield
      rw [nextRow, renderFields, hfield]
      rfl
    | cons next fields =>
      cases more with
      | zero => simp at hlength
      | succ more =>
        obtain ⟨seen, hseen, hcases⟩ := ih (List.cons_ne_nil _ _) (by simpa using hlength)
        rw [renderFields_cons, List.map_append, List.map_cons, nextRow,
          nextField_written (fieldEnd_comma _)]
        cases hrest : (renderFields (next :: fields)).map some with
        | nil =>
          -- The line ends right after the comma, so its last field is empty.
          refine ⟨[field], by simp, .inr ?_⟩
          rw [eq_singleton_nil_of_renderFields (List.cons_ne_nil _ _) (List.map_eq_nil_iff.1 hrest)]
          rfl
        | cons c cs =>
          rw [hrest] at hseen
          refine ⟨field :: seen, by simp [hseen], ?_⟩
          rcases hcases with rfl | hcases
          · exact .inl rfl
          · exact .inr (by rw [hcases]; rfl)

theorem length_le_length_renderFields (fields : List (List Char)) :
    fields.length ≤ (renderFields fields).length + 1 := by
  fun_induction renderFields fields with
  | case1 => simp
  | case2 => simp
  | case3 field fields _ ih =>
    simp only [List.length_cons, List.length_append]
    omega

/-- A line is no more than the text of its row, since a row does not end with a carriage return. -/
theorem trimLine_renderFields (fields : List (List Char)) :
    trimLine ((renderFields fields).map some) = (renderFields fields).map some := by
  have hlast : (renderFields fields).getLast? ≠ some '\r' := by
    fun_induction renderFields fields with
    | case1 => simp
    | case2 field => exact getLast?_renderField field
    | case3 field fields _ ih =>
      rw [List.getLast?_append, List.getLast?_cons]
      cases h : (renderFields fields).getLast? with
      | none => simp
      | some c => simpa [h] using ih
  rw [trimLine, dropReturn_map_some hlast, ite_self]

/-- The kind of a written cell. An empty one has none. -/
def writtenKind? (text : List Char) : Option Kind :=
  cellKind? (Field.written text)

theorem writtenKind?_nil : writtenKind? [] = none :=
  rfl

/-- The kinds of the cells of a line are those of the texts in its row. -/
theorem lineFields_bind_cellKind? {fields : List (List Char)} (hne : fields ≠ []) (i : Nat) :
    (lineFields (trimLine ((renderFields fields).map some)))[i]?.bind cellKind? =
      fields[i]?.bind writtenKind? := by
  rw [trimLine_renderFields, lineFields]
  split
  · next hnil =>
    rw [eq_singleton_nil_of_renderFields hne (List.map_eq_nil_iff.1 hnil)]
    cases i <;> rfl
  · have hlength := length_le_length_renderFields fields
    obtain ⟨seen, hseen, hcases⟩ :=
      exists_nextRow_line hne (show _ ≤ ((renderFields fields).map some).length + 1 by simpa using hlength)
    rw [hseen, List.getElem?_map, Option.bind_map]
    rcases hcases with rfl | hcases
    · rfl
    · rw [hcases, List.getElem?_append]
      split
      · rfl
      · next hi =>
        rw [List.getElem?_eq_none (Nat.le_of_not_lt hi)]
        cases i - seen.length <;> rfl

/-- The fields of a line are those of its row where the last one is not empty. -/
theorem lineFields_renderFields {fields : List (List Char)} (hlast : fields.getLast? ≠ some [])
    (hne : fields ≠ []) :
    lineFields (trimLine ((renderFields fields).map some)) = fields.map Field.written := by
  rw [trimLine_renderFields, lineFields]
  split
  · next hnil =>
    rw [eq_singleton_nil_of_renderFields hne (List.map_eq_nil_iff.1 hnil)] at hlast
    exact absurd rfl hlast
  · have hlength := length_le_length_renderFields fields
    obtain ⟨seen, hseen, hcases⟩ :=
      exists_nextRow_line hne (show _ ≤ ((renderFields fields).map some).length + 1 by simpa using hlength)
    rcases hcases with rfl | hcases
    · exact hseen
    · rw [hcases, List.getLast?_concat] at hlast
      exact absurd rfl hlast

/-- The text of a line before a part of it that leaves the scan outside of quotes. -/
theorem nextLine_inside (text : List Char) (tail : Decoded) :
    nextLine true ((doubleQuotes text).map some ++ some '"' :: tail) =
      ((doubleQuotes text).map some ++ some '"' :: (nextLine false tail).1, (nextLine false tail).2) := by
  induction text with
  | nil => simp [doubleQuotes, nextLine]
  | cons c text ih =>
    rw [doubleQuotes_cons]
    by_cases hc : c = '"'
    · simp [hc, nextLine, ih]
    · simp [hc, nextLine, ih]

theorem nextLine_plain {text : List Char} (hplain : text.any needsQuotes = false) (tail : Decoded) :
    nextLine false (text.map some ++ tail) =
      (text.map some ++ (nextLine false tail).1, (nextLine false tail).2) := by
  induction text with
  | nil => rfl
  | cons c text ih =>
    simp only [List.any_cons, Bool.or_eq_false_iff, needsQuotes, decide_eq_false_iff_not] at hplain
    obtain ⟨⟨⟨⟨-, hquote⟩, -⟩, hline⟩, htext⟩ := hplain
    rw [List.map_cons, List.cons_append, nextLine]
    simp [hquote, hline, ih htext]

/-- A line does not end within a written field. -/
theorem nextLine_renderField (text : List Char) (tail : Decoded) :
    nextLine false ((renderField text).map some ++ tail) =
      ((renderField text).map some ++ (nextLine false tail).1, (nextLine false tail).2) := by
  unfold renderField
  cases h : text.any needsQuotes with
  | false => simp [nextLine_plain h]
  | true => simp [nextLine, nextLine_inside]

/-- A line ends where the row ends that was written on it. -/
theorem nextLine_renderFields (fields : List (List Char)) (rest : Decoded) :
    nextLine false ((renderFields fields).map some ++ some '\n' :: rest) =
      ((renderFields fields).map some, rest) := by
  have hend : nextLine false (some '\n' :: rest) = ([], rest) := by simp [nextLine]
  fun_induction renderFields fields with
  | case1 => exact hend
  | case2 field => rw [nextLine_renderField, hend, List.append_nil]
  | case3 field fields _ ih =>
    rw [List.map_append, List.map_cons, List.append_assoc, List.cons_append, nextLine_renderField]
    have hcomma : nextLine false (some ',' :: ((renderFields fields).map some ++ some '\n' :: rest)) =
        (some ',' :: (renderFields fields).map some, rest) := by
      simp [nextLine, ih]
    rw [hcomma]

/-- The first lines of a written table are its first rows. -/
theorem lines_render (count : Nat) (table : List (List (List Char))) :
    lines count ((render table).map some) =
      (table.take count).map fun row => (renderFields row).map some := by
  induction table generalizing count with
  | nil => cases count <;> rfl
  | cons row table ih =>
    cases count with
    | zero => rfl
    | succ count =>
      have htext : (render (row :: table)).map some =
          (renderFields row).map some ++ some '\n' :: (render table).map some := by
        simp [render, renderRow]
      have hnext := nextLine_renderFields row ((render table).map some)
      rw [lines, htext, hnext, ih]
      · rfl
      · simp [htext]

end TelemetryCharts.Table
