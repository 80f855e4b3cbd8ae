import Mathlib.Data.List.Chain
import TelemetryCharts.Proofs.Table.Contents
import TelemetryCharts.Proofs.Table.Scans
import TelemetryCharts.Proofs.Table.Sheets

/-!
# Sampled lines and rows

The kinds of columns are found from the first lines of a table, which are split from the text by
themselves. The lines are the rows if no quote stands in a field that does not begin with one. Then the
kind of a column depends on no cells but its own, as long as carriage returns stand at line ends only
and none is a line of its own.
-/

namespace TelemetryCharts.Table

/-- What the cell at a position looks like, if there is one. -/
def looksAt (fields : List Field) (position : Nat) : Option Kind :=
  fields[position]?.bind cellKind?

/-- Says that no quote stands in a field of a row that does not begin with one. -/
def Row.Unmixed (row : Row) : Prop :=
  ∀ f ∈ row.fields, f.quoted = false → some '"' ∉ f.chars

/-- Says that a carriage return is followed by a line end unless it is the last character. -/
def ReturnsAtLineEnds (text : Decoded) : Prop :=
  text.IsChain fun c d => c = some '\r' → d = some '\n'

instance (row : Row) : Decidable row.Unmixed :=
  inferInstanceAs (Decidable (∀ _ ∈ _, _))

instance (text : Decoded) : Decidable (ReturnsAtLineEnds text) :=
  inferInstanceAs (Decidable (List.IsChain _ _))

section
variable {text rest : Decoded} {f : Field} {stop : Stop}

theorem dropReturn_initial (text : Decoded) : dropReturn text <+: text := by
  rw [dropReturn]
  split
  · exact List.dropLast_prefix text
  · exact List.prefix_rfl

theorem dropReturn_append_comma (front back : Decoded) :
    dropReturn (front ++ some ',' :: back) = front ++ some ',' :: dropReturn back := by
  have hlast : (front ++ some ',' :: back).getLast? = some (back.getLast?.getD (some ',')) := by
    rw [List.getLast?_append, List.getLast?_cons, Option.some_or]
  cases back with
  | nil => rw [dropReturn, if_neg (by rw [hlast]; decide), dropReturn, if_neg (by decide)]
  | cons c back =>
    rw [dropReturn, dropReturn, hlast]
    simp only [List.getLast?_cons, Option.getD_some]
    split
    · rw [List.dropLast_append_of_ne_nil (List.cons_ne_nil _ _), List.dropLast_cons_cons]
    · rfl

theorem head?_dropReturn_eq_quote_iff (text : Decoded) :
    (dropReturn text).head? = some (some '"') ↔ text.head? = some (some '"') := by
  rw [dropReturn]
  split
  · next hlast =>
    cases text with
    | nil => exact Iff.rfl
    | cons c text =>
      cases text with
      | nil =>
        obtain rfl : c = some '\r' := by simpa using hlast
        decide
      | cons d text => exact Iff.rfl
  · exact Iff.rfl

/-- What follows a field that ends at a comma has its carriage returns at line ends, and the field does
not end in one. -/
theorem ReturnsAtLineEnds.after_field {quoted inside : Bool} {chars : Decoded}
    (h : ReturnsAtLineEnds text) (hscan : Scans quoted inside text chars stop rest) :
    ReturnsAtLineEnds rest ∧ (stop = .comma → dropReturn chars = chars) := by
  rw [ReturnsAtLineEnds, hscan.text_eq, List.isChain_append] at h
  obtain ⟨-, hafter, hborder⟩ := h
  refine ⟨hafter.right_of_append, ?_⟩
  rintro rfl
  rw [dropReturn, if_neg]
  intro hlast
  have hline := hborder _ hlast (some ',') rfl rfl
  cases hline

theorem nextRow_of_comma (h : nextField text = (f, .comma, rest)) (hrest : rest ≠ []) (n : Nat) :
    (nextRow (n + 1) text).1.fields = f :: (nextRow n rest).1.fields := by
  rw [nextRow, h]
  simp [hrest]

theorem nextRow_of_end (h : nextField text = (f, stop, rest)) (hend : stop = .comma → rest = [])
    (n : Nat) : (nextRow n text).1.fields = [f] := by
  have hlast : (decide (stop = .comma) && !rest.isEmpty) = false := by
    by_cases hcomma : stop = .comma
    · rw [hend hcomma, List.isEmpty_nil, Bool.not_true, Bool.and_false]
    · rw [decide_eq_false hcomma, Bool.false_and]
  rw [nextRow, h]
  simp only [hlast, Bool.false_eq_true, if_false]

/-- What is scanned of a field is read again as that field, without the carriage return at its end. -/
theorem nextField_dropReturn (h : Scans f.quoted false text f.chars stop rest)
    (hquoted : f.quoted = decide (f.chars.head? = some (some '"'))) :
    nextField (dropReturn f.chars) = (f.trim, .textEnd, []) := by
  apply nextField_eq_of_scans (f := f.trim) (h.of_initial (dropReturn_initial _))
  rw [Field.trim, hquoted, decide_eq_decide]
  exact (head?_dropReturn_eq_quote_iff f.chars).symm

/-- A row without text has no cell that looks like anything. -/
theorem looksAt_nextRow_nil (n position : Nat) : looksAt (nextRow n []).1.fields position = none := by
  rw [nextRow_of_end (f := ⟨[], false⟩) rfl (fun _ => rfl)]
  cases position <;> rfl

end

section
variable {more : Nat} {text : Decoded}

/-- A line ends where the row on it ends. -/
theorem nextLine_snd_eq (hfull : (nextRow more text).1.overfull = false)
    (hquotes : (nextRow more text).1.Unmixed) :
    (nextLine false text).2 = (nextRow more text).2 := by
  fun_induction nextRow more text with
  | case1 text f stop rest hfield => cases hfull
  | case2 text f stop rest hfield hmore more row after hrow ih =>
    have hscan := scans_nextField text
    rw [hfield] at hscan
    rw [hscan.nextLine_eq (hquotes f List.mem_cons_self)]
    obtain ⟨rfl, -⟩ : stop = .comma ∧ rest ≠ [] := by simpa using hmore
    rw [hrow] at ih
    exact ih hfull fun f hf => hquotes f (List.mem_cons_of_mem _ hf)
  | case3 more text f stop rest hfield hend =>
    have hscan := scans_nextField text
    rw [hfield] at hscan
    rw [hscan.nextLine_eq (hquotes f List.mem_cons_self)]
    cases stop with
    | comma =>
      obtain rfl : rest = [] := by simpa using hend
      rfl
    | lineEnd => rfl
    | textEnd => rw [hscan.rest_eq_nil]; rfl

theorem ReturnsAtLineEnds.after_row (h : ReturnsAtLineEnds text) :
    ReturnsAtLineEnds (nextRow more text).2 := by
  fun_induction nextRow more text with
  | case1 text f stop rest hfield | case3 more text f stop rest hfield =>
    have hscan := scans_nextField text
    rw [hfield] at hscan
    exact (h.after_field hscan).1
  | case2 text f stop rest hfield hmore more row after hrow ih =>
    have hscan := scans_nextField text
    rw [hfield] at hscan
    rw [hrow] at ih
    exact ih (h.after_field hscan).1

/-- Before a comma, a row goes on with the cells of what follows. Where nothing follows it ends, which
looks the same. -/
theorem looksAt_nextRow_append_comma {f : Field} {rest : Decoded}
    (h : Scans f.quoted false text f.chars .comma rest)
    (hquoted : f.quoted = decide (f.chars.head? = some (some '"'))) (line : Decoded)
    (n position : Nat) :
    looksAt (nextRow (n + 1) (f.chars ++ some ',' :: line)).1.fields position =
      looksAt (f :: (nextRow n line).1.fields) position := by
  have hagain := nextField_eq_of_scans (h.before_comma line) hquoted
  by_cases hempty : line = []
  · rw [nextRow_of_end hagain fun _ => hempty]
    cases position with
    | zero => rfl
    | succ position =>
      rw [hempty]
      exact (looksAt_nextRow_nil n position).symm
  · rw [nextRow_of_comma hagain hempty]

/-- A line that holds one field is split into that field. -/
theorem nextRow_line_of_end {f : Field} {stop : Stop} {rest : Decoded}
    (hfield : nextField text = (f, stop, rest)) (hend : stop = .comma → rest = [])
    (hquotes : f.quoted = false → some '"' ∉ f.chars) (hreturns : ReturnsAtLineEnds text) (n : Nat) :
    (nextRow n (dropReturn (nextLine false text).1)).1.fields = [f.trim] := by
  have hscan := scans_nextField text
  have hquoted := quoted_nextField text
  rw [hfield] at hscan hquoted
  rw [hscan.nextLine_eq hquotes]
  cases stop with
  | comma =>
    obtain rfl := hend rfl
    have htrim : f.trim = f := by rw [Field.trim, (hreturns.after_field hscan).2 rfl]
    have hline : dropReturn (f.chars ++ (nextLine false (Stop.comma.mark ++ [])).1) =
        f.chars ++ [some ','] :=
      dropReturn_append_comma f.chars []
    have hagain := nextField_eq_of_scans (hscan.before_comma []) hquoted
    rw [hline, nextRow_of_end hagain fun _ => rfl, htrim]
  | lineEnd =>
    have hline : f.chars ++ (nextLine false (Stop.lineEnd.mark ++ rest)).1 = f.chars :=
      List.append_nil _
    rw [hline, nextRow_of_end (nextField_dropReturn hscan hquoted) (by simp)]
  | textEnd =>
    obtain rfl := hscan.rest_eq_nil
    have hline : f.chars ++ (nextLine false (Stop.textEnd.mark ++ [])).1 = f.chars :=
      List.append_nil _
    rw [hline, nextRow_of_end (nextField_dropReturn hscan hquoted) (by simp)]

/-- A line without the carriage return at its end is split into cells that look like those of the row
on it. -/
theorem looksAt_nextRow_line (hfull : (nextRow more text).1.overfull = false)
    (hquotes : (nextRow more text).1.Unmixed) (hreturns : ReturnsAtLineEnds text) {n : Nat}
    (hn : (dropReturn (nextLine false text).1).length ≤ n) (position : Nat) :
    looksAt (nextRow n (dropReturn (nextLine false text).1)).1.fields position =
      looksAt ((nextRow more text).1.fields.map Field.trim) position := by
  fun_induction nextRow more text generalizing n position with
  | case1 text f stop rest hfield => cases hfull
  | case2 text f stop rest hfield hmore more row after hrow ih =>
    have hscan := scans_nextField text
    have hquoted := quoted_nextField text
    rw [hfield] at hscan hquoted
    obtain ⟨rfl, -⟩ : stop = .comma ∧ rest ≠ [] := by simpa using hmore
    obtain ⟨hafter, htrim⟩ := hreturns.after_field hscan
    have htrim : f.trim = f := by rw [Field.trim, htrim rfl]
    have hline : dropReturn (nextLine false text).1 =
        f.chars ++ some ',' :: dropReturn (nextLine false rest).1 := by
      rw [hscan.nextLine_eq (hquotes f List.mem_cons_self)]
      exact dropReturn_append_comma _ _
    rw [hrow] at ih
    rw [hline] at hn ⊢
    obtain ⟨n, rfl⟩ : ∃ m, n = m + 1 := ⟨n - 1, by simp at hn; omega⟩
    rw [looksAt_nextRow_append_comma hscan hquoted, List.map_cons, htrim]
    cases position with
    | zero => rfl
    | succ position =>
      exact ih hfull (fun f hf => hquotes f (List.mem_cons_of_mem _ hf)) hafter
        (by simp at hn; omega) position
  | case3 more text f stop rest hfield hend =>
    have hlast : stop = .comma → rest = [] := by simpa using hend
    rw [nextRow_line_of_end hfield hlast (hquotes f List.mem_cons_self) hreturns, List.map_singleton]

theorem field_of_lone_return {f : Field} {stop : Stop} {rest : Decoded}
    (hfield : nextField text = (f, stop, rest)) (hquotes : f.quoted = false → some '"' ∉ f.chars)
    (hline : (nextLine false text).1 = [some '\r']) : stop ≠ .comma ∧ f.chars = [some '\r'] := by
  have hscan := scans_nextField text
  rw [hfield] at hscan
  rw [hscan.nextLine_eq hquotes] at hline
  cases stop with
  | comma =>
    have hcomma : some ',' ∈ [some '\r'] := by
      rw [← hline]
      exact List.mem_append_right _ List.mem_cons_self
    cases List.mem_singleton.1 hcomma
  | lineEnd =>
    rw [← hline]
    exact ⟨nofun, (List.append_nil _).symm⟩
  | textEnd =>
    obtain rfl := hscan.rest_eq_nil
    rw [← hline]
    exact ⟨nofun, (List.append_nil _).symm⟩

/-- A line that is nothing but a carriage return is a row of one such field. -/
theorem fields_of_lone_return (hfull : (nextRow more text).1.overfull = false)
    (hquotes : (nextRow more text).1.Unmixed) (hline : (nextLine false text).1 = [some '\r']) :
    (nextRow more text).1.fields.map Field.chars = [[some '\r']] := by
  fun_induction nextRow more text with
  | case1 text f stop rest hfield => cases hfull
  | case2 text f stop rest hfield hmore =>
    have hend := (field_of_lone_return hfield (hquotes f List.mem_cons_self) hline).1
    simp [hend] at hmore
  | case3 more text f stop rest hfield =>
    have hchars := (field_of_lone_return hfield (hquotes f List.mem_cons_self) hline).2
    rw [List.map_singleton, hchars]

end

section
variable {more : Nat} {text : Decoded}

theorem looksAt_lineFields (line : Decoded) (position : Nat) :
    looksAt (lineFields line) position = looksAt (nextRow line.length line).1.fields position := by
  rw [lineFields]
  split
  · next hnil => rw [hnil, looksAt_nextRow_nil]; rfl
  · rfl

/-- Only a line that is nothing but a carriage return keeps one at its end. -/
theorem trimLine_eq {line : Decoded} (h : line ≠ [some '\r']) : trimLine line = dropReturn line := by
  rw [trimLine]
  split
  · next hlength =>
    obtain ⟨c, rfl⟩ := List.length_eq_one_iff.1 hlength
    rw [dropReturn, if_neg]
    intro hlast
    apply h
    rw [List.getLast?_singleton, Option.some_inj] at hlast
    rw [hlast]
  · rfl

/-- Says that the lines of a text are its rows, and that they are read alike: no quote stands in a field
that does not begin with one, and carriage returns stand at the ends of lines that hold something else. -/
structure IsRegular (more : Nat) (text : Decoded) : Prop where
  unmixed : ∀ row ∈ rows more text, row.Unmixed
  returns : ReturnsAtLineEnds text
  filled : ∀ row ∈ rows more text, row.fields.map Field.chars ≠ [[some '\r']]

theorem isRegular_iff : IsRegular more text ↔ (∀ row ∈ rows more text, row.Unmixed) ∧
    ReturnsAtLineEnds text ∧ ∀ row ∈ rows more text, row.fields.map Field.chars ≠ [[some '\r']] :=
  ⟨fun h => ⟨h.unmixed, h.returns, h.filled⟩, fun ⟨hunmixed, hreturns, hfilled⟩ =>
    ⟨hunmixed, hreturns, hfilled⟩⟩

instance (more : Nat) (text : Decoded) : Decidable (IsRegular more text) :=
  decidable_of_iff _ isRegular_iff.symm

/-- The cells of the lines of a regular text look like those of its rows. -/
theorem IsRegular.looksAt_lines (h : IsRegular more text)
    (hfull : ∀ row ∈ rows more text, row.overfull = false) (count position : Nat) :
    (lines count text).map (fun line => looksAt (lineFields (trimLine line)) position) =
      ((rows more text).take count).map fun row => looksAt (row.fields.map Field.trim) position := by
  induction count generalizing text with
  | zero => simp [lines]
  | succ count ih =>
    cases text with
    | nil =>
      rw [rows]
      rfl
    | cons c cs =>
      obtain ⟨hunmixed, hreturns, hfilled⟩ := h
      have hrows : rows more (c :: cs) =
          (nextRow more (c :: cs)).1 :: rows more (nextRow more (c :: cs)).2 := by
        rw [rows]
      rw [hrows] at hunmixed hfilled hfull
      obtain ⟨hunmixed, hunmixed'⟩ := List.forall_mem_cons.1 hunmixed
      obtain ⟨hfilled, hfilled'⟩ := List.forall_mem_cons.1 hfilled
      obtain ⟨hfull, hfull'⟩ := List.forall_mem_cons.1 hfull
      have hline := trimLine_eq fun hline => hfilled (fields_of_lone_return hfull hunmixed hline)
      have hlook := looksAt_nextRow_line hfull hunmixed hreturns (Nat.le_refl _) position
      have hrest := ih ⟨hunmixed', hreturns.after_row, hfilled'⟩ hfull'
      rw [lines, hrows, List.map_cons, List.take_succ_cons, List.map_cons, looksAt_lineFields, hline,
        hlook, nextLine_snd_eq hfull hunmixed, hrest]
      exact List.cons_ne_nil _ _

end

namespace Sheet

/-- The fields of the column with a name. What a row does not have counts as empty. -/
def fields (sheet : Sheet) (name : String) : List Field :=
  (sheet.cells name).map (·.getD ⟨[], false⟩)

/-- The texts of the cells in the column with a name. -/
def contents (sheet : Sheet) (name : String) : List Decoded :=
  (sheet.cells name).map contentOf

theorem contents_eq (sheet : Sheet) (name : String) :
    sheet.contents name = (sheet.fields name).map Field.content := by
  rw [contents, fields, List.map_map]
  apply List.map_congr_left
  intro cell _
  cases cell <;> rfl

/-- Says that a table has a regular text below its header. -/
def IsRegularFile (bytes : List UInt8) : Prop :=
  IsRegular ((ofBytes bytes).names.length - 1) (nextLine false (skipStart (Text.decode bytes))).2

instance (bytes : List UInt8) : Decidable (IsRegularFile bytes) :=
  inferInstanceAs (Decidable (IsRegular _ _))

/-- The kind of a column in a regular table depends on its first cells only. -/
theorem kind_eq {bytes : List UInt8} {frame : Frame} (hread : read bytes = .ok frame)
    (h : IsRegularFile bytes) (name : String) :
    (ofBytes bytes).kind name =
      Kind.unify ((((ofBytes bytes).fields name).take sampleSize).filterMap cellKind?) := by
  have hlooks := h.looksAt_lines (overfull_of_read hread) sampleSize ((ofBytes bytes).names.idxOf name)
  have hcell : ∀ cell : Option Field, cellKind? (cell.getD ⟨[], false⟩) = cell.bind cellKind? := by
    intro cell
    cases cell <;> rfl
  have hrow : ∀ row : Row, looksAt (row.fields.map Field.trim) ((ofBytes bytes).names.idxOf name) =
      cellKind? ((row.fields[(ofBytes bytes).names.idxOf name]?.map Field.trim).getD ⟨[], false⟩) := by
    intro row
    rw [hcell, looksAt, List.getElem?_map]
  simp only [hrow] at hlooks
  have hkinds := congrArg (List.filterMap id) hlooks
  rw [List.filterMap_map, List.filterMap_map] at hkinds
  rw [fields, cells, kind, columnKind, List.map_map, ← List.map_take, List.filterMap_map]
  exact congrArg Kind.unify ((List.filterMap_map ..).trans hkinds)

end Sheet

end TelemetryCharts.Table
