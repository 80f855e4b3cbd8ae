import TelemetryCharts.Proofs.Decimal.Whole
import TelemetryCharts.Proofs.Table.Columns
import TelemetryCharts.Proofs.Table.Readers
import TelemetryCharts.Proofs.Table.Sheets

/-!
# What cells count

The counter that a cell comes to depends on the text of the cell and on the kind of its column. The
quotes around a text make no difference: a number or a truth value holds no quotes, so a cell of one
that is read has nothing between its quotes but the text itself. Where a text is blank or an
integer, the kind makes no difference either, as long as no integer is too large for a double.
-/

namespace TelemetryCharts.Table

open Decimal

/-- The text of a field. If the field begins with a quote, that is what stands between its quotes,
where two quotes stand for one. -/
def Field.content (f : Field) : Decoded :=
  if f.quoted then undoubleQuotes f.bare else f.chars

/-- The text of a cell. A cell that its row does not have has no text. -/
def contentOf (cell : Option Field) : Decoded :=
  cell.elim [] Field.content

/-- The cell that holds a text without quotes around it. -/
def plainCell (content : Decoded) : Option Field :=
  some ⟨content, false⟩

section Quotes

theorem undoubleQuotes_of_notMem {text : Decoded} (h : some '"' ∉ text) :
    undoubleQuotes text = text := by
  induction text with
  | nil => rfl
  | cons c rest ih =>
    rw [List.mem_cons, not_or] at h
    rw [undoubleQuotes, ih h.2]
    · rintro d ds rfl
      exact absurd rfl h.1
    · rintro rfl
      exact absurd rfl h.1

/-- A text from which something is read holds neither quotes nor blanks. -/
theorem Bare.notMem {α : Type} {read? : List Char → Option α} (hread : Bare read?) {text : Decoded}
    {x : α} (h : readDecoded read? text = some x) {c : Char} (hc : IsSeparator c) :
    some c ∉ text := by
  rw [readDecoded] at h
  obtain ⟨cs, hcs, hx⟩ := Option.bind_eq_some_iff.1 h
  rw [Text.gapless?_eq_some_iff.1 hcs]
  simpa using hread.solid cs x hx c hc

theorem isSeparator_quote : IsSeparator '"' :=
  .inl rfl

/-- A field whose quotes have no quotes between them has the text that stands there. -/
theorem Field.content_of_notMem {f : Field} (h : some '"' ∉ f.bare) : f.content = f.bare := by
  rw [content]
  split
  · exact undoubleQuotes_of_notMem h
  · next hquoted => rw [bare, if_neg (by simp [hquoted])]

theorem Field.bare_plain (content : Decoded) : (Field.mk content false).bare = content :=
  rfl

end Quotes

section Blanks

/-- Says that there is nothing but blanks in a text. -/
def Blank (text : Decoded) : Prop :=
  ∀ c ∈ text, isSpace c = true

variable {text : Decoded} (h : Blank text)
include h

theorem Blank.dropWhile : text.dropWhile isSpace = [] :=
  List.dropWhile_eq_nil_iff.2 h

/-- Nothing is read from blanks. -/
theorem Bare.readDecoded_of_blank {α : Type} {read? : List Char → Option α} (hread : Bare read?) :
    readDecoded read? text = none := by
  cases text with
  | nil => exact hread.empty
  | cons c rest =>
    have hc : c = some ' ' ∨ c = some '\t' := by simpa [isSpace] using h c (by simp)
    cases hx : readDecoded read? (c :: rest) with
    | none => rfl
    | some x =>
      rcases hc with rfl | rfl
      · exact absurd List.mem_cons_self (hread.notMem hx (.inr (.inl rfl)))
      · exact absurd List.mem_cons_self (hread.notMem hx (.inr (.inr rfl)))

end Blanks

section Cells
variable {α : Type} {read? : List Char → Option α}

/-- The number in a text without quotes around it, read as it is or else without the blanks before
it. -/
def readBare (read? : List Char → Option α) (text : Decoded) : Option (Option α) :=
  match readDecoded read? text with
  | some x => some (some x)
  | none =>
    match text.dropWhile isSpace with
    | [] => some none
    | rest => (readDecoded read? rest).map some

theorem numberCell?_eq {f : Field} (hne : f.chars ≠ []) :
    numberCell? read? f =
      if f.quoted && f.chars.length = 1 then none else readBare read? f.bare := by
  rw [numberCell?, if_neg hne]
  rfl

theorem Bare.numberCell?_plain (hread : Bare read?) (text : Decoded) :
    numberCell? read? ⟨text, false⟩ = readBare read? text := by
  by_cases hnil : text = []
  · rw [hnil, readBare, hread.readDecoded_of_blank (List.forall_mem_nil _)]
    rfl
  · rw [numberCell?_eq hnil]
    rfl

/-- A number is only read from a cell if there are no quotes between the quotes of the cell. -/
theorem Bare.notMem_of_readBare (hread : Bare read?) {text : Decoded} {v : Option α}
    (h : readBare read? text = some v) : some '"' ∉ text := by
  intro hquote
  have hrest : some '"' ∈ text.dropWhile isSpace := mem_dropWhile hquote rfl
  rw [readBare] at h
  split at h
  · next hx => exact hread.notMem hx isSeparator_quote hquote
  split at h
  · next hnil =>
    rw [hnil] at hrest
    cases hrest
  · obtain ⟨x, hx, -⟩ := Option.map_eq_some_iff.1 h
    exact hread.notMem hx isSeparator_quote hrest

theorem Field.content_of_chars_eq_nil {f : Field} (h : f.chars = []) : f.content = [] := by
  simp [content, bare, h, undoubleQuotes]

/-- What number is read from a cell depends on the text of the cell only. -/
theorem Bare.numberCell?_content (hread : Bare read?) {f : Field} {v : Option α}
    (h : numberCell? read? f = some v) : numberCell? read? ⟨f.content, false⟩ = some v := by
  by_cases hnil : f.chars = []
  · rw [numberCell?, if_pos hnil] at h
    rw [Field.content_of_chars_eq_nil hnil, ← h]
    rfl
  · rw [numberCell?_eq hnil] at h
    split at h
    · cases h
    · rw [hread.numberCell?_plain, Field.content_of_notMem (hread.notMem_of_readBare h), h]

/-- What truth value is read from a cell depends on the text of the cell only. -/
theorem booleanCell?_content {f : Field} {v : Option Bool} (h : booleanCell? f = some v) :
    booleanCell? ⟨f.content, false⟩ = some v := by
  rw [booleanCell?] at h
  split at h
  · next hnil =>
    have hcontent : f.content = [] := by
      rcases hnil with hchars | hbare
      · exact Field.content_of_chars_eq_nil hchars
      · rw [Field.content_of_notMem (by simp [hbare]), hbare]
    rw [hcontent, ← h]
    rfl
  · next hne =>
    rw [not_or] at hne
    obtain ⟨b, hb, rfl⟩ := Option.map_eq_some_iff.1 h
    rw [Field.content_of_notMem (bare_readBoolean?.notMem hb isSeparator_quote), booleanCell?,
      if_neg (by simpa [Field.bare_plain] using hne.2), Field.bare_plain, hb]
    rfl

/-- What text is read from a cell depends on the text of the cell only, apart from an empty text
between quotes. -/
theorem textCell?_content {f : Field} {v : Option String} (h : textCell? f = some v) :
    textCell? ⟨f.content, false⟩ = some v ∨ f.content = [] ∧ v = some "" := by
  rw [textCell?] at h
  split at h
  · next hnil =>
    rw [Field.content_of_chars_eq_nil hnil, ← h]
    exact .inl rfl
  next hne =>
  split at h
  · next hquoted =>
    split at h
    · next hclosed =>
      have hcontent : f.content = undoubleQuotes f.chars.tail.dropLast := by
        have hlength : 2 ≤ f.chars.length := hclosed.1
        rw [Field.content, if_pos hquoted, Field.bare, hquoted, if_pos (by simpa using hlength)]
      rw [← hcontent] at h
      by_cases hempty : f.content = []
      · rw [hempty] at h
        cases h
        exact .inr ⟨hempty, rfl⟩
      · rw [textCell?, if_neg hempty]
        exact .inl h
    · cases h
  · next hquoted =>
    have hcontent : f.content = f.chars := by rw [Field.content, if_neg hquoted]
    rw [textCell?, hcontent, if_neg hne]
    exact .inl h

end Cells

section Casts

/-- How what is read from a cell is cast to another type. -/
structure Cast (α : Type) where
  ofText : String → Option α
  ofInteger : Int64 → Option α
  ofFloat : Float → Option α
  ofBoolean : Bool → Option α

variable {α : Type} {cast : Cast α}

/-- What a cell in a column of a kind is cast to. A cell that cannot be read is cast to nothing. -/
def Kind.cast? (cast : Cast α) (k : Kind) (cell : Option Field) : Option (Option α) :=
  match k with
  | text => (cell.elim (some none) textCell?).map (·.bind cast.ofText)
  | integer => (cell.elim (some none) (numberCell? readInteger?)).map (·.bind cast.ofInteger)
  | float => (cell.elim (some none) (numberCell? float?)).map (·.bind cast.ofFloat)
  | boolean => (cell.elim (some none) booleanCell?).map (·.bind cast.ofBoolean)

/-- What a cell is cast to depends on the text of the cell and the kind of its column. -/
theorem Kind.cast?_content (hempty : cast.ofText "" = none) {k : Kind} {cell : Option Field}
    {v : Option α} (h : k.cast? cast cell = some v) :
    k.cast? cast (plainCell (contentOf cell)) = some v := by
  cases cell with
  | none => cases k <;> (cases h; rfl)
  | some f =>
    cases k with
    | text =>
      obtain ⟨s, hs, rfl⟩ := Option.map_eq_some_iff.1 h
      rcases textCell?_content hs with hcontent | ⟨hcontent, rfl⟩
      · exact Option.map_eq_some_iff.2 ⟨s, hcontent, rfl⟩
      · rw [contentOf, Option.elim_some, hcontent, Option.bind_some, hempty]
        rfl
    | integer =>
      obtain ⟨i, hi, rfl⟩ := Option.map_eq_some_iff.1 h
      exact Option.map_eq_some_iff.2 ⟨i, bare_readInteger?.numberCell?_content hi, rfl⟩
    | float =>
      obtain ⟨x, hx, rfl⟩ := Option.map_eq_some_iff.1 h
      exact Option.map_eq_some_iff.2 ⟨x, bare_float?.numberCell?_content hx, rfl⟩
    | boolean =>
      obtain ⟨b, hb, rfl⟩ := Option.map_eq_some_iff.1 h
      exact Option.map_eq_some_iff.2 ⟨b, booleanCell?_content hb, rfl⟩

end Casts

section Counters

/-- The counter that a cell in a column of a kind comes to. A cell that cannot be read has none. -/
def Kind.counter? (k : Kind) (cell : Option Field) : Option (Option UInt64) :=
  match k with
  | text => (cell.elim (some none) textCell?).map (·.bind Column.counterOfText?)
  | integer => (cell.elim (some none) (numberCell? readInteger?)).map
      (·.bind fun i => Column.counterOfInt? i.toInt)
  | float => (cell.elim (some none) (numberCell? float?)).map (·.bind Column.counterOfFloat?)
  | boolean => (cell.elim (some none) booleanCell?).map (·.map fun b => if b then 1 else 0)

/-- The counters of a column are those of its cells. -/
theorem Kind.mapM_counter? {k : Kind} {cells : List (Option Field)} {column : Column}
    (h : k.column? cells = some column) : cells.mapM k.counter? = some column.toCounters := by
  cases k <;>
  · simp only [column?, column?.read] at h
    obtain ⟨values, hvalues, rfl⟩ := Option.map_eq_some_iff.1 h
    exact mapM_map_eq_some hvalues

/-- How what is read from a cell is cast to a counter. -/
def Cast.toCounter : Cast UInt64 where
  ofText := Column.counterOfText?
  ofInteger i := Column.counterOfInt? i.toInt
  ofFloat := Column.counterOfFloat?
  ofBoolean b := some (if b then 1 else 0)

theorem Kind.counter?_eq_cast? (k : Kind) (cell : Option Field) :
    k.counter? cell = k.cast? .toCounter cell := by
  cases k with
  | text | integer | float => rfl
  | boolean => simp only [counter?, cast?, Cast.toCounter, Option.map_eq_bind, Function.comp_def]

/-- The counter that a cell comes to depends on the text of the cell and the kind of its column. -/
theorem Kind.counter?_content {k : Kind} {cell : Option Field} {v : Option UInt64}
    (h : k.counter? cell = some v) : k.counter? (plainCell (contentOf cell)) = some v := by
  rw [counter?_eq_cast?] at h ⊢
  exact cast?_content rfl h

theorem Bare.readBare_of_blank {α : Type} {read? : List Char → Option α} (hread : Bare read?)
    {text : Decoded} (h : Blank text) : readBare read? text = some none := by
  rw [readBare, hread.readDecoded_of_blank h, h.dropWhile]

/-- A cell of blanks comes to no counter, whatever the kind of its column. -/
theorem Kind.counter?_of_blank {k : Kind} {cell : Option Field} {v : Option UInt64}
    (h : k.counter? cell = some v) (hblank : Blank (contentOf cell)) : v = none := by
  have hplain := counter?_content h
  cases k with
  | text =>
    obtain ⟨s, hs, rfl⟩ := Option.map_eq_some_iff.1 hplain
    cases s with
    | none => rfl
    | some s =>
      have hinteger := bare_integer?.readDecoded_of_blank hblank
      rw [plainCell, Option.elim_some, textCell?] at hs
      split at hs
      · cases hs
      · simp only [Bool.false_eq_true, if_false] at hs
        obtain ⟨cs, hcs, hs⟩ := Option.map_eq_some_iff.1 hs
        cases hs
        rw [readDecoded, hcs, Option.bind_some] at hinteger
        rw [Option.bind_some, Column.counterOfText?, String.toList_ofList, hinteger,
          Option.bind_none]
  | integer =>
    obtain ⟨i, hi, rfl⟩ := Option.map_eq_some_iff.1 hplain
    rw [plainCell, Option.elim_some, bare_readInteger?.numberCell?_plain,
      bare_readInteger?.readBare_of_blank hblank] at hi
    cases hi
    rfl
  | float =>
    obtain ⟨x, hx, rfl⟩ := Option.map_eq_some_iff.1 hplain
    rw [plainCell, Option.elim_some, bare_float?.numberCell?_plain,
      bare_float?.readBare_of_blank hblank] at hx
    cases hx
    rfl
  | boolean =>
    obtain ⟨b, hb, rfl⟩ := Option.map_eq_some_iff.1 hplain
    rw [plainCell, Option.elim_some, booleanCell?] at hb
    split at hb
    · cases hb
      rfl
    · rw [Field.bare_plain, bare_readBoolean?.readDecoded_of_blank hblank] at hb
      cases hb

section
variable {cs : List Char} {i : Int} (hi : integer? cs = some i)
include hi

/-- The text of an integer begins with a sign or a digit. -/
theorem exists_eq_cons_of_integer? :
    ∃ c rest, cs = c :: rest ∧ (c = '-' ∨ c = '+' ∨ c.isDigit = true) := by
  rw [integer?] at hi
  obtain ⟨n, hn, -⟩ := Option.map_eq_some_iff.1 hi
  rw [natural?] at hn
  split at hn
  · next hdigits =>
    obtain ⟨hne, hall⟩ := hdigits
    revert hne hall
    unfold splitSign
    split
    · exact fun _ _ => ⟨_, _, rfl, .inl rfl⟩
    · exact fun _ _ => ⟨_, _, rfl, .inr (.inl rfl)⟩
    · intro hne hall
      cases cs with
      | nil => exact absurd rfl hne
      | cons c rest => exact ⟨c, rest, rfl, .inr (.inr (List.all_eq_true.1 hall c (by simp)))⟩
  · cases hn

theorem map_some_ne_nil : cs.map some ≠ [] := by
  obtain ⟨c, rest, rfl, -⟩ := exists_eq_cons_of_integer? hi
  simp

/-- No blanks are dropped before an integer. -/
theorem readBare_of_integer? {α : Type} (read? : List Char → Option α) :
    readBare read? (cs.map some) = (read? cs).map some := by
  obtain ⟨c, rest, rfl, hc⟩ := exists_eq_cons_of_integer? hi
  have hspace : isSpace (some c) = false := by
    rcases hc with rfl | rfl | hdigit
    · rfl
    · rfl
    · exact forall_isDigit (p := fun c => isSpace (some c) = false) (by decide) hdigit
  have hdrop : ((c :: rest).map some).dropWhile isSpace = (c :: rest).map some := by
    simp [hspace]
  have hread : readDecoded read? ((c :: rest).map some) = read? (c :: rest) := by
    rw [readDecoded, Text.gapless?_map_some, Option.bind_some]
  rw [readBare, hread, hdrop]
  cases hx : read? (c :: rest) with
  | some x => rfl
  | none =>
    simp only [List.map_cons] at hread ⊢
    rw [hread, hx]

theorem readBoolean?_of_integer? : readBoolean? cs = none := by
  obtain ⟨c, rest, rfl, hc⟩ := exists_eq_cons_of_integer? hi
  have hletter : c.toLower ≠ 't' ∧ c.toLower ≠ 'f' := by
    rcases hc with rfl | rfl | hdigit
    · decide
    · decide
    · exact forall_isDigit (p := fun c => c.toLower ≠ 't' ∧ c.toLower ≠ 'f') (by decide) hdigit
  simp [readBoolean?, hletter]

/-- An integer comes to the same counter in a column of any kind, unless it is too large for a
double and the column is one of doubles. -/
theorem Kind.counter?_of_integer? {k : Kind} {cell : Option Field} {v : Option UInt64}
    (h : k.counter? cell = some v) (hcell : contentOf cell = cs.map some)
    (hsmall : k = float → i.natAbs ≤ 2 ^ 53) : v = Column.counterOfInt? i := by
  have hplain := counter?_content h
  rw [hcell] at hplain
  cases k with
  | text =>
    obtain ⟨s, hs, rfl⟩ := Option.map_eq_some_iff.1 hplain
    rw [plainCell, Option.elim_some, textCell?, if_neg (map_some_ne_nil hi)] at hs
    simp only [Bool.false_eq_true, if_false, Text.gapless?_map_some, Option.map_some,
      Option.some.injEq] at hs
    subst hs
    simp only [Option.bind_some, Column.counterOfText?, String.toList_ofList, hi]
  | integer =>
    obtain ⟨j, hj, rfl⟩ := Option.map_eq_some_iff.1 hplain
    rw [plainCell, Option.elim_some, bare_readInteger?.numberCell?_plain,
      readBare_of_integer? hi, readInteger?, hi] at hj
    obtain ⟨w, hw, rfl⟩ := Option.map_eq_some_iff.1 hj
    rw [Option.bind_some, wordOfInt?_eq] at hw
    split at hw
    · next hrange =>
      cases hw
      rw [Option.bind_some, Int64.toInt_ofInt_of_le hrange.1 hrange.2]
    · cases hw
  | float =>
    obtain ⟨x, hx, hcounter⟩ := counterOfFloat?_of_integer? hi (hsmall rfl)
    obtain ⟨y, hy, rfl⟩ := Option.map_eq_some_iff.1 hplain
    rw [plainCell, Option.elim_some, bare_float?.numberCell?_plain, readBare_of_integer? hi,
      hx] at hy
    cases hy
    exact hcounter
  | boolean =>
    obtain ⟨b, hb, -⟩ := Option.map_eq_some_iff.1 hplain
    rw [plainCell, Option.elim_some, booleanCell?, Field.bare_plain,
      if_neg (by simp [map_some_ne_nil hi]), readDecoded, Text.gapless?_map_some, Option.bind_some,
      readBoolean?_of_integer? hi] at hb
    cases hb

end

end Counters

end TelemetryCharts.Table
