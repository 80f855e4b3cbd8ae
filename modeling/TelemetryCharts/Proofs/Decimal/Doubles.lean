import TelemetryCharts.Decimal.Numeral
import TelemetryCharts.Decimal.Read
import TelemetryCharts.Proofs.Decimal.Digits

/-!
# Reading doubles back

Every double is written as a text that looks like a number with a point or an exponent, or like the
name of a number, and that is read as a double again. This says nothing about which double that is.
-/

namespace TelemetryCharts.Decimal

/-- Digits before the point, and digits after it or an exponent. -/
structure Numeral.Fractional (n : Numeral) : Prop where
  whole_ne_nil : n.whole ≠ []
  whole_digits : ∀ c ∈ n.whole, c.isDigit = true
  fraction_digits : ∀ c ∈ n.fraction, c.isDigit = true
  marked : n.fraction ≠ [] ∨ n.exponent.isSome = true

theorem isDigit_of_mem_zeros {k : Nat} {c : Char} (hc : c ∈ List.replicate k '0') :
    c.isDigit = true := by
  rw [List.eq_of_mem_replicate hc]
  decide

/-- Digits with a point among them are fractional wherever the point lies. -/
theorem positional_fractional (negative : Bool) {ds : List Char} (hne : ds ≠ [])
    (hds : ∀ c ∈ ds, c.isDigit = true) (point : Int) :
    (positional negative ds point).Fractional := by
  unfold positional
  split
  · refine ⟨by simp, by simp, ?_, .inl (by simp [hne])⟩
    intro c hc
    cases List.mem_append.1 hc with
    | inl h => exact isDigit_of_mem_zeros h
    | inr h => exact hds c h
  split
  · refine ⟨by simp [hne], ?_, by simp, .inl (by simp)⟩
    intro c hc
    cases List.mem_append.1 hc with
    | inl h => exact hds c h
    | inr h => exact isDigit_of_mem_zeros h
  · have hpos : 0 < ds.length := List.length_pos_iff.2 hne
    refine ⟨?_, fun c hc => hds c (List.mem_of_mem_take hc),
      fun c hc => hds c (List.mem_of_mem_drop hc), .inl ?_⟩
    · simp only [ne_eq, List.take_eq_nil_iff, hne, or_false]
      omega
    · simp only [ne_eq, List.drop_eq_nil_iff]
      omega

/-- The numeral of a finite double is never a whole number. -/
theorem Binary.numeral_fractional (b : Binary) : b.numeral.Fractional := by
  unfold Binary.numeral
  split
  · exact ⟨by simp, by simp, by simp, .inl (by simp)⟩
  unfold Scientific.numeral
  have hne := digits_ne_nil b.shortest.coefficient
  have hds := fun c => isDigit_of_mem_digits (n := b.shortest.coefficient) (c := c)
  dsimp only
  split
  · exact positional_fractional _ hne hds _
  · exact ⟨by simp [hne], fun c hc => hds c (List.mem_of_mem_take hc),
      fun c hc => hds c (List.mem_of_mem_drop hc), .inr rfl⟩

/-- What follows the digits before the point. -/
def Numeral.tail (n : Numeral) : List Char :=
  (if n.fraction.isEmpty then [] else '.' :: n.fraction) ++ n.exponent.elim [] (exponentText [])

theorem Numeral.render_eq (n : Numeral) :
    n.render [] = (if n.negative then ['-'] else []) ++ (n.whole ++ n.tail) := by
  simp only [Numeral.render, Numeral.tail, List.append_assoc]

theorem exponentText_eq (e : Int) : exponentText [] e = 'e' :: signedDigits e := by
  unfold exponentText signedDigits
  split <;> rfl

/-- A written number has only characters that a field without quotes can hold. -/
theorem Numeral.Fractional.mem_render {n : Numeral} (h : n.Fractional) {c : Char}
    (hc : c ∈ n.render []) : c = '-' ∨ c = '.' ∨ c = 'e' ∨ c.isDigit = true := by
  have hexponent : ∀ e, c ∈ exponentText [] e → c = '-' ∨ c = '.' ∨ c = 'e' ∨ c.isDigit = true := by
    intro e he
    rw [exponentText_eq, List.mem_cons] at he
    rcases he with rfl | he
    · exact .inr (.inr (.inl rfl))
    · rcases mem_signedDigits he with rfl | hdigit
      · exact .inl rfl
      · exact .inr (.inr (.inr hdigit))
  rw [Numeral.render_eq, Numeral.tail] at hc
  simp only [List.mem_append] at hc
  rcases hc with hc | hc | hc | hc
  · split at hc
    · exact .inl (List.mem_singleton.1 hc)
    · cases hc
  · exact .inr (.inr (.inr (h.whole_digits c hc)))
  · split at hc
    · cases hc
    · rcases List.mem_cons.1 hc with rfl | hc
      · exact .inr (.inl rfl)
      · exact .inr (.inr (.inr (h.fraction_digits c hc)))
  · cases he : n.exponent with
    | none => simp [he] at hc
    | some e => exact hexponent e (by simpa [he] using hc)

theorem Numeral.Fractional.exists_whole {n : Numeral} (h : n.Fractional) :
    ∃ c cs, n.whole = c :: cs ∧ c.isDigit = true := by
  cases hwhole : n.whole with
  | nil => exact absurd hwhole h.whole_ne_nil
  | cons c cs => exact ⟨c, cs, rfl, h.whole_digits c (by simp [hwhole])⟩

/-- What follows the last digits of a numeral: nothing, or a mark and an integer. -/
def IsExponentText (rest : List Char) : Prop :=
  rest = [] ∨ ∃ e, rest = 'e' :: signedDigits e

/-- After the digits before the point stands an exponent, or a point with digits after it. -/
theorem Numeral.Fractional.tail_cases {n : Numeral} (h : n.Fractional) :
    (∃ e, n.tail = 'e' :: signedDigits e) ∨
      ∃ fraction rest, n.tail = '.' :: (fraction ++ rest) ∧ fraction ≠ [] ∧
        (∀ c ∈ fraction, c.isDigit = true) ∧ IsExponentText rest := by
  by_cases hfraction : n.fraction = []
  · have hmark : n.exponent.isSome = true := h.marked.resolve_left (not_not_intro hfraction)
    obtain ⟨e, he⟩ := Option.isSome_iff_exists.1 hmark
    exact .inl ⟨e, by simp [Numeral.tail, hfraction, he, exponentText_eq]⟩
  · refine .inr ⟨n.fraction, n.exponent.elim [] (exponentText []), ?_, hfraction,
      h.fraction_digits, ?_⟩
    · simp [Numeral.tail, hfraction]
    · cases n.exponent with
      | none => exact .inl rfl
      | some e => exact .inr ⟨e, exponentText_eq e⟩

theorem takeWhile_exponentText {rest : List Char} (h : IsExponentText rest) {p : Char → Bool}
    (hp : p 'e' = false) : rest.takeWhile p = [] ∧ rest.dropWhile p = rest := by
  rcases h with rfl | ⟨e, rfl⟩
  · exact ⟨rfl, rfl⟩
  · simp [hp]

/-- The digits before the point end where the rest of the numeral begins. -/
theorem Numeral.Fractional.takeWhile_tail {n : Numeral} (h : n.Fractional) {p : Char → Bool}
    (hpoint : p '.' = false) (hmark : p 'e' = false) :
    n.tail.takeWhile p = [] ∧ n.tail.dropWhile p = n.tail := by
  rcases h.tail_cases with ⟨e, htail⟩ | ⟨fraction, rest, htail, -, -, -⟩
  · simp [htail, hmark]
  · simp [htail, hpoint]

/-- The number without its sign is read as a double. -/
theorem Numeral.Fractional.unsigned?_isSome {n : Numeral} (h : n.Fractional) :
    (unsigned? (n.whole ++ n.tail)).isSome = true := by
  have hne := h.whole_ne_nil
  obtain ⟨htakeTail, hdropTail⟩ := h.takeWhile_tail (p := Char.isDigit) rfl rfl
  have hwhole : (n.whole ++ n.tail).takeWhile Char.isDigit = n.whole := by
    rw [List.takeWhile_append_of_pos h.whole_digits, htakeTail, List.append_nil]
  have hafter : (n.whole ++ n.tail).dropWhile Char.isDigit = n.tail := by
    rw [List.dropWhile_append_of_pos h.whole_digits, hdropTail]
  simp only [unsigned?, hwhole, hafter]
  rcases h.tail_cases with ⟨e, htail⟩ | ⟨fraction, rest, htail, -, hfraction, hrest⟩
  · simp [htail, hne, integer?_signedDigits]
  · obtain ⟨htake, hdrop⟩ := takeWhile_exponentText hrest (p := Char.isDigit) rfl
    simp only [htail, List.takeWhile_append_of_pos hfraction,
      List.dropWhile_append_of_pos hfraction, htake, hdrop]
    rcases hrest with rfl | ⟨e, rfl⟩
    · simp [hne]
    · simp [hne, integer?_signedDigits]

/-- A written number is read as a double. -/
theorem Numeral.Fractional.float?_isSome {n : Numeral} (h : n.Fractional) :
    (float? (n.render [])).isSome = true := by
  have hunsigned := h.unsigned?_isSome
  obtain ⟨c, cs, hwhole, hc⟩ := h.exists_whole
  have hsign : (splitSign (n.render [])).2 = n.whole ++ n.tail := by
    rw [Numeral.render_eq]
    split
    · rfl
    · rw [List.nil_append, hwhole, List.cons_append, splitSign_of_isDigit hc]
  rw [float?]
  simp only [hsign, Option.isSome_map, Option.isSome_or, hunsigned, Bool.true_or]

end TelemetryCharts.Decimal

namespace TelemetryCharts.Table

open Decimal

theorem isExponent_mark (e : Int) : isExponent ('e' :: signedDigits e) = true := by
  have hdrop : dropSign (signedDigits e) = digits e.natAbs := by
    unfold signedDigits
    split
    · rfl
    · exact dropSign_digits _
  simp only [isExponent, hdrop, isDigits_digits]
  rfl

theorem marksFloat_tail {n : Numeral} (h : n.Fractional) : marksFloat n.tail = true := by
  rcases h.tail_cases with ⟨e, htail⟩ | ⟨fraction, rest, htail, hne, hfraction, hrest⟩
  · rw [htail]
    exact isExponent_mark e
  · obtain ⟨htake, hdrop⟩ := takeWhile_exponentText hrest (p := Text.isDecimalDigit) (by decide)
    simp only [htail, marksFloat, takeWhile_isDecimalDigit hfraction,
      dropWhile_isDecimalDigit hfraction, htake, hdrop, List.append_nil, if_neg hne]
    rcases hrest with rfl | ⟨e, rfl⟩
    · rfl
    · rw [isExponent_mark, Bool.or_true]

/-- A written number looks like a number with a point or an exponent. -/
theorem Kind.of_render {n : Numeral} (h : n.Fractional) : Kind.of (n.render []) = float := by
  obtain ⟨c, cs, hwhole, hc⟩ := h.exists_whole
  have hdrop : dropSign (n.render []) = n.whole ++ n.tail := by
    rw [Numeral.render_eq]
    split
    · rfl
    · rw [List.nil_append, hwhole, List.cons_append, dropSign_of_isDigit hc]
  have hstop := (h.takeWhile_tail (p := Text.isDecimalDigit) (by decide) (by decide)).1
  have hfloat : isFloat (n.render []) = true := by
    rw [isFloat_of_dropSign_eq hdrop h.whole_ne_nil h.whole_digits hstop, marksFloat_tail h]
  have hhead : ∃ d ds, n.render [] = d :: ds ∧ (d = '-' ∨ d.isDigit = true) := by
    rw [Numeral.render_eq, hwhole]
    split
    · exact ⟨_, _, rfl, .inl rfl⟩
    · exact ⟨_, _, rfl, .inr hc⟩
  obtain ⟨d, ds, hcons, hd⟩ := hhead
  rw [hcons] at hfloat ⊢
  rw [Kind.of_cons hd, if_pos hfloat]

/-- A double is written as its numeral or as one of three names. -/
theorem tabular_cases (x : Float) :
    (∃ n : Numeral, n.Fractional ∧ tabular x = n.render []) ∨
      tabular x ∈ ["NaN".toList, "inf".toList, "-inf".toList] := by
  unfold tabular Numeral.ofFloat?
  cases Binary.ofFloat? x with
  | some b => exact .inl ⟨b.numeral, b.numeral_fractional, rfl⟩
  | none =>
    right
    simp only [Option.map_none, nonFiniteName]
    split
    · simp
    split <;> simp

theorem tabular_ne_nil (x : Float) : tabular x ≠ [] := by
  rcases tabular_cases x with ⟨n, hn, h⟩ | h
  · obtain ⟨c, cs, hwhole, -⟩ := hn.exists_whole
    simp [h, Numeral.render_eq, hwhole]
  · intro hnil
    rw [hnil] at h
    revert h
    decide

/-- A written double looks like a double. -/
theorem Kind.of_tabular (x : Float) : Kind.of (tabular x) = float := by
  rcases tabular_cases x with ⟨n, hn, h⟩ | h
  · rw [h, Kind.of_render hn]
  · revert h
    generalize tabular x = cell
    revert cell
    decide

/-- A written double is read as a double. -/
theorem float?_tabular_isSome (x : Float) : (float? (tabular x)).isSome = true := by
  rcases tabular_cases x with ⟨n, hn, h⟩ | h
  · rw [h, hn.float?_isSome]
  · simp only [List.mem_cons, List.not_mem_nil, or_false] at h
    rcases h with h | h | h <;> rw [h] <;> rfl

end TelemetryCharts.Table
