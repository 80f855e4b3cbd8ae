import TelemetryCharts.Json.Number
import TelemetryCharts.Proofs.Decimal.Binary
import TelemetryCharts.Proofs.Decimal.Doubles
import TelemetryCharts.Proofs.Decimal.Shortest

/-!
# Scanning printed numbers and strings

A numeral without superfluous zeros is one token of a JSON text, wherever the text goes on with a
character that cannot belong to a number. The numerals of natural numbers and of doubles have no
superfluous zeros. A string is one token if its content is written the way that JSON demands.
-/

namespace TelemetryCharts.Decimal

/-- The first digit of a positive number is not zero. -/
theorem head?_digits {n : ℕ} (hn : 0 < n) : (digits n).head? ≠ some '0' := by
  induction n using Nat.strong_induction_on with
  | _ n ih =>
    by_cases hlt : n < 10
    · have hdigit : ∀ n < 10, 0 < n → (digits n).head? ≠ some '0' := by decide
      exact hdigit n hlt hn
    · have hrec : digits n = digits (n / 10) ++ [Nat.digitChar (n % 10)] :=
        Nat.toDigits_of_base_le (by decide) (by omega)
      rw [hrec, List.head?_append_of_ne_nil _ (digits_ne_nil _)]
      exact ih (n / 10) (by omega) (by omega)

/-- Says that the digits of a numeral may be written as they are: a zero at the start is the only
digit before the point. -/
structure Numeral.Canonical (n : Numeral) : Prop where
  whole_ne_nil : n.whole ≠ []
  whole_digits : ∀ c ∈ n.whole, c.isDigit = true
  head_zero : n.whole.head? = some '0' → n.whole.length = 1
  fraction_digits : ∀ c ∈ n.fraction, c.isDigit = true

theorem Numeral.canonical_digits (negative : Bool) (n : ℕ) :
    Numeral.Canonical ⟨negative, digits n, [], none⟩ := by
  refine ⟨digits_ne_nil n, fun _ => isDigit_of_mem_digits, fun hzero => ?_, nofun⟩
  cases n with
  | zero => rfl
  | succ n => exact absurd hzero (head?_digits (Nat.succ_pos n))

theorem Numeral.canonical_ofNat (n : ℕ) : (Numeral.ofNat n).Canonical :=
  canonical_digits _ n

theorem Numeral.canonical_ofInt (i : ℤ) : (Numeral.ofInt i).Canonical :=
  canonical_digits _ i.natAbs

theorem positional_head_zero (negative : Bool) {ds : List Char} (hne : ds ≠ [])
    (hzero : ds.head? ≠ some '0') (point : ℤ) (h : (positional negative ds point).whole.head? = some '0') :
    (positional negative ds point).whole.length = 1 := by
  unfold positional at h ⊢
  split
  · rfl
  · next hpoint =>
    rw [if_neg hpoint] at h
    split at h
    · rw [List.head?_append_of_ne_nil _ hne] at h
      exact absurd h hzero
    · rw [List.head?_take, if_neg (by omega)] at h
      exact absurd h hzero

theorem Numeral.canonical_ofFloat? {x : Float} {n : Numeral} (h : Numeral.ofFloat? x = some n) :
    n.Canonical := by
  obtain ⟨b, hb, rfl⟩ := Option.map_eq_some_iff.1 h
  have hfractional := b.numeral_fractional
  refine ⟨hfractional.whole_ne_nil, hfractional.whole_digits, ?_, hfractional.fraction_digits⟩
  unfold Binary.numeral
  split
  · simp
  · next hsignificand =>
    have hzero := head?_digits
      (Binary.shortest_pos (Nat.pos_of_ne_zero hsignificand) (Binary.significand_lt hb))
    unfold Scientific.numeral
    dsimp only
    split
    · exact positional_head_zero _ (digits_ne_nil _) hzero _
    · intro hhead
      rw [List.head?_take, if_neg (by decide)] at hhead
      exact absurd hhead hzero

end TelemetryCharts.Decimal

namespace TelemetryCharts.Json

open Decimal

/-- Says that no digit comes next in a text. -/
def EndsDigits (rest : List Char) : Prop :=
  ∀ c ∈ rest.head?, c.isDigit = false

/-- Says that a number before a text has come to its end. -/
def EndsNumeral (rest : List Char) : Prop :=
  ∀ c ∈ rest.head?, c.isDigit = false ∧ c ≠ '.' ∧ c ≠ 'e' ∧ c ≠ 'E'

theorem EndsNumeral.endsDigits {rest : List Char} (h : EndsNumeral rest) : EndsDigits rest :=
  fun c hc => (h c hc).1

theorem scanDigits_append {ds rest : List Char} (hne : ds ≠ [])
    (hds : ∀ c ∈ ds, c.isDigit = true) (hrest : EndsDigits rest) :
    scanDigits (ds ++ rest) = some (ds, rest) := by
  have hstop : rest.takeWhile Char.isDigit = [] ∧ rest.dropWhile Char.isDigit = rest := by
    cases rest with
    | nil => exact ⟨rfl, rfl⟩
    | cons c cs => simp [hrest c rfl]
  simp [scanDigits, List.takeWhile_append_of_pos hds, List.dropWhile_append_of_pos hds, hstop, hne]

theorem splitSign_exponent (e : ℤ) (rest : List Char) :
    splitSign ((if e < 0 then ['-'] else ['+']) ++ rest) = (decide (e < 0), rest) := by
  split <;> simp [splitSign, *]

theorem signed_natAbs (e : ℤ) : signed (decide (e < 0)) e.natAbs = e := by
  unfold signed
  split <;> (next h => rw [decide_eq_true_eq] at h; omega)

theorem scanExponent_append (exponent : Option ℤ) {rest : List Char} (hrest : EndsNumeral rest) :
    scanExponent (exponent.elim [] (exponentText ['+']) ++ rest) = some (exponent, rest) := by
  cases exponent with
  | none =>
    cases rest with
    | nil => rfl
    | cons c cs =>
      obtain ⟨-, -, hlower, hupper⟩ := hrest c rfl
      simp [scanExponent, hlower, hupper]
  | some e =>
    have hdigits := scanDigits_append (digits_ne_nil e.natAbs) (fun _ => isDigit_of_mem_digits)
      hrest.endsDigits
    simp only [Option.elim_some, exponentText, List.append_assoc, List.cons_append, List.nil_append,
      scanExponent, true_or, if_true, splitSign_exponent, hdigits, Option.map_some, value_digits,
      signed_natAbs]

theorem endsDigits_exponent (exponent : Option ℤ) {rest : List Char} (hrest : EndsNumeral rest) :
    EndsDigits (exponent.elim [] (exponentText ['+']) ++ rest) := by
  cases exponent with
  | none => exact hrest.endsDigits
  | some e =>
    intro c hc
    cases hc
    rfl

theorem scanFraction_append {fraction : List Char} (hfraction : ∀ c ∈ fraction, c.isDigit = true)
    (exponent : Option ℤ) {rest : List Char} (hrest : EndsNumeral rest) :
    scanFraction ((if fraction.isEmpty then [] else '.' :: fraction) ++
        (exponent.elim [] (exponentText ['+']) ++ rest)) =
      some (fraction, exponent.elim [] (exponentText ['+']) ++ rest) := by
  cases fraction with
  | nil =>
    cases exponent with
    | none =>
      cases rest with
      | nil => rfl
      | cons c cs => simp [scanFraction, (hrest c rfl).2.1]
    | some e => rfl
  | cons d ds =>
    exact scanDigits_append (List.cons_ne_nil d ds) hfraction (endsDigits_exponent exponent hrest)

theorem endsDigits_fraction (fraction : List Char) (exponent : Option ℤ) {rest : List Char}
    (hrest : EndsNumeral rest) :
    EndsDigits ((if fraction.isEmpty then [] else '.' :: fraction) ++
      (exponent.elim [] (exponentText ['+']) ++ rest)) := by
  cases fraction with
  | nil => exact endsDigits_exponent exponent hrest
  | cons d ds =>
    intro c hc
    cases hc
    rfl

/-- A canonical numeral is scanned as itself. -/
theorem scanNumeral_render {n : Numeral} (hn : n.Canonical) {rest : List Char}
    (hrest : EndsNumeral rest) : scanNumeral (n.render ['+'] ++ rest) = some (n, rest) := by
  have hwhole := scanDigits_append hn.whole_ne_nil hn.whole_digits
    (endsDigits_fraction n.fraction n.exponent hrest)
  have hfraction := scanFraction_append hn.fraction_digits n.exponent hrest
  have hzero : (n.whole.head? = some '0' && n.whole.length ≠ 1 : Bool) = false := by
    by_cases hhead : n.whole.head? = some '0'
    · simp [hn.head_zero hhead]
    · simp [hhead]
  have hmagnitude (negative : Bool) : scanMagnitude negative (n.whole ++
      ((if n.fraction.isEmpty then [] else '.' :: n.fraction) ++
        (n.exponent.elim [] (exponentText ['+']) ++ rest))) =
      some (⟨negative, n.whole, n.fraction, n.exponent⟩, rest) := by
    simp only [scanMagnitude, hwhole, hfraction, scanExponent_append n.exponent hrest, hzero,
      Option.bind_eq_bind, Option.bind_some]
    rfl
  obtain ⟨negative, whole, fraction, exponent⟩ := n
  simp only [Numeral.render, List.append_assoc]
  cases negative with
  | true => exact hmagnitude true
  | false =>
    rw [if_neg (by decide), List.nil_append, ← hmagnitude false]
    cases whole with
    | nil => exact absurd rfl hn.whole_ne_nil
    | cons d ds =>
      have hd : d ≠ '-' := by
        rintro rfl
        exact absurd (hn.whole_digits '-' (by simp)) (by decide)
      simp [scanNumeral, hd]

/-- The text of a canonical numeral begins with a digit or with a minus sign. -/
theorem exists_render_eq_cons {n : Numeral} (hn : n.Canonical) :
    ∃ c cs, n.render ['+'] = c :: cs ∧ (c = '-' ∨ c.isDigit = true) := by
  obtain ⟨negative, whole, fraction, exponent⟩ := n
  cases negative with
  | true => exact ⟨_, _, rfl, .inl rfl⟩
  | false =>
    cases whole with
    | nil => exact absurd rfl hn.whole_ne_nil
    | cons d ds => exact ⟨_, _, rfl, .inr (hn.whole_digits d (by simp))⟩

/-- What begins like a number is scanned as a number. -/
theorem scanToken_of_numeral {c : Char} (hc : c = '-' ∨ c.isDigit = true) (cs : List Char) :
    isBlank c = false ∧
      scanToken (c :: cs) = (scanNumeral (c :: cs)).map fun (n, rest) => (.number n, rest) := by
  have hother : c ∉ [' ', '\t', '\n', '\r', '\x7b', '\x7d', '[', ']', ':', ',', 'n', 't', 'f', '"'] := by
    rcases hc with rfl | hc
    · decide
    · exact forall_isDigit (p := (· ∉ [' ', '\t', '\n', '\r', '\x7b', '\x7d', '[', ']', ':', ',', 'n',
        't', 'f', '"'])) (by decide) hc
  simp only [List.mem_cons, List.not_mem_nil, not_or, or_false] at hother
  refine ⟨by simp [isBlank, hother], ?_⟩
  rw [scanToken] <;> simp [hother]

/-- Says that a content may stand between quotes: the next quote after it ends the string. -/
def IsContent (raw : List Char) : Prop :=
  ∀ rest, scanString (raw ++ '"' :: rest) = some (raw, rest)

theorem isContent_nil : IsContent [] :=
  fun rest => by rw [List.nil_append, scanString]

/-- A character that needs no escape is kept. -/
theorem scanString_cons {c : Char} (hquote : c ≠ '"') (hbackslash : c ≠ '\\') (hcontrol : ¬ c < ' ')
    (cs : List Char) :
    scanString (c :: cs) = (scanString cs).map fun (raw, after) => (c :: raw, after) := by
  rw [scanString.eq_def]
  split
  · next heq => cases heq
  · next heq => exact absurd (List.cons.inj heq).1 hquote
  · next heq => exact absurd (List.cons.inj heq).1 hbackslash
  · next heq => exact absurd (List.cons.inj heq).1 hbackslash
  · next heq =>
    cases heq
    rw [if_neg hcontrol]

/-- A character that needs no escape may come first. -/
theorem IsContent.cons {raw : List Char} (h : IsContent raw) {c : Char} (hquote : c ≠ '"')
    (hbackslash : c ≠ '\\') (hcontrol : ¬ c < ' ') : IsContent (c :: raw) := by
  intro rest
  rw [List.cons_append, scanString_cons hquote hbackslash hcontrol, h rest]
  rfl

/-- Says whether a character stands for itself in a string. -/
def isPlain (c : Char) : Bool :=
  c ≠ '"' && c ≠ '\\' && !decide (c < ' ')

/-- Characters that stand for themselves may come first. -/
theorem IsContent.append_plain {raw : List Char} (h : IsContent raw) {front : List Char}
    (hfront : front.all isPlain = true) : IsContent (front ++ raw) := by
  induction front with
  | nil => exact h
  | cons c front ih =>
    rw [List.all_cons, Bool.and_eq_true] at hfront
    obtain ⟨⟨hquote, hbackslash⟩, hcontrol⟩ : (c ≠ '"' ∧ c ≠ '\\') ∧ ¬ c < ' ' := by
      simpa [isPlain] using hfront.1
    exact (ih hfront.2).cons hquote hbackslash hcontrol

theorem isContent_of_plain {raw : List Char} (h : raw.all isPlain = true) : IsContent raw := by
  have hcontent := isContent_nil.append_plain h
  rwa [List.append_nil] at hcontent

end TelemetryCharts.Json
