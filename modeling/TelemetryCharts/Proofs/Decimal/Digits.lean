import TelemetryCharts.Decimal.Digits
import TelemetryCharts.Table.Kind

/-!
# Reading integers back

Written integers are runs of ASCII digits with at most a minus sign before them. They are read as
the integers that they were, and they look like integers to the reader of a table.
-/

namespace TelemetryCharts.Decimal

theorem digits_ne_nil (n : Nat) : digits n ≠ [] :=
  Nat.toDigits_ne_nil

theorem isDigit_of_mem_digits {n : Nat} {c : Char} (hc : c ∈ digits n) : c.isDigit = true :=
  Nat.isDigit_of_mem_toDigits (by decide) (by decide) hc

/-- The digits of a number have its value. -/
theorem value_digits (n : Nat) : value (digits n) = n := by
  have h := Nat.ofDigitChars_ten_toDigits (n := n)
  rwa [Nat.ofDigitChars_eq_foldl] at h

theorem natural?_digits (n : Nat) : natural? (digits n) = some n := by
  have hdigits : (digits n).all Char.isDigit = true :=
    List.all_eq_true.2 fun _ hc => isDigit_of_mem_digits hc
  rw [natural?, if_pos ⟨digits_ne_nil n, hdigits⟩, value_digits]

theorem isDigit_iff {c : Char} : c.isDigit = true ↔ 48 ≤ c.toNat ∧ c.toNat ≤ 57 := by
  simp only [Char.isDigit, Bool.and_eq_true, decide_eq_true_eq, UInt32.le_iff_toNat_le]
  exact Iff.rfl

/-- What holds of the ten digits holds of every digit. -/
theorem forall_isDigit {p : Char → Prop} (h : ∀ n < 10, p (Char.ofNat (48 + n))) {c : Char}
    (hc : c.isDigit = true) : p c := by
  obtain ⟨hlow, hhigh⟩ := isDigit_iff.1 hc
  have hdigit := h (c.toNat - 48) (by omega)
  rwa [Nat.add_sub_cancel' hlow, Char.ofNat_toNat] at hdigit

/-- A text that starts with a digit has no sign. -/
theorem splitSign_of_isDigit {c : Char} (hc : c.isDigit = true) (cs : List Char) :
    splitSign (c :: cs) = (false, c :: cs) := by
  unfold splitSign
  split
  · next heq => cases heq; exact absurd hc (by decide)
  · next heq => cases heq; exact absurd hc (by decide)
  · rfl

theorem exists_digits_eq_cons (n : Nat) : ∃ c cs, digits n = c :: cs ∧ c.isDigit = true := by
  cases h : digits n with
  | nil => exact absurd h (digits_ne_nil n)
  | cons c cs => exact ⟨c, cs, rfl, isDigit_of_mem_digits (n := n) (by simp [h])⟩

theorem integer?_digits (n : Nat) : integer? (digits n) = some (n : Int) := by
  obtain ⟨c, cs, hcs, hc⟩ := exists_digits_eq_cons n
  have hsign : splitSign (digits n) = (false, digits n) := by
    rw [hcs]
    exact splitSign_of_isDigit hc cs
  rw [integer?, hsign, natural?_digits]
  rfl

theorem integer?_minus_digits (n : Nat) : integer? ('-' :: digits n) = some (-(n : Int)) := by
  rw [integer?, splitSign, natural?_digits]
  rfl

/-- A written integer is read as that integer. -/
theorem integer?_signedDigits (i : Int) : integer? (signedDigits i) = some i := by
  unfold signedDigits
  split
  · rw [integer?_minus_digits]
    congr 1
    omega
  · rw [integer?_digits]
    congr 1
    omega

theorem signedDigits_natCast (n : Nat) : signedDigits n = digits n := by
  rw [signedDigits, if_neg (by omega), Int.natAbs_natCast]

/-- A written integer holds digits and possibly a minus sign. -/
theorem mem_signedDigits {i : Int} {c : Char} (hc : c ∈ signedDigits i) :
    c = '-' ∨ c.isDigit = true := by
  unfold signedDigits at hc
  split at hc
  · cases List.mem_cons.1 hc with
    | inl h => exact .inl h
    | inr h => exact .inr (isDigit_of_mem_digits h)
  · exact .inr (isDigit_of_mem_digits hc)

theorem signedDigits_ne_nil (i : Int) : signedDigits i ≠ [] := by
  unfold signedDigits
  split
  · exact List.cons_ne_nil _ _
  · exact digits_ne_nil _

end TelemetryCharts.Decimal

namespace TelemetryCharts.Table

open Text Decimal

/-- The digits of ASCII are among those of all scripts. -/
theorem isDecimalDigit_of_isDigit {c : Char} (hc : c.isDigit = true) : isDecimalDigit c = true := by
  have hrange := isDigit_iff.1 hc
  rw [isDecimalDigit, List.any_eq_true]
  refine ⟨0x30, by decide, ?_⟩
  simp only [Bool.and_eq_true, decide_eq_true_eq]
  omega

theorem isDigits_digits (n : Nat) : isDigits (digits n) = true := by
  simp only [isDigits, Bool.and_eq_true, Bool.not_eq_true', List.isEmpty_eq_false_iff]
  exact ⟨digits_ne_nil n, List.all_eq_true.2 fun _ hc =>
    isDecimalDigit_of_isDigit (isDigit_of_mem_digits hc)⟩

/-- A cell whose first character is a digit or a minus sign is no truth value and not in quotes. -/
theorem Kind.of_cons {c : Char} (hc : c = '-' ∨ c.isDigit = true) (cs : List Char) :
    Kind.of (c :: cs) =
      if isFloat (c :: cs) then float else if isInteger (c :: cs) then integer else text := by
  have hquote : isInQuotes (c :: cs) = false := by
    have hne : c ≠ '"' := by
      rintro rfl
      revert hc
      decide
    simp [isInQuotes, hne]
  have hboolean : isBoolean (c :: cs) = false := by
    have ht : foldCase c ≠ 't' ∧ foldCase c ≠ 'f' := by
      cases hc with
      | inl h => rw [h]; decide
      | inr h => exact forall_isDigit (p := fun c => foldCase c ≠ 't' ∧ foldCase c ≠ 'f') (by decide) h
    simp [isBoolean, ht]
  rw [Kind.of, hquote, hboolean]
  rfl

theorem dropSign_of_isDigit {c : Char} (hc : c.isDigit = true) (cs : List Char) :
    dropSign (c :: cs) = c :: cs := by
  unfold dropSign
  split
  · next heq => cases heq; exact absurd hc (by decide)
  · next heq => cases heq; exact absurd hc (by decide)
  · rfl

theorem dropSign_digits (n : Nat) : dropSign (digits n) = digits n := by
  obtain ⟨c, cs, hcs, hc⟩ := exists_digits_eq_cons n
  rw [hcs, dropSign_of_isDigit hc]

theorem takeWhile_isDecimalDigit {ds : List Char} (hds : ∀ c ∈ ds, c.isDigit = true)
    (rest : List Char) :
    (ds ++ rest).takeWhile isDecimalDigit = ds ++ rest.takeWhile isDecimalDigit :=
  List.takeWhile_append_of_pos fun c hc => isDecimalDigit_of_isDigit (hds c hc)

theorem dropWhile_isDecimalDigit {ds : List Char} (hds : ∀ c ∈ ds, c.isDigit = true)
    (rest : List Char) :
    (ds ++ rest).dropWhile isDecimalDigit = rest.dropWhile isDecimalDigit :=
  List.dropWhile_append_of_pos fun c hc => isDecimalDigit_of_isDigit (hds c hc)

/-- Says whether what follows the first digits of a cell makes it a number that is not whole. -/
def marksFloat : List Char → Bool
  | '.' :: fraction =>
    let after := fraction.dropWhile isDecimalDigit
    if fraction.takeWhile isDecimalDigit = [] then after.isEmpty
    else after.isEmpty || isExponent after
  | rest => isExponent rest

/-- Whether a cell looks like a number with a point or an exponent is decided by what follows the
digits with which it begins. -/
theorem isFloat_of_dropSign_eq {cell ds rest : List Char} (h : dropSign cell = ds ++ rest)
    (hne : ds ≠ []) (hds : ∀ c ∈ ds, c.isDigit = true) (hrest : rest.takeWhile isDecimalDigit = []) :
    isFloat cell = marksFloat rest := by
  have hwhole := takeWhile_isDecimalDigit hds rest
  have hdrop := dropWhile_isDecimalDigit hds rest
  have hsame : rest.dropWhile isDecimalDigit = rest := by
    have happend := List.takeWhile_append_dropWhile (p := isDecimalDigit) (l := rest)
    rwa [hrest, List.nil_append] at happend
  have hname : (ds ++ rest ∈ ["inf".toList, "NaN".toList]) = False := by
    cases ds with
    | nil => exact absurd rfl hne
    | cons d ds =>
      have hd : d ≠ 'i' ∧ d ≠ 'N' :=
        forall_isDigit (p := fun d => d ≠ 'i' ∧ d ≠ 'N') (by decide) (hds d (by simp))
      simp [hd]
  have hempty : (ds ++ ([] : List Char)).isEmpty = false := by simpa using hne
  simp only [isFloat, h, hwhole, hdrop, hsame, hrest, hname, hempty, decide_false, Bool.false_or,
    Bool.not_false, Bool.true_and]
  rfl

theorem isFloat_of_dropSign_eq_digits {cell : List Char} {n : Nat} (h : dropSign cell = digits n) :
    isFloat cell = false := by
  have happend : dropSign cell = digits n ++ [] := by rw [h, List.append_nil]
  rw [isFloat_of_dropSign_eq happend (digits_ne_nil n) (fun c => isDigit_of_mem_digits) rfl]
  rfl

/-- A written integer looks like an integer. -/
theorem Kind.of_signedDigits (i : Int) : Kind.of (signedDigits i) = integer := by
  unfold signedDigits
  split
  · rw [Kind.of_cons (.inl rfl), isFloat_of_dropSign_eq_digits rfl, isInteger, isDigits_digits]
    rfl
  · obtain ⟨c, cs, hcs, hc⟩ := exists_digits_eq_cons i.natAbs
    have hinteger : isInteger (c :: cs) = true := by
      have hne : c ≠ '-' := forall_isDigit (p := fun c => c ≠ '-') (by decide) hc
      rw [isInteger, ← hcs, isDigits_digits]
      simpa using hne
    have hfloat : isFloat (c :: cs) = false :=
      isFloat_of_dropSign_eq_digits (n := i.natAbs) (by rw [dropSign_of_isDigit hc, hcs])
    rw [hcs, Kind.of_cons (.inr hc), hfloat, hinteger]
    rfl

end TelemetryCharts.Table
