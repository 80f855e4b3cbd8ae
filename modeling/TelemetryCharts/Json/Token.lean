import TelemetryCharts.Decimal.Numeral

/-!
# Tokens of JSON text

A text is cut into tokens before its structure is looked at. The content of a string stays as it is
written: a token only says that every escape in it has the right form, so a string that is never
used may hold half of a surrogate pair.
-/

namespace TelemetryCharts.Json

open Decimal

/-- The smallest parts of a JSON text. -/
inductive Token
  | beginObject
  | endObject
  | beginArray
  | endArray
  | colon
  | comma
  | null
  | boolean (b : Bool)
  | number (n : Numeral)
  | string (raw : List Char)
  deriving DecidableEq, Repr

/-- Says whether a character may stand between tokens. -/
def isBlank (c : Char) : Bool :=
  c = ' ' || c = '\t' || c = '\n' || c = '\r'

/-- The number that a hexadecimal digit stands for. -/
def hexDigit? (c : Char) : Option Nat :=
  if '0' ≤ c && c ≤ '9' then some (c.toNat - '0'.toNat)
  else if 'a' ≤ c && c ≤ 'f' then some (c.toNat - 'a'.toNat + 10)
  else if 'A' ≤ c && c ≤ 'F' then some (c.toNat - 'A'.toNat + 10)
  else none

/-- Says whether four hexadecimal digits come next. -/
def startsWithUnit : List Char → Bool
  | a :: b :: c :: d :: _ => [a, b, c, d].all fun x => (hexDigit? x).isSome
  | _ => false

/-- The content of a string up to its closing quote, and what follows the quote. -/
def scanString : List Char → Option (List Char × List Char)
  | [] => none
  | '"' :: rest => some ([], rest)
  | ['\\'] => none
  | '\\' :: c :: rest =>
    if c ∈ ['"', '\\', '/', 'b', 'f', 'n', 'r', 't'] || (c = 'u' && startsWithUnit rest) then
      (scanString rest).map fun (raw, after) => ('\\' :: c :: raw, after)
    else none
  | c :: rest =>
    if c < ' ' then none
    else (scanString rest).map fun (raw, after) => (c :: raw, after)

/-- The digits at the start of a text, at least one of them, and what follows them. -/
def scanDigits (cs : List Char) : Option (List Char × List Char) :=
  let ds := cs.takeWhile Char.isDigit
  if ds = [] then none else some (ds, cs.dropWhile Char.isDigit)

/-- The digits after a point, if there is a point. -/
def scanFraction : List Char → Option (List Char × List Char)
  | '.' :: rest => scanDigits rest
  | cs => some ([], cs)

/-- The power of ten after an `e`, if there is one. -/
def scanExponent : List Char → Option (Option Int × List Char)
  | [] => some (none, [])
  | e :: rest =>
    if e = 'e' ∨ e = 'E' then
      let (negative, rest) := splitSign rest
      (scanDigits rest).map fun (ds, rest) => (some (signed negative (value ds)), rest)
    else some (none, e :: rest)

/-- A numeral without its sign. A zero at the start must be the only digit before the point. -/
def scanMagnitude (negative : Bool) (cs : List Char) : Option (Numeral × List Char) := do
  let (whole, cs) ← scanDigits cs
  if whole.head? = some '0' && whole.length ≠ 1 then none
  let (fraction, cs) ← scanFraction cs
  let (exponent, cs) ← scanExponent cs
  return (⟨negative, whole, fraction, exponent⟩, cs)

/-- A numeral with its sign. -/
def scanNumeral : List Char → Option (Numeral × List Char)
  | '-' :: cs => scanMagnitude true cs
  | cs => scanMagnitude false cs

/-- The token at the start of a text that does not start with a blank, and what follows it. -/
def scanToken : List Char → Option (Token × List Char)
  | '{' :: rest => some (.beginObject, rest)
  | '}' :: rest => some (.endObject, rest)
  | '[' :: rest => some (.beginArray, rest)
  | ']' :: rest => some (.endArray, rest)
  | ':' :: rest => some (.colon, rest)
  | ',' :: rest => some (.comma, rest)
  | 'n' :: 'u' :: 'l' :: 'l' :: rest => some (.null, rest)
  | 't' :: 'r' :: 'u' :: 'e' :: rest => some (.boolean true, rest)
  | 'f' :: 'a' :: 'l' :: 's' :: 'e' :: rest => some (.boolean false, rest)
  | '"' :: rest => (scanString rest).map fun (raw, rest) => (.string raw, rest)
  | cs => (scanNumeral cs).map fun (n, rest) => (.number n, rest)

theorem length_scanDigits {cs ds rest : List Char} (h : scanDigits cs = some (ds, rest)) :
    rest.length < cs.length := by
  have split : cs.takeWhile Char.isDigit ++ cs.dropWhile Char.isDigit = cs :=
    List.takeWhile_append_dropWhile
  simp only [scanDigits] at h
  split at h
  · simp at h
  · next nonempty =>
    obtain ⟨rfl, rfl⟩ := Prod.mk.injEq .. ▸ Option.some.injEq .. ▸ h
    have := congrArg List.length split
    have := List.length_pos_iff.2 nonempty
    simp only [List.length_append] at *
    omega

theorem length_scanFraction {cs ds rest : List Char} (h : scanFraction cs = some (ds, rest)) :
    rest.length ≤ cs.length := by
  unfold scanFraction at h
  split at h
  · have := length_scanDigits h
    simp only [List.length_cons]
    omega
  · simp_all

theorem length_splitSign (cs : List Char) : (splitSign cs).2.length ≤ cs.length := by
  unfold splitSign
  split <;> simp

theorem length_scanExponent {cs rest : List Char} {e : Option Int}
    (h : scanExponent cs = some (e, rest)) : rest.length ≤ cs.length := by
  cases cs with
  | nil => simp_all [scanExponent]
  | cons c cs =>
    simp only [scanExponent] at h
    split at h
    · obtain ⟨⟨ds, after⟩, digits, last⟩ := Option.map_eq_some_iff.1 h
      obtain ⟨rfl, rfl⟩ := Prod.mk.injEq .. ▸ last
      have := length_scanDigits digits
      have := length_splitSign cs
      simp only [List.length_cons]
      omega
    · simp_all

theorem length_scanMagnitude {negative : Bool} {cs rest : List Char} {n : Numeral}
    (h : scanMagnitude negative cs = some (n, rest)) : rest.length < cs.length := by
  simp only [scanMagnitude, Option.bind_eq_bind, Option.bind_eq_some_iff, Prod.exists] at h
  obtain ⟨whole, afterWhole, hWhole, h⟩ := h
  split at h
  · simp at h
  · simp only [Option.bind_eq_some_iff, Prod.exists] at h
    obtain ⟨fraction, afterFraction, hFraction, exponent, afterExponent, hExponent, h⟩ := h
    obtain ⟨rfl, rfl⟩ := Prod.mk.injEq .. ▸ Option.some.injEq .. ▸ h
    have := length_scanDigits hWhole
    have := length_scanFraction hFraction
    have := length_scanExponent hExponent
    omega

theorem length_scanNumeral {cs rest : List Char} {n : Numeral}
    (h : scanNumeral cs = some (n, rest)) : rest.length < cs.length := by
  unfold scanNumeral at h
  split at h
  · have := length_scanMagnitude h
    simp only [List.length_cons]
    omega
  · exact length_scanMagnitude h

theorem length_scanString {cs raw rest : List Char} (h : scanString cs = some (raw, rest)) :
    rest.length < cs.length := by
  fun_induction scanString cs generalizing raw rest with
  | case1 => simp at h
  | case2 => simp_all
  | case3 => simp at h
  | case4 c after _ ih | case7 c after _ _ _ _ ih =>
    obtain ⟨⟨raw', after'⟩, hRest, last⟩ := Option.map_eq_some_iff.1 h
    obtain ⟨-, rfl⟩ := Prod.mk.injEq .. ▸ last
    have := ih hRest
    simp only [List.length_cons]
    omega
  | case5 | case6 => simp at h

/-- A token takes at least one character off the text. -/
theorem length_scanToken {cs rest : List Char} {t : Token} (h : scanToken cs = some (t, rest)) :
    rest.length < cs.length := by
  unfold scanToken at h
  split at h
  case h_10 =>
    obtain ⟨⟨raw, after⟩, hString, last⟩ := Option.map_eq_some_iff.1 h
    obtain ⟨-, rfl⟩ := Prod.mk.injEq .. ▸ last
    have := length_scanString hString
    simp only [List.length_cons]
    omega
  case h_11 =>
    obtain ⟨⟨n, after⟩, hNumeral, last⟩ := Option.map_eq_some_iff.1 h
    obtain ⟨-, rfl⟩ := Prod.mk.injEq .. ▸ last
    exact length_scanNumeral hNumeral
  all_goals
    obtain ⟨-, rfl⟩ := Prod.mk.injEq .. ▸ Option.some.injEq .. ▸ h
    simp only [List.length_cons]
    omega

/-- The tokens of a text, or `none` if some part of it is no token. -/
def scan (cs : List Char) : Option (List Token) :=
  match cs with
  | [] => some []
  | c :: rest =>
    if isBlank c then scan rest
    else
      match h : scanToken (c :: rest) with
      | none => none
      | some (t, after) =>
        have := length_scanToken h
        (scan after).map (t :: ·)
termination_by cs.length
decreasing_by all_goals (simp only [List.length_cons] at *; omega)

end TelemetryCharts.Json
