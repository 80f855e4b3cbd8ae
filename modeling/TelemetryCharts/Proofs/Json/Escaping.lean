import TelemetryCharts.Proofs.Json.Scanning

/-!
# Text between quotes

Every text has a content that may stand between quotes, and that content stands for the text.
-/

namespace TelemetryCharts.Json

/-- The digits of a control character stand for its code point, and for themselves in a string. -/
theorem control_digits {n : ℕ} (hn : n < 32) :
    codeUnit? '0' '0' (hexChar (n / 16)) (hexChar (n % 16)) = some n ∧
      startsWithUnit ['0', '0', hexChar (n / 16), hexChar (n % 16)] = true ∧
      ['0', '0', hexChar (n / 16), hexChar (n % 16)].all isPlain = true := by
  have hall : ∀ n < 32, codeUnit? '0' '0' (hexChar (n / 16)) (hexChar (n % 16)) = some n ∧
      startsWithUnit ['0', '0', hexChar (n / 16), hexChar (n % 16)] = true ∧
      ['0', '0', hexChar (n / 16), hexChar (n % 16)].all isPlain = true := by
    decide
  exact hall n hn

theorem toNat_lt_of_control {c : Char} (hc : c < ' ') : c.toNat < 32 :=
  hc

theorem unescapeFrom_escapeChar (c : Char) (rest : List Char) :
    unescapeFrom none (escapeChar c ++ rest) = (unescapeFrom none rest).map (c :: ·) := by
  unfold escapeChar
  split
  case h_8 hquote hbackslash _ _ _ _ _ =>
    split
    · next hcontrol =>
      have hn := toNat_lt_of_control hcontrol
      have hhigh : isHighSurrogate c.toNat = false := by
        simp only [isHighSurrogate, Bool.and_eq_false_iff, decide_eq_false_iff_not]
        omega
      have hlow : isLowSurrogate c.toNat = false := by
        simp only [isLowSurrogate, Bool.and_eq_false_iff, decide_eq_false_iff_not]
        omega
      simp only [List.cons_append, List.nil_append, unescapeFrom, (control_digits hn).1,
        Option.bind_eq_bind, Option.bind_some, hhigh, hlow, Char.ofNat_toNat]
      rfl
    · rw [List.singleton_append, unescapeFrom]
      · rfl
      all_goals
        intros
        contradiction
  all_goals simp [unescapeFrom, shortEscape?]

/-- A text is what its content stands for. -/
theorem unescape_escape (text : List Char) : unescape (escape text) = some text := by
  rw [unescape, escape]
  induction text with
  | nil => rfl
  | cons c text ih => rw [List.flatMap_cons, unescapeFrom_escapeChar, ih, Option.map_some]

theorem IsContent.escapeChar_append {raw : List Char} (h : IsContent raw) (c : Char) :
    IsContent (escapeChar c ++ raw) := by
  unfold escapeChar
  split
  case h_8 hquote hbackslash _ _ _ _ _ =>
    split
    · next hcontrol =>
      obtain ⟨-, hunit, hplain⟩ := control_digits (toNat_lt_of_control hcontrol)
      have hdigits := h.append_plain hplain
      intro rest
      have hstarts : startsWithUnit (['0', '0', hexChar (c.toNat / 16), hexChar (c.toNat % 16)] ++
          raw ++ '"' :: rest) = true := hunit
      show scanString ('\\' :: 'u' :: (_ ++ raw ++ '"' :: rest)) = _
      rw [scanString, hstarts, hdigits rest]
      rfl
    · next hcontrol => exact h.cons hquote hbackslash hcontrol
  all_goals
    intro rest
    simp [scanString, h rest]

/-- The content of a text may stand between quotes. -/
theorem isContent_escape (text : List Char) : IsContent (escape text) := by
  rw [escape]
  induction text with
  | nil => exact isContent_nil
  | cons c text ih => exact ih.escapeChar_append c

end TelemetryCharts.Json
