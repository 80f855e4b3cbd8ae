import TelemetryCharts.Proofs.Json.Printing

/-!
# Passages of a text

What a text says does not depend on the text that it is a passage of: where a value may come next, the
reader gets through any text of a value and has then read that value, however the text is laid out, how
its numbers and strings are written, and how deep it is nested.
-/

namespace TelemetryCharts.Json

open Decimal

theorem EndsDigits.append {after rest : List Char} (hafter : EndsDigits after)
    (hrest : EndsDigits rest) : EndsDigits (after ++ rest) := by
  cases after with
  | nil => exact hrest
  | cons c after => exact hafter

section
variable {cs ds after rest : List Char} {negative : Bool} {e : Option ℤ} {n : Numeral}

/-- The digits that are scanned are all digits that there are. -/
theorem eq_append_of_scanDigits (h : scanDigits cs = some (ds, after)) :
    cs = ds ++ after ∧ ds ≠ [] ∧ (∀ c ∈ ds, c.isDigit = true) ∧ EndsDigits after := by
  rw [scanDigits] at h
  split at h
  · cases h
  · next hne =>
    cases h
    refine ⟨List.takeWhile_append_dropWhile.symm, hne, fun c hc => List.mem_takeWhile_imp hc, ?_⟩
    intro c hc
    have hhead := List.head?_dropWhile_not Char.isDigit cs
    rwa [hc] at hhead

theorem scanDigits_passage (h : scanDigits cs = some (ds, after)) (hrest : EndsDigits rest) :
    scanDigits (cs ++ rest) = some (ds, after ++ rest) := by
  obtain ⟨rfl, hne, hds, hafter⟩ := eq_append_of_scanDigits h
  rw [List.append_assoc]
  exact scanDigits_append hne hds (hafter.append hrest)

theorem scanFraction_passage (h : scanFraction cs = some (ds, after)) (hrest : EndsNumeral rest) :
    scanFraction (cs ++ rest) = some (ds, after ++ rest) := by
  cases cs with
  | nil =>
    cases h
    have hnothing : ∀ c ∈ ([] : List Char), c.isDigit = true := nofun
    exact scanFraction_append hnothing none hrest
  | cons c cs =>
    by_cases hc : c = '.'
    · subst hc
      exact scanDigits_passage h hrest.endsDigits
    · have hwhole : ∀ tail, scanFraction (c :: tail) = some ([], c :: tail) := by
        intro tail
        simp [scanFraction, hc]
      rw [hwhole] at h
      cases h
      exact hwhole _

theorem splitSign_passage (hne : cs ≠ []) (rest : List Char) :
    splitSign (cs ++ rest) = ((splitSign cs).1, (splitSign cs).2 ++ rest) := by
  cases cs with
  | nil => exact absurd rfl hne
  | cons c cs =>
    by_cases hsign : c = '-' ∨ c = '+'
    · rcases hsign with rfl | rfl <;> rfl
    · rw [not_or] at hsign
      simp [splitSign, hsign]

theorem scanExponent_passage (h : scanExponent cs = some (e, after)) (hrest : EndsNumeral rest) :
    scanExponent (cs ++ rest) = some (e, after ++ rest) := by
  cases cs with
  | nil =>
    cases h
    exact scanExponent_append none hrest
  | cons c cs =>
    rw [scanExponent] at h
    rw [List.cons_append, scanExponent]
    split at h
    · next hmark =>
      obtain ⟨⟨ds, tail⟩, hscan, heq⟩ := Option.map_eq_some_iff.1 h
      have hdigits : scanDigits (splitSign cs).2 = some (ds, tail) := hscan
      have hne : cs ≠ [] := by
        rintro rfl
        cases hdigits
      cases heq
      rw [if_pos hmark, splitSign_passage hne]
      dsimp only
      rw [scanDigits_passage hdigits hrest.endsDigits]
      rfl
    · next hmark =>
      cases h
      rw [if_neg hmark]
      rfl

theorem scanMagnitude_passage (h : scanMagnitude negative cs = some (n, after))
    (hrest : EndsNumeral rest) : scanMagnitude negative (cs ++ rest) = some (n, after ++ rest) := by
  simp only [scanMagnitude, Option.bind_eq_bind, Option.bind_eq_some_iff, Prod.exists] at h
  obtain ⟨whole, afterWhole, hwhole, h⟩ := h
  split at h
  · cases h
  · next hzero =>
    simp only [Option.bind_eq_some_iff, Prod.exists] at h
    obtain ⟨fraction, afterFraction, hfraction, exponent, afterExponent, hexponent, h⟩ := h
    cases h
    rw [scanMagnitude, scanDigits_passage hwhole hrest.endsDigits]
    simp only [Option.bind_eq_bind, Option.bind_some, hzero, scanFraction_passage hfraction hrest,
      scanExponent_passage hexponent hrest]
    rfl

theorem scanNumeral_passage (h : scanNumeral cs = some (n, after)) (hrest : EndsNumeral rest) :
    scanNumeral (cs ++ rest) = some (n, after ++ rest) := by
  cases cs with
  | nil => cases h
  | cons c cs =>
    by_cases hc : c = '-'
    · subst hc
      exact scanMagnitude_passage h hrest
    · have hunsigned : ∀ tail, scanNumeral (c :: tail) = scanMagnitude false (c :: tail) := by
        intro tail
        simp [scanNumeral, hc]
      rw [hunsigned] at h
      rw [List.cons_append, hunsigned, ← List.cons_append]
      exact scanMagnitude_passage h hrest

/-- A number begins with a digit or with a minus sign. -/
theorem exists_eq_cons_of_scanNumeral (h : scanNumeral cs = some (n, after)) :
    ∃ c tail, cs = c :: tail ∧ (c = '-' ∨ c.isDigit = true) := by
  cases cs with
  | nil => cases h
  | cons c cs =>
    refine ⟨c, cs, rfl, ?_⟩
    by_cases hc : c = '-'
    · exact .inl hc
    · have hunsigned : scanNumeral (c :: cs) = scanMagnitude false (c :: cs) := by
        simp [scanNumeral, hc]
      rw [hunsigned, scanMagnitude] at h
      obtain ⟨⟨whole, afterWhole⟩, hwhole, -⟩ := Option.bind_eq_some_iff.1 h
      obtain ⟨heq, hne, hdigits, -⟩ := eq_append_of_scanDigits hwhole
      cases whole with
      | nil => exact absurd rfl hne
      | cons d whole =>
        cases heq
        exact .inr (hdigits c (by simp))

end

theorem startsWithUnit_append {cs : List Char} (h : startsWithUnit cs = true) (rest : List Char) :
    startsWithUnit (cs ++ rest) = true := by
  unfold startsWithUnit at h
  split at h
  · exact h
  · cases h

theorem scanString_passage {cs raw after : List Char} (h : scanString cs = some (raw, after))
    (rest : List Char) : scanString (cs ++ rest) = some (raw, after ++ rest) := by
  fun_induction scanString cs generalizing raw after with
  | case1 => cases h
  | case2 tail =>
    cases h
    rw [List.cons_append, scanString]
  | case3 => cases h
  | case4 c tail hescape ih =>
    obtain ⟨⟨raw, after⟩, hscan, heq⟩ := Option.map_eq_some_iff.1 h
    cases heq
    have hescape' : (c ∈ ['"', '\\', '/', 'b', 'f', 'n', 'r', 't'] ||
        (c = 'u' && startsWithUnit (tail ++ rest))) = true := by
      rw [Bool.or_eq_true, Bool.and_eq_true] at hescape ⊢
      exact hescape.imp id fun hunit => ⟨hunit.1, startsWithUnit_append hunit.2 rest⟩
    rw [List.cons_append, List.cons_append, scanString, if_pos hescape', ih hscan]
    rfl
  | case5 => cases h
  | case6 => cases h
  | case7 c tail hquote hlast hescape hcontrol ih =>
    obtain ⟨⟨raw, after⟩, hscan, heq⟩ := Option.map_eq_some_iff.1 h
    cases heq
    have hbackslash : c ≠ '\\' := by
      intro hc
      cases tail with
      | nil => exact hlast hc rfl
      | cons d tail => exact hescape d tail hc rfl
    rw [List.cons_append, scanString_cons hquote hbackslash hcontrol, ih hscan]
    rfl

theorem scanToken_passage {cs after : List Char} {t : Token} (h : scanToken cs = some (t, after))
    {rest : List Char} (hrest : EndsNumeral rest) :
    scanToken (cs ++ rest) = some (t, after ++ rest) := by
  unfold scanToken at h
  split at h
  case h_10 tail =>
    obtain ⟨⟨raw, after⟩, hscan, heq⟩ := Option.map_eq_some_iff.1 h
    cases heq
    show (scanString (tail ++ rest)).map _ = _
    rw [scanString_passage hscan]
    rfl
  case h_11 =>
    obtain ⟨⟨n, after⟩, hscan, heq⟩ := Option.map_eq_some_iff.1 h
    cases heq
    obtain ⟨c, tail, rfl, hc⟩ := exists_eq_cons_of_scanNumeral hscan
    rw [List.cons_append, (scanToken_of_numeral hc _).2, ← List.cons_append,
      scanNumeral_passage hscan hrest]
    rfl
  all_goals
    cases h
    simp [scanToken]

/-- The tokens of a text are those of its passages, one after the other. -/
theorem scan_append {cs : List Char} {tokens : List Token} (h : scan cs = some tokens)
    {rest : List Char} (hrest : EndsNumeral rest) :
    scan (cs ++ rest) = (scan rest).map (tokens ++ ·) := by
  fun_induction scan cs generalizing tokens with
  | case1 =>
    cases h
    simp
  | case2 c cs hblank ih =>
    rw [List.cons_append, scan, if_pos hblank, ih h]
  | case3 => cases h
  | case4 c cs hblank t after htoken hshorter ih =>
    obtain ⟨tail, htail, rfl⟩ := Option.map_eq_some_iff.1 h
    have hfirst := scanToken_passage htoken hrest
    rw [List.cons_append] at hfirst ⊢
    rw [scan, if_neg hblank]
    split
    · next hnone =>
      rw [hfirst] at hnone
      cases hnone
    · next hsome =>
      rw [hfirst] at hsome
      cases hsome
      rw [ih htail, Option.map_map]
      rfl

namespace Reading

/-- What an array or an object that is still open lies in, further out. -/
def inside (outer : List Enclosing) : Reading → Reading
  | value stack => value (stack ++ outer)
  | firstItem stack => firstItem (stack ++ outer)
  | firstMember stack => firstMember (stack ++ outer)
  | member members stack => member members (stack ++ outer)
  | colon members name stack => colon members name (stack ++ outer)
  | rest last stack => rest last (stack ++ outer)

theorem begin_inside {stack : List Enclosing} {t : Token} {r : Reading}
    (h : begin stack t = some r) (outer : List Enclosing) :
    begin (stack ++ outer) t = some (r.inside outer) := by
  cases t <;> cases h <;> rfl

/-- What lies further out does not matter to the reader until it gets there. -/
theorem next_inside {r next : Reading} {t : Token} (h : r.next t = some next)
    (outer : List Enclosing) : (r.inside outer).next t = some (next.inside outer) := by
  cases r with
  | value stack => exact begin_inside h outer
  | firstItem stack =>
    by_cases hend : t = .endArray
    · subst hend
      cases h
      rfl
    · rw [expects_firstItem stack t hend] at h
      rw [inside, expects_firstItem _ t hend]
      exact begin_inside h outer
  | firstMember stack => cases t <;> cases h <;> rfl
  | member members stack =>
    cases t <;> cases h
    rfl
  | colon members name stack =>
    cases t <;> cases h
    rfl
  | rest last stack =>
    cases stack with
    | nil => cases t <;> cases h
    | cons enclosing stack => cases enclosing <;> cases t <;> cases h <;> rfl

theorem foldlM_inside {tokens : List Token} {r last : Reading}
    (h : tokens.foldlM Reading.next r = some last) (outer : List Enclosing) :
    tokens.foldlM Reading.next (r.inside outer) = some (last.inside outer) := by
  induction tokens generalizing r with
  | nil =>
    cases h
    rfl
  | cons t tokens ih =>
    rw [List.foldlM_cons, Option.bind_eq_bind, Option.bind_eq_some_iff] at h
    obtain ⟨next, hnext, hlast⟩ := h
    rw [List.foldlM_cons, next_inside hnext, Option.bind_eq_bind, Option.bind_some, ih hlast]

end Reading

/-- Where a value may come next, the reader gets through any text of a value. -/
theorem Reading.after_of_parse {cs : List Char} {v : Value} (h : Value.parse cs = some v)
    {r : Reading} {stack : List Enclosing} (hr : r.Expects stack) {rest : List Char}
    (hrest : EndsNumeral rest) : r.after (cs ++ rest) = (Reading.rest v stack).after rest := by
  simp only [Value.parse, Option.bind_eq_bind, Option.bind_eq_some_iff] at h
  obtain ⟨tokens, hscan, last, hfold, hlast⟩ := h
  obtain rfl : last = .rest v [] := by
    cases last with
    | rest w outer =>
      cases outer with
      | nil =>
        cases hlast
        rfl
      | cons enclosing outer => cases hlast
    | _ => cases hlast
  rw [Reading.after, scan_append hscan hrest]
  cases tokens with
  | nil => cases hfold
  | cons t tokens =>
    rw [List.foldlM_cons, Option.bind_eq_bind, Option.bind_eq_some_iff] at hfold
    obtain ⟨first, hfirst, hfold⟩ := hfold
    have hend : t ≠ .endArray := by
      rintro rfl
      cases hfirst
    have hnext : r.next t = some (first.inside stack) :=
      (hr t hend).trans (Reading.begin_inside hfirst stack)
    have hgoes := Reading.foldlM_inside hfold stack
    rw [Reading.after]
    cases scan rest with
    | none => rfl
    | some others =>
      simp only [Option.map_some, Option.bind_some, List.cons_append, List.foldlM_cons,
        List.foldlM_append, hnext, hgoes, Option.bind_eq_bind]
      rfl

theorem readsMember_of_parse {raw cs : List Char} (hraw : IsContent raw) {v : Value}
    (h : Value.parse cs = some v) : ReadsMember (inQuotes raw ++ ':' :: cs) (raw, v) := by
  intro r done stack hr rest hrest
  rw [List.append_assoc, List.cons_append, Reading.after_string hraw (hr raw),
    Reading.after_token (t := .colon) rfl (by rw [scanToken]) rfl,
    Reading.after_of_parse h (Reading.expects_value _) hrest]

/-- The text of an object, from the contents of its names and the texts of its values. -/
def objectText (members : List (List Char × List Char)) : List Char :=
  '\x7b' :: commaSeparated (members.map fun m => inQuotes m.1 ++ ':' :: m.2) ++ ['\x7d']

/-- A compact object is put together from the compact texts of its values. -/
theorem render_compact_object (depth : ℕ) (members : List (List Char × Value)) :
    Value.render .compact depth (.object members) =
      objectText (members.map (Prod.map id (Value.render .compact (depth + 1)))) := by
  cases members with
  | nil => rfl
  | cons m members =>
    rw [Value.render, renderMembers_eq_map, objectText]
    · simp [Style.compact, Function.comp_def]
    · exact List.cons_ne_nil m members

/-- The member that a name and a text of a value stand for. -/
def memberOfText (m : List Char × List Char) : List Char × Value :=
  (m.1, (Value.parse m.2).getD .null)

/-- An object is put together from any texts of its values. -/
theorem parse_objectText {members : List (List Char × List Char)}
    (hnames : ∀ m ∈ members, IsContent m.1) (hvalues : ∀ m ∈ members, ∃ v, Value.parse m.2 = some v) :
    Value.parse (objectText members) = some (.object (members.map memberOfText)) := by
  have hread : List.Forall₂ ReadsMember (members.map fun m => inQuotes m.1 ++ ':' :: m.2)
      (members.map memberOfText) := by
    rw [List.forall₂_map_left_iff, List.forall₂_map_right_iff, List.forall₂_same]
    intro m hm
    obtain ⟨v, hv⟩ := hvalues m hm
    rw [memberOfText, hv]
    exact readsMember_of_parse (hnames m hm) hv
  apply Value.parse_of_after
  rw [objectText, List.cons_append,
    Reading.after_token (t := .beginObject) rfl (by rw [scanToken]) rfl, ← Reading.after_nil]
  cases members with
  | nil => exact Reading.after_token (t := .endObject) rfl (by rw [scanToken]) rfl
  | cons m members =>
    exact after_members hread (by simp) (Reading.expectsMember_firstMember [])
      (List.forall_mem_nil _) []

end TelemetryCharts.Json
