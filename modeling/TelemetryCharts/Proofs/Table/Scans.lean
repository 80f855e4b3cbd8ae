import Mathlib.Data.List.Infix
import TelemetryCharts.Table.Field

/-!
# Scanning fields

A field is scanned character by character up to a comma, a line end or the end of the text. What has
been scanned is scanned again in the same way if something else follows it, and a line goes on through a
field unless there is a quote in it that the field does not count.
-/

namespace TelemetryCharts.Table

/-- Says whether the number of quotes is odd after another character, if quotes count. -/
def toggle (counts inside : Bool) (c : Option Char) : Bool :=
  if counts && c = some '"' then !inside else inside

/-- What a field ends at, as it stands in the text. -/
def Stop.mark : Stop → Decoded
  | comma => [some ',']
  | lineEnd => [some '\n']
  | textEnd => []

/-- Says that the scan of a text takes some characters up to the end of a field. -/
inductive Scans (quoted : Bool) : Bool → Decoded → Decoded → Stop → Decoded → Prop
  | textEnd {inside : Bool} : Scans quoted inside [] [] .textEnd []
  | comma {rest : Decoded} : Scans quoted false (some ',' :: rest) [] .comma rest
  | lineEnd {rest : Decoded} : Scans quoted false (some '\n' :: rest) [] .lineEnd rest
  | char {inside : Bool} {c : Option Char} {text chars rest : Decoded} {stop : Stop}
      (hgoes : toggle quoted inside c = true ∨ c ≠ some ',' ∧ c ≠ some '\n')
      (hscan : Scans quoted (toggle quoted inside c) text chars stop rest) :
      Scans quoted inside (c :: text) (c :: chars) stop rest

variable {quoted inside : Bool} {text chars rest : Decoded} {stop : Stop}

theorem scanField_cons (quoted inside : Bool) (c : Option Char) (text : Decoded) :
    scanField quoted inside (c :: text) =
      if toggle quoted inside c = false ∧ c = some ',' then ([], .comma, text)
      else if toggle quoted inside c = false ∧ c = some '\n' then ([], .lineEnd, text)
      else (c :: (scanField quoted (toggle quoted inside c) text).1,
        (scanField quoted (toggle quoted inside c) text).2) := by
  simp [scanField, toggle]

/-- The scan of a field takes what the field is. -/
theorem scans_iff : Scans quoted inside text chars stop rest ↔
    scanField quoted inside text = (chars, stop, rest) := by
  constructor
  · intro h
    induction h with
    | textEnd => rfl
    | comma => simp [scanField_cons, toggle]
    | lineEnd => simp [scanField_cons, toggle]
    | char hgoes hscan ih =>
      rw [scanField_cons, ih, if_neg, if_neg]
      · rintro ⟨hout, rfl⟩
        simp [hout] at hgoes
      · rintro ⟨hout, rfl⟩
        simp [hout] at hgoes
  · intro h
    induction text generalizing inside chars with
    | nil =>
      cases h
      exact .textEnd
    | cons c text ih =>
      rw [scanField_cons] at h
      split at h
      · next hcomma =>
        obtain ⟨hout, rfl⟩ := hcomma
        cases h
        obtain rfl : inside = false := by simpa [toggle] using hout
        exact .comma
      split at h
      · next hline =>
        obtain ⟨hout, rfl⟩ := hline
        cases h
        obtain rfl : inside = false := by simpa [toggle] using hout
        exact .lineEnd
      · next hcomma hline =>
        obtain ⟨rfl, hend⟩ := Prod.mk.inj h
        refine .char ?_ (ih (Prod.ext rfl hend))
        cases hin : toggle quoted inside c with
        | true => exact .inl rfl
        | false => exact .inr ⟨fun hc => hcomma ⟨hin, hc⟩, fun hc => hline ⟨hin, hc⟩⟩

namespace Scans

/-- A text is what is scanned of it, what the field ends at, and what follows. -/
theorem text_eq (h : Scans quoted inside text chars stop rest) : text = chars ++ (stop.mark ++ rest) := by
  induction h with
  | textEnd | comma | lineEnd => rfl
  | char hgoes hscan ih => rw [ih, List.cons_append]

theorem rest_eq_nil (h : Scans quoted inside text chars .textEnd rest) : rest = [] := by
  generalize hstop : Stop.textEnd = stop at h
  induction h with
  | textEnd => rfl
  | comma | lineEnd => cases hstop
  | char hgoes hscan ih => exact ih hstop

/-- A field that ends at a comma is scanned again before any other comma. -/
theorem before_comma (h : Scans quoted inside text chars .comma rest) (other : Decoded) :
    Scans quoted inside (chars ++ some ',' :: other) chars .comma other := by
  generalize hstop : Stop.comma = stop at h
  induction h with
  | comma => exact .comma
  | textEnd | lineEnd => cases hstop
  | char hgoes hscan ih => exact .char hgoes (ih hstop)

/-- What a field begins with is scanned up to its own end. -/
theorem of_initial (h : Scans quoted inside text chars stop rest) {first : Decoded}
    (hfirst : first <+: chars) : Scans quoted inside first first .textEnd [] := by
  induction h generalizing first with
  | textEnd | comma | lineEnd =>
    rw [List.prefix_nil.1 hfirst]
    exact .textEnd
  | char hgoes hscan ih =>
    cases first with
    | nil => exact .textEnd
    | cons d first =>
      obtain ⟨rfl, htail⟩ := List.cons_prefix_cons.1 hfirst
      exact .char hgoes (ih htail)

/-- A text begins with a quote exactly if the field at its start does. -/
theorem head?_eq_quote_iff (h : Scans quoted false text chars stop rest) :
    text.head? = some (some '"') ↔ chars.head? = some (some '"') := by
  cases h with
  | textEnd => exact Iff.rfl
  | comma | lineEnd => simp
  | char hgoes hscan => exact Iff.rfl

/-- A line goes on through a field in which all quotes count or none stands, and its end is where the
field has the end of the line. -/
theorem nextLine_eq (h : Scans quoted inside text chars stop rest)
    (hquotes : quoted = false → some '"' ∉ chars) :
    nextLine inside text = (chars ++ (nextLine false (stop.mark ++ rest)).1,
      (nextLine false (stop.mark ++ rest)).2) := by
  induction h with
  | textEnd | comma | lineEnd => rfl
  | @char inside c text chars rest stop hgoes hscan ih =>
    have hstep : (if c = some '"' then !inside else inside) = toggle quoted inside c := by
      cases quoted with
      | true => simp [toggle]
      | false =>
        have hc : c ≠ some '"' := by
          rintro rfl
          exact hquotes rfl List.mem_cons_self
        simp [toggle, hc]
    have hline : ¬ (inside = false ∧ c = some '\n') := by
      rintro ⟨rfl, rfl⟩
      simp [toggle] at hgoes
    rw [nextLine, if_neg (by simpa using hline), hstep,
      ih fun hquoted hmem => hquotes hquoted (List.mem_cons_of_mem _ hmem)]
    rfl

end Scans

/-- The field at the start of a text is scanned from it. -/
theorem scans_nextField (text : Decoded) :
    Scans (nextField text).1.quoted false text (nextField text).1.chars (nextField text).2.1
      (nextField text).2.2 :=
  scans_iff.2 rfl

theorem nextField_eq_of_scans {f : Field} (h : Scans f.quoted false text f.chars stop rest)
    (hquoted : f.quoted = decide (f.chars.head? = some (some '"'))) :
    nextField text = (f, stop, rest) := by
  have hhead : decide (text.head? = some (some '"')) = f.quoted := by
    rw [hquoted, decide_eq_decide]
    exact h.head?_eq_quote_iff
  rw [nextField, hhead]
  simp only [scans_iff.1 h]

theorem quoted_nextField (text : Decoded) :
    (nextField text).1.quoted = decide ((nextField text).1.chars.head? = some (some '"')) := by
  rw [← decide_eq_decide.2 (scans_nextField text).head?_eq_quote_iff]
  rfl

end TelemetryCharts.Table
