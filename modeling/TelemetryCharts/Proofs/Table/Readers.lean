import TelemetryCharts.Table.Cell

/-!
# Readers of numbers and truth values

Nothing is read from an empty text, and what a number or a truth value is read from holds neither
quotes nor blanks.
-/

namespace TelemetryCharts.Table

open Decimal

/-- Says that a character is a quote or a blank. -/
def IsSeparator (c : Char) : Prop :=
  c = '"' ∨ c = ' ' ∨ c = '\t'

/-- Says that nothing is read from an empty text or from one with quotes or blanks in it. -/
structure Bare {α : Type} (read? : List Char → Option α) : Prop where
  empty : read? [] = none
  solid : ∀ cs x, read? cs = some x → ∀ c, IsSeparator c → c ∉ cs

theorem mem_dropWhile {α : Type} {p : α → Bool} {l : List α} {x : α} (hx : x ∈ l)
    (hp : p x = false) : x ∈ l.dropWhile p := by
  induction l with
  | nil => cases hx
  | cons y l ih =>
    rw [List.dropWhile_cons]
    split
    · next hy =>
      rcases List.mem_cons.1 hx with rfl | hx
      · exact absurd hy (by simp [hp])
      · exact ih hx
    · exact hx

section
variable {c : Char} (hc : IsSeparator c) {cs : List Char}
include hc

theorem isDigit_separator : c.isDigit = false := by
  rcases hc with rfl | rfl | rfl <;> rfl

theorem mem_splitSign (h : c ∈ cs) : c ∈ (splitSign cs).2 := by
  have hsign : c ≠ '-' ∧ c ≠ '+' := by
    rcases hc with rfl | rfl | rfl <;> decide
  unfold splitSign
  split
  · simpa [hsign] using h
  · simpa [hsign] using h
  · exact h

theorem notMem_of_integer? {i : Int} (h : integer? cs = some i) : c ∉ cs := by
  intro hmem
  rw [integer?] at h
  obtain ⟨n, hn, -⟩ := Option.map_eq_some_iff.1 h
  rw [natural?] at hn
  split at hn
  · next hdigits =>
    have hdigit := List.all_eq_true.1 hdigits.2 _ (mem_splitSign hc hmem)
    rw [isDigit_separator hc] at hdigit
    cases hdigit
  · cases hn

theorem integer?_eq_none_of_mark {d : Char} (h : c ∈ d :: cs) (hmark : d = 'e' ∨ d = 'E') :
    integer? cs = none := by
  have htail : c ∈ cs := by
    have hother : ¬ (c = 'e' ∨ c = 'E') := by
      rcases hc with rfl | rfl | rfl <;> decide
    rcases List.mem_cons.1 h with rfl | htail
    · exact absurd hmark hother
    · exact htail
  cases hinteger : integer? cs with
  | none => rfl
  | some e => exact absurd htail (notMem_of_integer? hc hinteger)

end

/-- The digits after a point, if there is a point, and what follows them. -/
def splitFraction : List Char → List Char × List Char
  | '.' :: tail => (tail.takeWhile Char.isDigit, tail.dropWhile Char.isDigit)
  | tail => ([], tail)

theorem unsigned?_eq (cs : List Char) :
    unsigned? cs =
      if (cs.takeWhile Char.isDigit).isEmpty &&
          (splitFraction (cs.dropWhile Char.isDigit)).1.isEmpty then none
      else
        match (splitFraction (cs.dropWhile Char.isDigit)).2 with
        | [] => some (nearest (value (cs.takeWhile Char.isDigit ++
            (splitFraction (cs.dropWhile Char.isDigit)).1))
            (-((splitFraction (cs.dropWhile Char.isDigit)).1.length : Int)))
        | c :: tail =>
          if c = 'e' ∨ c = 'E' then
            (integer? tail).map fun e => nearest (value (cs.takeWhile Char.isDigit ++
              (splitFraction (cs.dropWhile Char.isDigit)).1))
              (e - (splitFraction (cs.dropWhile Char.isDigit)).1.length)
          else none :=
  rfl

section
variable {c : Char} (hc : IsSeparator c) {cs : List Char}
include hc

theorem mem_splitFraction (h : c ∈ cs) : c ∈ (splitFraction cs).2 := by
  have hpoint : c ≠ '.' := by
    rcases hc with rfl | rfl | rfl <;> decide
  unfold splitFraction
  split
  · exact mem_dropWhile (by simpa [hpoint] using h) (isDigit_separator hc)
  · exact h

/-- A quote or blank lies behind all digits, so it would have to be in the exponent. -/
theorem notMem_of_unsigned? {x : Float} (h : unsigned? cs = some x) : c ∉ cs := by
  intro hmem
  have hrest := mem_splitFraction hc (mem_dropWhile hmem (isDigit_separator hc))
  rw [unsigned?_eq] at h
  split at h
  · cases h
  split at h
  · next hnil =>
    rw [hnil] at hrest
    cases hrest
  · next d tail hcons =>
    rw [hcons] at hrest
    split at h
    · next hmark =>
      rw [integer?_eq_none_of_mark hc hrest hmark] at h
      cases h
    · cases h

theorem notMem_of_named? {x : Float} (h : named? cs = some x) : c ∉ cs := by
  intro hmem
  have hlower : c.toLower ∈ cs.map Char.toLower := List.mem_map.2 ⟨c, hmem, rfl⟩
  have hname : ∀ name : String, c.toLower ∉ name.toList →
      String.ofList (cs.map Char.toLower) ≠ name := by
    rintro name hname rfl
    rw [String.toList_ofList] at hname
    exact hname hlower
  have hnan := hname "nan" (by rcases hc with rfl | rfl | rfl <;> decide)
  have hinf := hname "inf" (by rcases hc with rfl | rfl | rfl <;> decide)
  have hinfinity := hname "infinity" (by rcases hc with rfl | rfl | rfl <;> decide)
  simp only [named?, hnan, hinf, hinfinity, if_false, or_self] at h
  cases h

end

theorem bare_integer? : Bare integer? :=
  ⟨rfl, fun _ _ h _ hc => notMem_of_integer? hc h⟩

theorem bare_readInteger? : Bare readInteger? := by
  refine ⟨rfl, fun cs i h => ?_⟩
  rw [readInteger?] at h
  obtain ⟨j, hj, -⟩ := Option.bind_eq_some_iff.1 h
  exact bare_integer?.solid cs j hj

theorem bare_float? : Bare float? := by
  refine ⟨rfl, fun cs x h c hc hmem => ?_⟩
  simp only [float?] at h
  obtain ⟨y, hy, -⟩ := Option.map_eq_some_iff.1 h
  rcases Option.or_eq_some_iff.1 hy with hunsigned | ⟨-, hnamed⟩
  · exact notMem_of_unsigned? hc hunsigned (mem_splitSign hc hmem)
  · exact notMem_of_named? hc hnamed (mem_splitSign hc hmem)

theorem bare_readBoolean? : Bare readBoolean? := by
  refine ⟨by decide, fun cs b h c hc hmem => ?_⟩
  have hlower : c.toLower ∈ cs.map Char.toLower := List.mem_map.2 ⟨c, hmem, rfl⟩
  have htrue : cs.map Char.toLower ≠ "true".toList := by
    intro heq
    rw [heq] at hlower
    revert hlower
    rcases hc with rfl | rfl | rfl <;> decide
  have hfalse : cs.map Char.toLower ≠ "false".toList := by
    intro heq
    rw [heq] at hlower
    revert hlower
    rcases hc with rfl | rfl | rfl <;> decide
  rw [readBoolean?, if_neg htrue, if_neg hfalse] at h
  cases h

end TelemetryCharts.Table
