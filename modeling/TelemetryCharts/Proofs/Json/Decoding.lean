import TelemetryCharts.Json.Decode
import TelemetryCharts.Proofs.Json.Escaping
import TelemetryCharts.Proofs.Json.Printing
import TelemetryCharts.Proofs.Traversal
import TelemetryCharts.Proofs.Words

/-!
# Typed values

The values for words and for finite doubles can be printed, and so can records of such values with
plain names. Words, lists and records are read back from their values as what they were; of doubles
this is only said that the value for an infinity or a NaN is not read as a double.
-/

namespace TelemetryCharts.Json

open Decimal

theorem printable_ofNat (n : ℕ) : (ofNat n).Printable :=
  .number (Numeral.canonical_ofNat n)

theorem printable_ofInt (i : ℤ) : (ofInt i).Printable :=
  .number (Numeral.canonical_ofInt i)

theorem printable_escape (text : List Char) : (Value.string (escape text)).Printable :=
  .string (isContent_escape text)

theorem printable_ofFloat (x : Float) : (ofFloat x).Printable := by
  rw [ofFloat]
  cases h : Numeral.ofFloat? x with
  | none => exact .null
  | some n => exact .number (Numeral.canonical_ofFloat? h)

theorem printable_map {α : Type} {f : α → Value} (h : ∀ x, (f x).Printable) (xs : List α) :
    (Value.array (xs.map f)).Printable := by
  refine .array fun v hv => ?_
  obtain ⟨x, -, rfl⟩ := List.mem_map.1 hv
  exact h x

/-- Says that names stand for themselves between quotes. -/
def PlainNames (names : List String) : Prop :=
  ∀ name ∈ names, name.toList.all isPlain = true

instance (names : List String) : Decidable (PlainNames names) :=
  inferInstanceAs (Decidable (∀ name ∈ names, name.toList.all isPlain = true))

/-- A record can be printed if its names are plain and its values can be printed. -/
theorem printable_zip {names : List String} (hnames : PlainNames names) {values : List Value}
    (hvalues : ∀ v ∈ values, v.Printable) :
    (Value.object ((names.map String.toList).zip values)).Printable := by
  refine .object (fun m hm => ?_) fun m hm => hvalues _ (List.of_mem_zip hm).2
  obtain ⟨name, hname, heq⟩ := List.mem_map.1 (List.of_mem_zip hm).1
  rw [← heq]
  exact isContent_of_plain (hnames name hname)

theorem word?_of_integer? {m : Numeral} {i : ℤ} (h : integer? m = some i) (hlow : 0 ≤ i)
    (hhigh : i < wordLimit) : word? m = some i.toNat := by
  rw [word?, h]
  exact if_pos ⟨hlow, hhigh⟩

/-- A natural number that is a machine word is read back from its value. -/
theorem word?_ofNat {n : ℕ} (hn : n < wordLimit) : (ofNat n).word? = some n := by
  have hinteger : integer? (Numeral.ofNat n) = some (n : ℤ) := by
    simp [integer?, Numeral.ofNat, Numeral.isWhole, value_digits, signed]
  have hword := word?_of_integer? hinteger (Int.natCast_nonneg n) (Int.ofNat_lt.2 hn)
  rwa [Int.toNat_natCast] at hword

theorem counter?_ofNat (n : UInt64) : (ofNat n.toNat).counter? = some n := by
  rw [Value.counter?, word?_ofNat n.toNat_lt, Option.map_some, UInt64.ofNat_toNat]

/-- A signed machine word is read back from its value. -/
theorem signedWord?_ofInt (i : Int64) : (ofInt i.toInt).signedWord? = some i := by
  -- The sign of a negative integer is not that of a zero.
  have hzero : i.toInt < 0 → i.toInt ≠ 0 := ne_of_lt
  have hinteger : integer? (Numeral.ofInt i.toInt) = some i.toInt := by
    simpa [integer?, Numeral.ofInt, Numeral.isWhole, value_digits, signed_natAbs] using hzero
  rw [ofInt, Value.signedWord?, hinteger, Option.bind_some, wordOfInt?_toInt]

/-- A text is read back from its value. -/
theorem text?_escape (text : List Char) : (Value.string (escape text)).text? = some text :=
  unescape_escape text

/-- An infinity or a NaN is not read back. -/
theorem double?_ofFloat_of_not_isFinite {x : Float} (h : x.isFinite = false) :
    (ofFloat x).double? = none := by
  rw [← Binary.ofFloat?_isSome, Option.isSome_eq_false_iff, Option.isNone_iff_eq_none] at h
  rw [ofFloat, Numeral.ofFloat?, h]
  rfl

theorem list?_map {α β : Type} (item? : Value → Option β) (f : α → Value) (xs : List α) :
    (Value.array (xs.map f)).list? item? = xs.mapM fun x => item? (f x) :=
  List.mapM_map

/-- A plain content stands for itself. -/
theorem unescape_of_plain {raw : List Char} (h : raw.all isPlain = true) :
    unescape raw = some raw := by
  rw [unescape]
  induction raw with
  | nil => rfl
  | cons c raw ih =>
    rw [List.all_cons, Bool.and_eq_true] at h
    have hbackslash : c ≠ '\\' := by
      rintro rfl
      exact absurd h.1 (by decide)
    rw [unescapeFrom, ih h.2]
    · rfl
    all_goals simp [hbackslash]

/-- In a list of pairs with different names, a name leads to its pair alone. -/
theorem filter_fst_eq {α β : Type} [DecidableEq α] {l : List (α × β)} (h : (l.map Prod.fst).Nodup)
    {a : α} {b : β} (hmem : (a, b) ∈ l) : l.filter (·.1 = a) = [(a, b)] := by
  induction l with
  | nil => cases hmem
  | cons p l ih =>
    rw [List.map_cons, List.nodup_cons] at h
    rcases List.mem_cons.1 hmem with rfl | hmem
    · have hother : l.filter (·.1 = a) = [] := by
        rw [List.filter_eq_nil_iff]
        intro q hq heq
        rw [decide_eq_true_eq] at heq
        exact h.1 (List.mem_map.2 ⟨q, hq, heq⟩)
      rw [List.filter_cons_of_pos (by simp), hother]
    · have hne : p.1 ≠ a := fun heq => h.1 (List.mem_map.2 ⟨(a, b), hmem, heq.symm⟩)
      rw [List.filter_cons_of_neg (by simpa using hne), ih h.2 hmem]

/-- The fields of a record are read from an object that has them under its names, whatever order they
are in and whatever the object holds under other names. -/
theorem fields?_of_perm {names : List String} (hnodup : names.Nodup) {values : List Value}
    (hlength : values.length = names.length) {raw members others : List (List Char × Value)}
    (hmembers : (Value.object raw).members? = some members)
    (hperm : members.Perm ((names.map String.toList).zip values ++ others))
    (hothers : ∀ m ∈ others, m.1 ∉ names.map String.toList) :
    (Value.object raw).fields? names = some values := by
  have hdistinct : (((names.map String.toList).zip values).map Prod.fst).Nodup := by
    rw [List.map_fst_zip (by simp [hlength])]
    exact hnodup.map fun _ _ => String.toList_injective
  have hmember : ∀ p ∈ names.zip values, theMember? members p.1.toList = some p.2 := by
    rintro ⟨name, v⟩ hp
    have hmem : (name.toList, v) ∈ (names.map String.toList).zip values := by
      rw [List.zip_map_left]
      exact List.mem_map_of_mem (f := Prod.map String.toList id) hp
    have hnone : others.filter (·.1 = name.toList) = [] := by
      rw [List.filter_eq_nil_iff]
      intro m hm heq
      rw [decide_eq_true_eq] at heq
      exact hothers m hm (heq ▸ (List.of_mem_zip hmem).1)
    have hfilter := hperm.filter (fun m => decide (m.1 = name.toList))
    rw [List.filter_append, filter_fst_eq hdistinct hmem, hnone, List.append_nil,
      List.perm_singleton] at hfilter
    rw [theMember?, hfilter]
  have hfields : names.mapM (fun name => theMember? members name.toList) = some values := by
    have hfst : names = (names.zip values).map Prod.fst := (List.map_fst_zip (by omega)).symm
    have hsnd : values = (names.zip values).map Prod.snd := (List.map_snd_zip (by omega)).symm
    conv_lhs => rw [hfst, List.mapM_map]
    conv_rhs => rw [hsnd]
    exact mapM_eq_some_map hmember
  rw [Value.fields?]
  · rw [hmembers]
    exact hfields
  · simp

/-- The fields of a record are read back from an object that has them under its names. -/
theorem fields?_zip {names : List String} (hnames : PlainNames names) (hnodup : names.Nodup)
    {values : List Value} (hlength : values.length = names.length) :
    (Value.object ((names.map String.toList).zip values)).fields? names = some values := by
  have hmembers : (Value.object ((names.map String.toList).zip values)).members? =
      some ((names.map String.toList).zip values) := by
    refine (mapM_eq_some_map (g := id) ?_).trans (by rw [List.map_id])
    rintro ⟨raw, v⟩ hm
    obtain ⟨name, hname, rfl⟩ := List.mem_map.1 (List.of_mem_zip hm).1
    dsimp only
    rw [unescape_of_plain (hnames name hname)]
    rfl
  exact fields?_of_perm hnodup hlength hmembers (by rw [List.append_nil])
    fun _ hm => absurd hm List.not_mem_nil

end TelemetryCharts.Json
