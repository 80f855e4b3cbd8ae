import Mathlib.Algebra.Group.Nat.Defs
import Mathlib.Data.Option.Basic
import TelemetryCharts.Chart.Toml

/-!
# What values mean

A value of a document has a meaning if it is of the right type and in the right range. This is said
here without the readers of values, as a relation between a value and what it means, and then each
reader is shown to find out just that.
-/

namespace TelemetryCharts

namespace Toml

section
variable {α : Type}

/-- Says that a field is what the value under its key means, or has its default where there is no
value. -/
def Filled (means : Value → α → Prop) (default : α) : Option Value → α → Prop
  | some v, x => means v x
  | none, x => x = default

/-- The meaning of a value for a field that may be left without one. -/
def Given (means : Value → α → Prop) (v : Value) (x : Option α) : Prop :=
  ∃ y, means v y ∧ x = some y

/-- Says that the value under a key has a meaning, if there is one. -/
def Typed (means : Value → α → Prop) (v : Option Value) : Prop :=
  ∀ w, v = some w → ∃ x, means w x

/-- Says that a reader finds out what values mean. -/
def Reads (read? : Value → Option α) (means : Value → α → Prop) : Prop :=
  ∀ v x, read? v = some x ↔ means v x

variable {read? : Value → Option α} {means : Value → α → Prop} {default : α} {v : Option Value}

theorem Reads.orDefault (h : Reads read? means) {x : α} :
    Value.orDefault default read? v = some x ↔ Filled means default v x := by
  cases v with
  | none => exact Option.some_inj.trans eq_comm
  | some v => exact h v x

theorem Reads.optional (h : Reads read? means) {x : Option α} :
    Value.optional read? v = some x ↔ Filled (Given means) none v x := by
  cases v with
  | none => exact Option.some_inj.trans eq_comm
  | some v =>
    rw [Value.optional, Option.map_eq_some_iff]
    exact exists_congr fun y => and_congr (h v y) eq_comm

/-- A field can be filled if the value under its key has a meaning. -/
theorem Typed.exists_filled (h : Typed means v) : ∃ x, Filled means default v x := by
  cases v with
  | none => exact ⟨default, rfl⟩
  | some v => exact h v rfl

theorem Filled.typed {x : α} (h : Filled means default v x) : Typed means v :=
  fun _ hv => ⟨x, by rwa [hv] at h⟩

theorem Typed.of_given (h : Typed (Given means) v) : Typed means v := by
  intro w hw
  obtain ⟨-, x, hx, -⟩ := h w hw
  exact ⟨x, hx⟩

theorem Typed.given (h : Typed means v) : Typed (Given means) v := by
  intro w hw
  obtain ⟨x, hx⟩ := h w hw
  exact ⟨some x, x, hx, rfl⟩

end

/-- The number that a value is. -/
def Value.integer? : Value → Option Int64
  | integer i => some i
  | string _ | float _ | boolean _ | datetime | array _ | table _ => none

/-- The entries of a value that is a table. -/
def Value.entries? : Value → Option Table
  | table entries => some entries
  | string _ | integer _ | float _ | boolean _ | datetime | array _ => none

/-- The items of a value that is an array. -/
def Value.items? : Value → Option (List Value)
  | array items => some items
  | string _ | integer _ | float _ | boolean _ | datetime | table _ => none

theorem Value.integer?_eq_some_iff {v : Value} {i : Int64} :
    v.integer? = some i ↔ v = .integer i := by
  cases v <;> simp [Value.integer?]

theorem Value.entries?_eq_some_iff {v : Value} {entries : Table} :
    v.entries? = some entries ↔ v = .table entries := by
  cases v <;> simp [Value.entries?]

theorem Value.items?_eq_some_iff {v : Value} {items : List Value} :
    v.items? = some items ↔ v = .array items := by
  cases v <;> simp [Value.items?]

/-- Says that a value is a text. -/
def IsText (v : Value) (s : String) : Prop :=
  v = .string s

/-- Says that a value names a path. -/
def IsPath (v : Value) (path : Path) : Prop :=
  ∃ s, v = .string s ∧ path = Path.ofText s

/-- Says that a value is a natural number. -/
def IsNumber (v : Value) (n : Nat) : Prop :=
  ∃ i : Int64, v = .integer i ∧ i.toInt = n

/-- Says that a value is a number of pixels. -/
def IsPixels (v : Value) (n : UInt32) : Prop :=
  IsNumber v n.toNat

/-- Says that a value stands for a style: it is the name of the style, or has nothing but an empty
table or array under the name. -/
inductive IsStyle : Value → ChartStyle → Prop
  | axes : IsStyle (.string "axes") .axes
  | boxed : IsStyle (.string "boxed") .boxed
  | overTable {name : String} {style : ChartStyle} (h : IsStyle (.string name) style) :
      IsStyle (.table [(name, .table [])]) style
  | overArray {name : String} {style : ChartStyle} (h : IsStyle (.string name) style) :
      IsStyle (.table [(name, .array [])]) style

theorem isPath_text (path : Path) : IsPath (.string path.text) path :=
  ⟨path.text, rfl, by rw [Path.ofText, Path.text, String.toList_ofList]⟩

theorem isNumber_ofNat {n : Nat} (hn : n < 2 ^ 63) : IsNumber (.integer (Int64.ofNat n)) n :=
  ⟨_, rfl, Int64.toInt_ofNat_of_lt hn⟩

theorem reads_text? : Reads Value.text? IsText := by
  intro v s
  cases v <;> simp [Value.text?, IsText]

theorem reads_path? : Reads Value.path? IsPath := by
  intro v path
  rw [Value.path?, Option.map_eq_some_iff]
  exact exists_congr fun s => and_congr (reads_text? v s) eq_comm

theorem reads_natural? : Reads Value.natural? IsNumber := by
  intro v n
  cases v with
  | integer i =>
    simp only [Value.natural?, IsNumber, Value.integer.injEq, exists_eq_left', Int64.le_iff_toInt_le,
      Option.ite_none_right_eq_some, Option.some.injEq, Int64.toInt_zero]
    omega
  | _ => simp [Value.natural?, IsNumber]

theorem reads_pixels? : Reads Value.pixels? IsPixels := by
  intro v n
  rw [IsPixels, ← reads_natural? v, Value.pixels?, Option.bind_eq_bind, Option.bind_eq_some_iff]
  constructor
  · rintro ⟨m, hm, hn⟩
    obtain ⟨hlt, hsome⟩ := Option.ite_none_right_eq_some.1 hn
    rw [hm, ← Option.some.inj hsome, UInt32.toNat_ofNat_of_lt' hlt]
  · intro h
    refine ⟨_, h, ?_⟩
    rw [if_pos n.toNat_lt, UInt32.ofNat_toNat]

theorem reads_style? : ∀ name style,
    Value.style? name = some style ↔ IsStyle (.string name) style := by
  intro name style
  constructor
  · intro h
    rw [Value.style?.eq_def] at h
    split at h
    · cases h
      exact .axes
    · cases h
      exact .boxed
    · cases h
  · rintro (_ | _) <;> rfl

theorem reads_chartStyle? : Reads Value.chartStyle? IsStyle := by
  intro v style
  constructor
  · intro h
    rw [Value.chartStyle?.eq_def] at h
    split at h
    · exact (reads_style? _ _).1 h
    · exact .overTable ((reads_style? _ _).1 h)
    · exact .overArray ((reads_style? _ _).1 h)
    · cases h
  · rintro (_ | _ | h | h)
    · rfl
    · rfl
    · exact (reads_style? _ _).2 h
    · exact (reads_style? _ _).2 h

end Toml

end TelemetryCharts
