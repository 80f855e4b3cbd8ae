import TelemetryCharts.Proofs.Json.Decoding
import TelemetryCharts.Proofs.Json.Passages
import TelemetryCharts.Telemetry.Json

/-!
# Records as JSON objects

A record is read back from its object if and only if its times are finite. The order of the members
does not matter, and neither do members with other names, whatever they hold. The arithmetic by which
a decimal is read as a double stays out of this: a record is only considered if its finite times are
read back from their decimals.
-/

namespace TelemetryCharts.Record

open Json (Value IsContent)

/-- All doubles in a record. -/
def times (r : Record) : List Float :=
  [r.get.time, r.put.time, r.delete.time]

/-- The record that a JSON text stands for. -/
def ofText? (cs : List Char) : Option Record :=
  (Value.parse cs).bind ofJson?

theorem countsOfJson?_counts {c : Counts}
    (hreads : (Json.ofFloat c.time).double? = if c.time.isFinite then some c.time else none) :
    countsOfJson? (Json.ofNat c.count.toNat) (Json.ofNat c.failCount.toNat) (Json.ofFloat c.time) =
      if c.time.isFinite then some c else none := by
  rw [countsOfJson?, Json.counter?_ofNat, Json.counter?_ofNat, hreads]
  cases c.time.isFinite <;> rfl

section
variable {r : Record}
  (hreads : ∀ x ∈ r.times, (Json.ofFloat x).double? = if x.isFinite then some x else none)
include hreads

theorem ofJson?_of_fields {v : Value} (h : v.fields? ColumnName.all = some r.jsonFields) :
    ofJson? v = if r.times.all Float.isFinite then some r else none := by
  have hget := countsOfJson?_counts (hreads r.get.time (by simp [times]))
  have hput := countsOfJson?_counts (hreads r.put.time (by simp [times]))
  have hdelete := countsOfJson?_counts (hreads r.delete.time (by simp [times]))
  have hevent := Json.text?_escape r.event.toList
  rw [ofJson?, h]
  simp only [jsonFields, jsonFields.counts, List.cons_append, List.nil_append, Option.bind_eq_bind,
    Option.bind_some, Json.signedWord?_ofInt, Json.counter?_ofNat, hget, hput, hdelete, hevent,
    String.ofList_toList, times, List.all_cons, List.all_nil]
  rcases Bool.eq_false_or_eq_true r.get.time.isFinite with hg | hg <;>
    rcases Bool.eq_false_or_eq_true r.put.time.isFinite with hp | hp <;>
    rcases Bool.eq_false_or_eq_true r.delete.time.isFinite with hd | hd <;>
    simp [hg, hp, hd]

end

/-- The names of the members of a record and the texts of their values. -/
def memberTexts (r : Record) : List (List Char × List Char) :=
  (ColumnName.all.map String.toList).zip (r.jsonFields.map (Value.render .compact 1))

/-- The compact text of a record is that of an object with its members. -/
theorem toList_print_toJson (r : Record) :
    (r.toJson.print .compact).toList = Json.objectText r.memberTexts := by
  rw [Value.print, String.toList_ofList, toJson, Json.render_compact_object, memberTexts,
    List.zip_map_right]

theorem printable_of_mem_jsonFields {r : Record} {v : Value} (hv : v ∈ r.jsonFields) :
    v.Printable := by
  revert v
  simp [jsonFields, jsonFields.counts, Json.printable_ofInt, Json.printable_ofNat,
    Json.printable_ofFloat, Json.printable_escape]

/-- Says that a member of an object is none of a record: it has any text for a name, other than the
names of columns, and any JSON text for a value. -/
structure IsForeign (m : List Char × List Char) : Prop where
  content : IsContent m.1
  name : ∃ name, Json.unescape m.1 = some name ∧ name ∉ ColumnName.all.map String.toList
  value : ∃ v, Value.parse m.2 = some v

/-- A member of a record is written with a plain name and a text of its value. -/
theorem exists_of_mem_memberTexts {r : Record} {m : List Char × List Char} (hm : m ∈ r.memberTexts) :
    ∃ v, IsContent m.1 ∧ Json.unescape m.1 = some m.1 ∧ Value.parse m.2 = some v := by
  have hplain : Json.PlainNames ColumnName.all := by decide
  obtain ⟨name, hname, heq⟩ := List.mem_map.1 (List.of_mem_zip hm).1
  obtain ⟨v, hv, htext⟩ := List.mem_map.1 (List.of_mem_zip hm).2
  rw [← heq, ← htext]
  exact ⟨v, Json.isContent_of_plain (hplain name hname), Json.unescape_of_plain (hplain name hname),
    Value.parse_render Json.Style.blank_compact (printable_of_mem_jsonFields hv) 1⟩

/-- The member that a name and a text of a value stand for, with its name unescaped. -/
def namedMember (m : List Char × List Char) : List Char × Value :=
  ((Json.unescape m.1).getD [], (Json.memberOfText m).2)

theorem map_namedMember_memberTexts (r : Record) :
    r.memberTexts.map namedMember = (ColumnName.all.map String.toList).zip r.jsonFields := by
  have hplain : Json.PlainNames ColumnName.all := by decide
  rw [memberTexts, List.zip_map_right, List.map_map]
  refine (List.map_congr_left fun m hm => ?_).trans (List.map_id _)
  obtain ⟨name, hname, heq⟩ := List.mem_map.1 (List.of_mem_zip hm).1
  have hv := printable_of_mem_jsonFields (List.of_mem_zip hm).2
  obtain ⟨raw, v⟩ := m
  obtain rfl : name.toList = raw := heq
  show namedMember (name.toList, v.render .compact 1) = (name.toList, v)
  rw [namedMember, Json.memberOfText, Json.unescape_of_plain (hplain name hname),
    Value.parse_render Json.Style.blank_compact hv 1]
  rfl

section
variable {r : Record} {foreign arranged : List (List Char × List Char)}
  (hforeign : ∀ m ∈ foreign, IsForeign m) (harranged : arranged.Perm (r.memberTexts ++ foreign))
include hforeign harranged

/-- The fields of a record are found among other members, in any order. -/
theorem exists_parse_objectText : ∃ v, Value.parse (Json.objectText arranged) = some v ∧
    v.fields? ColumnName.all = some r.jsonFields := by
  have hreads : ∀ m ∈ arranged, IsContent m.1 ∧ (∃ v, Value.parse m.2 = some v) ∧
      ∃ name, Json.unescape m.1 = some name := by
    intro m hm
    rcases List.mem_append.1 (harranged.mem_iff.1 hm) with hown | hother
    · obtain ⟨v, hcontent, hname, hvalue⟩ := exists_of_mem_memberTexts hown
      exact ⟨hcontent, ⟨v, hvalue⟩, m.1, hname⟩
    · obtain ⟨hcontent, ⟨name, hname, -⟩, hvalue⟩ := hforeign m hother
      exact ⟨hcontent, hvalue, name, hname⟩
  refine ⟨_, Json.parse_objectText (fun m hm => (hreads m hm).1) (fun m hm => (hreads m hm).2.1), ?_⟩
  have hmembers : (Value.object (arranged.map Json.memberOfText)).members? =
      some (arranged.map namedMember) := by
    rw [Value.members?, List.mapM_map]
    refine mapM_eq_some_map fun m hm => ?_
    obtain ⟨-, -, name, hname⟩ := hreads m hm
    simp [namedMember, Json.memberOfText, hname]
  have hperm := harranged.map namedMember
  rw [List.map_append, map_namedMember_memberTexts] at hperm
  refine Json.fields?_of_perm (by decide) rfl hmembers hperm fun m hm => ?_
  obtain ⟨other, hother, rfl⟩ := List.mem_map.1 hm
  obtain ⟨name, hname, hforeignName⟩ := (hforeign other hother).name
  rw [namedMember, hname]
  exact hforeignName

end

/-- The compact text of a record is read if and only if the times of the record are finite, and then
it is read as that very record. It is read in the same way if its members are put in another order,
and if members with other names are put among them. -/
theorem read_object (r : Record)
    (hreads : ∀ x ∈ r.times, x.isFinite = true → (Json.ofFloat x).double? = some x) :
    ((∃ s, ofText? (r.toJson.print .compact).toList = some s) ↔
        ∀ x ∈ r.times, x.isFinite = true) ∧
      (∀ s, ofText? (r.toJson.print .compact).toList = some s → s = r) ∧
      ∀ foreign arranged, (∀ m ∈ foreign, IsForeign m) →
        arranged.Perm (r.memberTexts ++ foreign) →
          ofText? (Json.objectText arranged) = ofText? (r.toJson.print .compact).toList := by
  have htimes : ∀ x ∈ r.times,
      (Json.ofFloat x).double? = if x.isFinite then some x else none := by
    intro x hx
    split
    · next hfinite => exact hreads x hx hfinite
    · next hinfinite => exact Json.double?_ofFloat_of_not_isFinite (by simpa using hinfinite)
  have hread : ∀ foreign arranged, (∀ m ∈ foreign, IsForeign m) →
      arranged.Perm (r.memberTexts ++ foreign) → ofText? (Json.objectText arranged) =
        if r.times.all Float.isFinite then some r else none := by
    intro foreign arranged hforeign harranged
    obtain ⟨v, hparse, hfields⟩ := exists_parse_objectText hforeign harranged
    rw [ofText?, hparse, Option.bind_some, ofJson?_of_fields htimes hfields]
  have hplain := hread [] r.memberTexts nofun (by rw [List.append_nil])
  rw [toList_print_toJson, ← List.all_eq_true]
  refine ⟨?_, fun s hs => ?_, fun foreign arranged hforeign harranged => ?_⟩
  · rw [hplain]
    split
    · next hfinite => exact iff_of_true ⟨r, rfl⟩ hfinite
    · next hinfinite => exact iff_of_false nofun hinfinite
  · rw [hplain] at hs
    split at hs
    · exact (Option.some.inj hs).symm
    · cases hs
  · rw [hread foreign arranged hforeign harranged, hplain]

/-- A record with the extremes of its fields, whose event holds all kinds of characters that are
escaped, and one beyond the basic plane. -/
def extremes : Record where
  timeStep := -9223372036854775808
  get := ⟨18446744073709551615, 0, 1.7976931348623157e308⟩
  put := ⟨0, 18446744073709551615, 5e-324⟩
  delete := ⟨1, 2, -0.0⟩
  totalSucc := 18446744073709551615
  event := "\"\\/\n\x00\x1f\x7f ü 😀"

/-- Members that are none of a record. One has an escape in its name and a number that no double is
near to. The other has the name of a column one level down, next to half of a surrogate pair. -/
def strangers : List (List Char × List Char) :=
  [("getCount\\u0000".toList, "[[], -1e999]".toList),
    ("".toList, "\x7b\"event\": [\x7b\"event\": \"\\ud83d\"\x7d, null]\x7d".toList)]

theorem isForeign_of_mem_strangers {m : List Char × List Char} (hm : m ∈ strangers) :
    IsForeign m := by
  simp only [strangers, List.mem_cons, List.not_mem_nil, or_false] at hm
  obtain rfl | rfl := hm
  · exact ⟨fun rest => rfl, ⟨_, rfl, by decide +kernel⟩,
      Option.isSome_iff_exists.1 (by decide +kernel)⟩
  · exact ⟨Json.isContent_nil, ⟨_, rfl, by decide +kernel⟩,
      Option.isSome_iff_exists.1 (by decide +kernel)⟩

theorem read_object_extremes :
    (∀ x ∈ extremes.times, x.isFinite = true → (Json.ofFloat x).double? = some x) ∧
    ofText? (extremes.toJson.print .compact).toList = some extremes ∧
    ofText? (Json.objectText (extremes.memberTexts ++ strangers).reverse) = some extremes := by
  have hreads : ∀ x ∈ extremes.times, x.isFinite = true → (Json.ofFloat x).double? = some x := by
    decide +kernel
  obtain ⟨hread, hsame, hother⟩ := read_object extremes hreads
  obtain ⟨s, hs⟩ := hread.2 (by decide +kernel)
  have hplain : ofText? (extremes.toJson.print .compact).toList = some extremes := by
    rw [hs, hsame s hs]
  refine ⟨hreads, hplain, ?_⟩
  rw [hother strangers _ (fun m hm => isForeign_of_mem_strangers hm) (List.reverse_perm _), hplain]

end TelemetryCharts.Record
