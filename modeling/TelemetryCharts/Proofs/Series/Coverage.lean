import TelemetryCharts.Series.Json

/-!
# Entries of tracked kinds

Markers start with an entry for each tracked kind. An insertion takes no entry away, and a reset brings
all of them back. A text that is read in place of the markers has entries for the kinds that it names
and no others, so it is the texts on which it depends whether every tracked kind has an entry.
-/

namespace TelemetryCharts

open Json (Value)

namespace Markers

/-- Says that every tracked kind has an entry, possibly an empty one. -/
def Covers {α : Type} (markers : Markers α) : Prop :=
  ∀ kind ∈ Event.tracked, (markers.entry? kind).isSome

instance {α : Type} (markers : Markers α) : Decidable markers.Covers :=
  inferInstanceAs (Decidable (∀ kind ∈ Event.tracked, _))

/-- The markers that a JSON text stands for. -/
def ofText? (text : List Char) : Option (Markers Float) :=
  (Value.parse text).bind ofJson?

/-- The kinds that the members of an object are named for. -/
def kindsOf (members : List (List Char × Value)) : List Event :=
  members.filterMap fun m => Event.ofRaw? m.1

/-- The kinds that a text names, as far as it is an object. -/
def namedKinds (text : List Char) : List Event :=
  match Value.parse text with
  | some (.object members) => kindsOf members
  | _ => []

/-- What can be done to markers. -/
inductive Change
  | insert (kind : Event) (found : List (Marker Float))
  | read (text : List Char)
  | reset

/-- The markers after a change. A text that stands for no markers leaves them as they are. -/
def Change.apply (markers : Markers Float) : Change → Markers Float
  | insert kind found => markers.insert kind found
  | read text => (ofText? text).getD markers
  | reset => .empty

/-- What a change makes of the entry of a kind, unless it leaves the entry as it is. -/
def Change.settles? (kind : Event) : Change → Option (Option (List (Marker Float)))
  | insert k found => if kind = k then some (some found) else none
  | read text => (ofText? text).map fun markers => markers.entry? kind
  | reset => some (Markers.empty.entry? kind)

/-- The markers after some changes of those that every tracked kind has an empty entry in. -/
def after (changes : List Change) : Markers Float :=
  changes.foldl Change.apply .empty

theorem covers_empty : (empty : Markers Float).Covers := by
  decide

theorem isSome_entry?_of_ofMembers? {members : List (List Char × Value)} {start found : Markers Float}
    (h : ofMembers? start members = some found) (kind : Event) :
    (found.entry? kind).isSome ↔ (start.entry? kind).isSome ∨ kind ∈ kindsOf members := by
  induction members generalizing start with
  | nil =>
    cases h
    simp [kindsOf]
  | cons m members ih =>
    obtain ⟨k, hk, h⟩ := Option.bind_eq_some_iff.1 h
    obtain ⟨entry, -, h⟩ := Option.bind_eq_some_iff.1 h
    have hkinds : kindsOf (m :: members) = k :: kindsOf members := List.filterMap_cons_some hk
    rw [ih h, hkinds, List.mem_cons]
    by_cases heq : kind = k
    · simp [heq, insert]
    · simp [heq, insert]

/-- A text that is read gives an entry to the kinds that it names and to no others. -/
theorem isSome_entry?_of_ofText? {text : List Char} {found : Markers Float}
    (h : ofText? text = some found) (kind : Event) :
    (found.entry? kind).isSome ↔ kind ∈ namedKinds text := by
  obtain ⟨v, hv, h⟩ := Option.bind_eq_some_iff.1 h
  rw [namedKinds, hv]
  cases v with
  | object members =>
    rw [isSome_entry?_of_ofMembers? h]
    simp
  | _ => cases h

theorem covers_of_ofText?_iff {text : List Char} {found : Markers Float}
    (h : ofText? text = some found) : found.Covers ↔ Event.tracked ⊆ namedKinds text :=
  forall₂_congr fun kind _ => isSome_entry?_of_ofText? h kind

namespace Change

/-- Says that a change is no text that leaves out a tracked kind although it can be read. -/
def Covering (change : Change) : Prop :=
  ∀ text, change = read text → (ofText? text).isSome → Event.tracked ⊆ namedKinds text

theorem entry?_apply (change : Change) (markers : Markers Float) (kind : Event) :
    Markers.entry? (change.apply markers) kind = (change.settles? kind).getD (markers.entry? kind) := by
  cases change with
  | insert k found =>
    by_cases hkind : kind = k
    · simp [apply, settles?, Markers.insert, hkind]
    · simp [apply, settles?, Markers.insert, hkind]
  | read text => cases htext : ofText? text <;> simp [apply, settles?, htext]
  | reset => rfl

theorem Covering.covers_apply {change : Change} (h : change.Covering) {markers : Markers Float}
    (hmarkers : markers.Covers) : (change.apply markers).Covers := by
  cases change with
  | insert k found =>
    intro kind hkind
    rw [entry?_apply, settles?]
    split
    · rfl
    · exact hmarkers kind hkind
  | read text =>
    cases htext : ofText? text with
    | none => simpa [apply, htext] using hmarkers
    | some found =>
      have hnamed := h text rfl (by rw [htext]; rfl)
      simpa [apply, htext] using (covers_of_ofText?_iff htext).2 hnamed
  | reset => exact covers_empty

end Change

variable {changes : List Change}

/-- The entry of a kind is what the last change that concerns it has made of it. -/
theorem entry?_foldl (changes : List Change) (start : Markers Float) (kind : Event) :
    Markers.entry? (changes.foldl Change.apply start) kind =
      (changes.reverse.findSome? (Change.settles? kind)).getD (start.entry? kind) := by
  induction changes generalizing start with
  | nil => rfl
  | cons change changes ih =>
    rw [List.foldl_cons, ih, Change.entry?_apply, List.reverse_cons, List.findSome?_append]
    -- A later change that concerns the kind hides this one.
    cases changes.reverse.findSome? (Change.settles? kind) with
    | some entry => rfl
    | none => cases hsettles : change.settles? kind <;> simp [hsettles]

theorem covers_foldl (h : ∀ change ∈ changes, change.Covering) {start : Markers Float}
    (hstart : start.Covers) : (changes.foldl Change.apply start).Covers := by
  induction changes generalizing start with
  | nil => exact hstart
  | cons change changes ih =>
    obtain ⟨hchange, hchanges⟩ := List.forall_mem_cons.1 h
    exact ih hchanges (hchange.covers_apply hstart)

theorem after_concat (changes : List Change) (change : Change) :
    after (changes ++ [change]) = change.apply (after changes) := by
  rw [after, List.foldl_append]
  rfl

theorem after_read_of_some {text : List Char} {found : Markers Float} (h : ofText? text = some found)
    (changes : List Change) : after (changes ++ [.read text]) = found := by
  rw [after_concat, Change.apply, h, Option.getD_some]

/-- Each entry is what the last change that concerns it has made of it, and a text that stands for no
markers leaves all entries as they are. So the tracked kinds have entries all the time if and only if
every text that is read in place of the markers names all of them. -/
theorem covers_after (changes : List Change) :
    (∀ kind, Markers.entry? (after changes) kind =
        (changes.reverse.findSome? (Change.settles? kind)).getD (empty.entry? kind)) ∧
      (∀ text, ofText? text = none → after (changes ++ [.read text]) = after changes) ∧
      ((∀ done, done <+: changes → (after done).Covers) ↔ ∀ text, .read text ∈ changes →
        (ofText? text).isSome → Event.tracked ⊆ namedKinds text) := by
  refine ⟨entry?_foldl changes empty, fun text htext => ?_, fun h text hmem hread => ?_,
    fun h done hdone => ?_⟩
  · rw [after_concat, Change.apply, htext, Option.getD_none]
  · obtain ⟨found, hfound⟩ := Option.isSome_iff_exists.1 hread
    obtain ⟨done, rest, rfl⟩ := List.append_of_mem hmem
    -- Right after the text has been read the markers are those that it stands for.
    have hcovers := h (done ++ [.read text]) ⟨rest, by simp⟩
    rw [after_read_of_some hfound] at hcovers
    exact (covers_of_ofText?_iff hfound).1 hcovers
  · refine covers_foldl (fun change hchange text heq => ?_) covers_empty
    exact h text (heq ▸ hdone.subset hchange)

/-- Changes among which one text names all tracked kinds, in another order and with the end of the run,
and one stands for no markers. -/
def mixedChanges : List Change := [
  .insert .startClient [⟨3, 1.5⟩],
  .read ("\x7b\"STOP_PROGRAM\":[],\"START_CLIENT\":[]," ++
    "\"STOP_SERVER\":[\x7b\"row\":1,\"time_step\":2\x7d],\"START_SERVER\":[]\x7d").toList,
  .read "\x7b\"START_SERVER\":[]".toList,
  .insert .startServer [],
  .reset]

theorem covers_mixedChanges :
    (∀ done, done <+: mixedChanges → (after done).Covers) ∧
      after (mixedChanges ++ [.read "[]".toList]) = after mixedChanges := by
  obtain ⟨-, hrejected, hcovers⟩ := covers_after mixedChanges
  refine ⟨hcovers.2 fun text hmem => ?_, hrejected _ (by decide +kernel)⟩
  simp only [mixedChanges, List.mem_cons, List.not_mem_nil, reduceCtorEq, Change.read.injEq, false_or,
    or_false] at hmem
  rcases hmem with rfl | rfl
  · decide +kernel
  · decide +kernel

/-- A text with no entry at all can be read, and then no kind has an entry. -/
theorem not_covers_emptyText :
    (∃ found, ofText? "\x7b\x7d".toList = some found) ∧
      (∀ kind, Markers.entry? (after [.read "\x7b\x7d".toList]) kind = none) ∧
      ¬ (after [.read "\x7b\x7d".toList]).Covers := by
  refine ⟨Option.isSome_iff_exists.1 (by decide +kernel), fun kind => ?_, by decide +kernel⟩
  cases kind <;> decide +kernel

end Markers

end TelemetryCharts
