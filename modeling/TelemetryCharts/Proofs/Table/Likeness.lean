import TelemetryCharts.Proofs.Table.Texts

/-!
# Columns of the same texts

Two columns of one kind whose cells have the same texts are cast to the same doubles and counters, and
they say the same labels. What they say otherwise may differ: an empty text between quotes is a text,
and one without them is a missing cell.
-/

namespace TelemetryCharts

/-- Says that two columns are cast to the same doubles and counters, and that they say the labels of
events in the same rows. -/
structure Column.Alike (column other : Column) : Prop where
  toFloats : column.toFloats = other.toFloats
  toCounters : column.toCounters = other.toCounters
  labels : ∀ kind : Event, column.toTexts.map (fun text => decide (text = some kind.label)) =
    other.toTexts.map fun text => decide (text = some kind.label)

namespace Table

/-- How what is read from a cell is cast to a double. -/
def Cast.toFloat : Cast Float where
  ofText := Column.floatOfText?
  ofInteger i := some (Float.ofInt i.toInt)
  ofFloat := some
  ofBoolean b := some (if b then 1 else 0)

variable {k : Kind} {cells cells' : List (Option Field)} {column column' : Column}

/-- The doubles of a column are those of its cells. -/
theorem Kind.mapM_toFloat (h : k.column? cells = some column) :
    cells.mapM (k.cast? .toFloat) = some column.toFloats := by
  cases k with
  | text =>
    obtain ⟨values, hvalues, rfl⟩ := Option.map_eq_some_iff.1 h
    exact mapM_map_eq_some hvalues
  | float =>
    obtain ⟨values, hvalues, rfl⟩ := Option.map_eq_some_iff.1 h
    have hcasts := mapM_map_eq_some (g := fun x : Option Float => x.bind some) hvalues
    rw [show values.map (fun x => x.bind some) = values by simp] at hcasts
    exact hcasts
  | integer | boolean =>
    obtain ⟨values, hvalues, rfl⟩ := Option.map_eq_some_iff.1 h
    simp only [Column.toFloats, Option.map_eq_bind]
    exact mapM_map_eq_some hvalues

/-- What a cell is cast to follows from its text where the kind is known. -/
theorem Kind.cast?_eq_of_content {α : Type} {cast : Cast α} (hempty : cast.ofText "" = none)
    {cell cell' : Option Field} {v v' : Option α} (hcontent : contentOf cell = contentOf cell')
    (h : k.cast? cast cell = some v) (h' : k.cast? cast cell' = some v') : v = v' := by
  have hplain := cast?_content hempty h
  rw [hcontent, cast?_content hempty h'] at hplain
  exact (Option.some.inj hplain).symm

/-- Columns of one kind whose cells have the same texts are alike. -/
theorem Kind.alike_of_contents (hcontents : cells.map contentOf = cells'.map contentOf)
    (h : k.column? cells = some column) (h' : k.column? cells' = some column') :
    column.Alike column' := by
  refine ⟨?_, ?_, fun kind => ?_⟩
  · have hfloats : column.toFloats.map id = column'.toFloats.map id :=
      map_eq_of_mapM_eq_some (fun _ _ _ _ => cast?_eq_of_content (by decide +kernel)) hcontents
        (mapM_toFloat h) (mapM_toFloat h')
    rwa [List.map_id, List.map_id] at hfloats
  · have hcounters := mapM_counter? h
    have hcounters' := mapM_counter? h'
    rw [mapM_congr fun cell _ => counter?_eq_cast? k cell] at hcounters hcounters'
    have hcasts : column.toCounters.map id = column'.toCounters.map id :=
      map_eq_of_mapM_eq_some (fun _ _ _ _ => cast?_eq_of_content rfl) hcontents hcounters hcounters'
    rwa [List.map_id, List.map_id] at hcasts
  · refine map_eq_of_mapM_eq_some (fun cell cell' v v' hsame hv hv' => ?_) hcontents
      (mapM_text? h) (mapM_text? h')
    rw [decide_eq_decide, text?_eq_label_iff hv, text?_eq_label_iff hv', hsame]

end Table

end TelemetryCharts
