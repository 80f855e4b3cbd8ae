import TelemetryCharts.Proofs.Chart.Filling
import TelemetryCharts.Proofs.Session.Arguments
import Mathlib.Algebra.Group.Nat.Defs
import Mathlib.Data.List.Nodup

/-!
# Settings of a chart

What can be said about a chart on the command line can also be said about it in a configuration. The
chart is the same in both cases: that of its table with nothing but these settings changed.
-/

namespace TelemetryCharts

open Toml

/-- What can be said about a chart both on the command line and in a configuration. -/
inductive Setting
  | input (path : Path)
  | output (path : Path)
  | window (n : Nat)
  | truncate (n : Nat)
  | title (text : String)
  | style (style : ChartStyle)
  | seriesOut (path : Path)
  deriving DecidableEq

namespace Setting

/-- The chart with a setting. -/
def apply (chart : Chart) : Setting → Chart
  | input path => { chart with input := path }
  | output path => { chart with output := some path }
  | window n => { chart with window := n }
  | truncate n => { chart with truncate := some n }
  | title text => { chart with labels := { chart.labels with title := some text } }
  | style name => { chart with style := name }
  | seriesOut path => { chart with seriesOut := some path }

/-- The parameter for a setting. -/
def parameter : Setting → Parameter
  | input _ => .input
  | output _ => .output
  | window _ => .window
  | truncate _ => .truncate
  | title _ => .title
  | style _ => .style
  | seriesOut _ => .seriesOut

/-- Says what values of the parameter stand for the setting. Zeros and a plus sign may come before a
number. -/
def Spelled : Setting → List Char → Prop
  | input path, value | output path, value | seriesOut path, value => value = path.chars
  | window n, value | truncate n, value =>
    ∃ ds, Decimal.natural? ds = some n ∧ (value = ds ∨ value = '+' :: ds)
  | title text, value => value = text.toList
  | style .axes, value => value = "axes".toList
  | style .boxed, value => value = "boxed".toList

/-- The key for a setting in the table of a chart. The title is one of the labels. -/
def key : Setting → String
  | input _ => "input"
  | output _ => "output"
  | window _ => "window"
  | truncate _ => "truncate"
  | title _ => "labels"
  | style _ => "style"
  | seriesOut _ => "series_out"

theorem parameter_eq_of_key_eq {s t : Setting} : s.key = t.key → s.parameter = t.parameter := by
  cases s <;> cases t <;> simp [key, parameter]

theorem nodup_keys {settings : List Setting} (h : (settings.map parameter).Nodup) :
    (settings.map key).Nodup :=
  List.pairwise_map.2 ((List.pairwise_map.1 h).imp fun hne heq => hne (parameter_eq_of_key_eq heq))

/-- The value under the key for a setting. -/
def value : Setting → Value
  | input path | output path | seriesOut path => .string path.text
  | window n | truncate n => .integer (Int64.ofNat n)
  | title text => .table [("title", .string text)]
  | style .axes => .string "axes"
  | style .boxed => .string "boxed"

/-- The entry for a setting in the table of a chart. -/
def entry (s : Setting) : String × Value :=
  (s.key, s.value)

/-- Says whether a value is that of the setting. -/
def isValue (v : Value) : Setting → Bool
  | input path | output path | seriesOut path => v.text? = some path.text
  | window n | truncate n => v.integer? = some (Int64.ofNat n)
  | title text =>
    v.entries?.any fun entries => entries.map (fun e => (e.1, e.2.text?)) = [("title", some text)]
  | style .axes => v.text? = some "axes"
  | style .boxed => v.text? = some "boxed"

theorem isTitle_iff {v : Value} {text : String} :
    isValue v (title text) = true ↔ v = .table [("title", .string text)] := by
  rw [isValue, Option.any_eq_true]
  constructor
  · rintro ⟨entries, hentries, htexts⟩
    obtain ⟨⟨key, w⟩, rfl, hentry⟩ := List.map_eq_singleton_iff.1 (of_decide_eq_true htexts)
    obtain ⟨rfl, hw⟩ := Prod.ext_iff.1 hentry
    rw [Value.entries?_eq_some_iff.1 hentries, Toml.reads_text? w text |>.1 hw]
  · rintro rfl
    exact ⟨_, rfl, by simp [Value.text?]⟩

instance (v : Value) (s : Setting) : Decidable (v = s.value) :=
  decidable_of_iff (isValue v s = true) <|
    match s with
    | input _ | output _ | seriesOut _ | style .axes | style .boxed =>
      (decide_eq_true_iff).trans (Toml.reads_text? v _)
    | window _ | truncate _ => (decide_eq_true_iff).trans Value.integer?_eq_some_iff
    | title _ => isTitle_iff

instance (e : String × Value) (s : Setting) : Decidable (e = s.entry) :=
  decidable_of_iff (e.1 = s.key ∧ e.2 = s.value) (by rw [entry, Prod.ext_iff])

/-- Says that a setting can be made: paths are not empty, and numbers are numbers of a document. -/
def Valid : Setting → Prop
  | input path | output path | seriesOut path => path.chars ≠ []
  | window n | truncate n => n < 2 ^ 63
  | _ => True

/-- The arguments with which a setting is made on the command line. -/
def Written (s : Setting) (arguments : List String) : Prop :=
  ∃ value, s.Spelled value ∧ s.parameter.Written value arguments

end Setting

namespace CommandLine

/-- Says whether a parameter has its value. -/
def isGiven (cl : CommandLine) : Parameter → Bool
  | .input => cl.input.isSome
  | .output => cl.output.isSome
  | .window => cl.window.isSome
  | .truncate => cl.truncate.isSome
  | .title => cl.title.isSome
  | .style => cl.style.isSome
  | .seriesOut => cl.seriesOut.isSome
  | .config => cl.config.isSome

/-- The command line that also makes a setting. -/
def give (cl : CommandLine) : Setting → CommandLine
  | .input path => { cl with input := some path }
  | .output path => { cl with output := some path }
  | .window n => { cl with window := some n }
  | .truncate n => { cl with truncate := some n }
  | .title text => { cl with title := some text }
  | .style style => { cl with style := some style }
  | .seriesOut path => { cl with seriesOut := some path }

theorem isGiven_give (cl : CommandLine) (s : Setting) (p : Parameter) :
    (cl.give s).isGiven p = (p = s.parameter || cl.isGiven p) := by
  cases s <;> cases p <;> rfl

theorem give_comm (cl : CommandLine) {s t : Setting} (h : s.parameter ≠ t.parameter) :
    (cl.give s).give t = (cl.give t).give s := by
  cases s <;> cases t <;> first | rfl | exact absurd rfl h

theorem once_of_free {α : Type} {given : Option α} (h : given.isSome = false)
    (value : Except UsageError α) : once given value = value.map some := by
  rw [once, h]
  rfl

theorem readPath_of_ne_nil {path : Path} (h : path.chars ≠ []) : readPath path.chars = .ok path :=
  if_neg h

theorem readNumber_of_spelled {ds value : List Char} {n : Nat} (hds : Decimal.natural? ds = some n)
    (hvalue : value = ds ∨ value = '+' :: ds) (hn : n < wordLimit) : readNumber value = .ok n := by
  have hsign : ∀ rest, ds ≠ '+' :: rest := by
    rintro rest rfl
    cases hds
  rcases hvalue with rfl | rfl
  · rw [readNumber.eq_def]
    split
    · exact absurd rfl (hsign _)
    · simp only [hds, if_pos hn]
  · simp only [readNumber, hds, if_pos hn]

theorem readStyle_of_spelled {style : ChartStyle} {value : List Char}
    (h : (Setting.style style).Spelled value) : readStyle value = .ok style := by
  cases style <;> cases h <;> rfl

/-- A parameter that is still free can be given the value of a setting. -/
theorem assign_of_spelled {cl : CommandLine} {s : Setting} {value : List Char}
    (hspelled : s.Spelled value) (hvalid : s.Valid) (hfree : cl.isGiven s.parameter = false) :
    cl.assign s.parameter value = .ok (cl.give s) := by
  cases s with
  | input path | output path | seriesOut path =>
    obtain rfl : value = path.chars := hspelled
    simp only [Setting.parameter, assign]
    rw [once_of_free hfree, readPath_of_ne_nil hvalid]
    rfl
  | window n | truncate n =>
    obtain ⟨ds, hds, hvalue⟩ := hspelled
    have hn : n < wordLimit := Nat.lt_trans hvalid (by decide)
    simp only [Setting.parameter, assign]
    rw [once_of_free hfree, readNumber_of_spelled hds hvalue hn]
    rfl
  | title text =>
    obtain rfl : value = text.toList := hspelled
    simp only [Setting.parameter, assign]
    rw [once_of_free hfree, String.ofList_toList]
    rfl
  | style style =>
    simp only [Setting.parameter, assign]
    rw [once_of_free hfree, readStyle_of_spelled hspelled]
    rfl

/-- A command line of settings of different parameters makes all of them. -/
theorem assignAll_of_spelled {settings : List Setting} {items : List (Parameter × List Char)}
    (hitems : List.Forall₂ (fun s item => s.parameter = item.1 ∧ s.Spelled item.2) settings items)
    (hdistinct : (settings.map Setting.parameter).Nodup) (hvalid : ∀ s ∈ settings, s.Valid)
    {cl : CommandLine} (hfree : ∀ s ∈ settings, cl.isGiven s.parameter = false) :
    cl.assignAll items = .ok (settings.foldl give cl) := by
  induction hitems generalizing cl with
  | nil => rfl
  | @cons s item settings items hhead _ ih =>
    rw [List.map_cons, List.nodup_cons] at hdistinct
    rw [List.forall_mem_cons] at hvalid hfree
    have hrest : ∀ t ∈ settings, (cl.give s).isGiven t.parameter = false := by
      intro t ht
      have hne : t.parameter ≠ s.parameter := fun heq =>
        hdistinct.1 (List.mem_map.2 ⟨t, ht, heq⟩)
      rw [isGiven_give, hfree.2 t ht, decide_eq_false hne]
      rfl
    rw [assignAll, List.foldlM_cons, ← hhead.1, assign_of_spelled hhead.2 hvalid.1 hfree.1]
    exact ih hdistinct.2 hvalid.2 hrest

/-- Settings of different parameters can be made in any order. -/
theorem foldl_give_of_perm {settings arranged : List Setting} (hperm : arranged.Perm settings)
    (hdistinct : (settings.map Setting.parameter).Nodup) (cl : CommandLine) :
    arranged.foldl give cl = settings.foldl give cl := by
  refine hperm.foldl_eq' (fun s hs t ht cl => ?_) cl
  by_cases heq : s.parameter = t.parameter
  · rw [List.inj_on_of_nodup_map hdistinct (hperm.mem_iff.1 hs) (hperm.mem_iff.1 ht) heq]
  · exact give_comm cl heq

/-- Settings other than that of the table are settings of the chart. -/
theorem foldl_give_fields {settings : List Setting} (h : ∀ s ∈ settings, s.parameter ≠ .input)
    (cl : CommandLine) (path : Path) :
    (settings.foldl give cl).input = cl.input ∧ (settings.foldl give cl).config = cl.config ∧
      (settings.foldl give cl).chart path = settings.foldl Setting.apply (cl.chart path) := by
  induction settings generalizing cl with
  | nil => exact ⟨rfl, rfl, rfl⟩
  | cons s settings ih =>
    rw [List.forall_mem_cons] at h
    have hhead : (cl.give s).input = cl.input ∧ (cl.give s).config = cl.config ∧
        (cl.give s).chart path = Setting.apply (cl.chart path) s := by
      cases s with
      | input path => exact absurd rfl h.1
      | _ => exact ⟨rfl, rfl, rfl⟩
    obtain ⟨hinput, hconfig, hchart⟩ := ih h.2 (cl.give s)
    exact ⟨hinput.trans hhead.1, hconfig.trans hhead.2.1,
      hchart.trans (congrArg (settings.foldl Setting.apply) hhead.2.2)⟩

end CommandLine

namespace Chart

theorem isStyle_value (style : ChartStyle) : IsStyle (Setting.style style).value style := by
  cases style with
  | axes => exact .axes
  | boxed => exact .boxed

theorem isLabels_title {labels : Labels} (h : labels = {}) (text : String) :
    IsLabels (.table [("title", .string text)]) { labels with title := some text } := by
  subst h
  exact ⟨_, rfl, ⟨text, rfl, rfl⟩, rfl, rfl, rfl, rfl, rfl, rfl, rfl⟩

/-- An entry for a setting makes the setting, if there is none under its key yet. -/
theorem FilledFrom.apply {entries : Table} {chart : Chart} (h : chart.FilledFrom entries)
    {s : Setting} (hs : s.parameter ≠ .input) (hvalid : s.Valid) (hnew : entries.lookup s.key = none) :
    (s.apply chart).FilledFrom (entries ++ [s.entry]) := by
  have hsame : (entries ++ [s.entry]).lookup s.key = some s.value := by
    rw [List.lookup_append, hnew, Setting.entry, List.lookup_cons_self]
    rfl
  have hother : ∀ key, key ≠ s.key → (entries ++ [s.entry]).lookup key = entries.lookup key := by
    intro key hne
    rw [List.lookup_append, Setting.entry, List.lookup_cons, beq_false_of_ne hne]
    exact Option.or_none
  -- Each setting has one field of its own; the others still look up what they did before.
  generalize entries ++ [s.entry] = other at hsame hother ⊢
  cases s <;> simp only [Setting.key] at hsame hother hnew <;> constructor
  case input.input => exact absurd rfl hs
  case output.output path => exact hsame ▸ ⟨path, isPath_text path, rfl⟩
  case window.window n => exact hsame ▸ isNumber_ofNat hvalid
  case truncate.truncate n => exact hsame ▸ ⟨n, isNumber_ofNat hvalid, rfl⟩
  case title.labels text =>
    have hlabels := h.labels
    rw [hnew] at hlabels
    exact hsame ▸ isLabels_title hlabels text
  case style.style name => exact hsame ▸ isStyle_value name
  case seriesOut.seriesOut path => exact hsame ▸ ⟨path, isPath_text path, rfl⟩
  all_goals rw [hother _ (by decide)]
  all_goals first
    | exact h.input | exact h.output | exact h.window | exact h.truncate | exact h.style
    | exact h.labels | exact h.width | exact h.height | exact h.seriesOut

theorem filledFrom_input (path : Path) :
    (new path).FilledFrom [(Setting.input path).entry] :=
  ⟨⟨_, rfl, isPath_text path⟩, rfl, rfl, rfl, rfl, rfl, rfl, rfl, rfl⟩

/-- Where nothing but the table is named, the defaults of the options and those of the keys leave the
chart as open as it is without them. -/
theorem defaults_agree (path : Path) :
    (CommandLine.give {} (.input path)).chart path = new path ∧
      Value.chart? (.table [(Setting.input path).entry]) = some (new path) :=
  ⟨rfl, (chart?_table_eq_some_iff (filledFrom_input path).wellTyped).2 (filledFrom_input path)⟩

/-- A table of settings stands for the chart with these settings. -/
theorem FilledFrom.foldl_apply {settings : List Setting} (hvalid : ∀ s ∈ settings, s.Valid)
    (hinput : ∀ s ∈ settings, s.parameter ≠ .input) (hdistinct : (settings.map Setting.key).Nodup)
    {entries : Table} {chart : Chart} (h : chart.FilledFrom entries)
    (hnew : ∀ s ∈ settings, entries.lookup s.key = none) :
    (settings.foldl Setting.apply chart).FilledFrom (entries ++ settings.map Setting.entry) := by
  induction settings generalizing entries chart with
  | nil => rwa [List.map_nil, List.append_nil]
  | cons s settings ih =>
    rw [List.forall_mem_cons] at hvalid hinput hnew
    rw [List.map_cons, List.nodup_cons] at hdistinct
    rw [List.map_cons, List.append_cons]
    refine ih hvalid.2 hinput.2 hdistinct.2 (h.apply hinput.1 hvalid.1 hnew.1) fun t ht => ?_
    have hne : t.key ≠ s.key := fun heq => hdistinct.1 (List.mem_map.2 ⟨t, ht, heq⟩)
    rw [List.lookup_append, hnew.2 t ht, Setting.entry, List.lookup_cons, beq_false_of_ne hne]
    rfl

end Chart

namespace Setting

/-- What is written is a value for each parameter. -/
theorem exists_items_of_written {settings : List Setting} {groups : List (List String)}
    (h : List.Forall₂ Written settings groups) :
    ∃ items : List (Parameter × List Char),
      List.Forall₂ (fun s item => s.parameter = item.1 ∧ s.Spelled item.2) settings items ∧
      List.Forall₂ (fun item arguments => item.1.Written item.2 arguments) items groups := by
  induction h with
  | nil => exact ⟨[], .nil, .nil⟩
  | cons hhead _ ih =>
    obtain ⟨value, hspelled, hwritten⟩ := hhead
    obtain ⟨items, hitems, hgroups⟩ := ih
    exact ⟨(_, value) :: items, .cons ⟨rfl, hspelled⟩ hitems, .cons hwritten hgroups⟩

section
variable {input : Path} {settings : List Setting}
  (hdistinct : ((Setting.input input :: settings).map parameter).Nodup)
include hdistinct

theorem parameter_ne_input : ∀ s ∈ settings, s.parameter ≠ .input := by
  intro s hs heq
  rw [List.map_cons, List.nodup_cons] at hdistinct
  exact hdistinct.1 (List.mem_map.2 ⟨s, hs, heq⟩)

variable (hvalid : ∀ s ∈ Setting.input input :: settings, s.Valid)
include hvalid

/-- The command line with the settings in some order asks for the chart with the settings. -/
theorem exists_parse_of_written {arranged : List Setting} {groups : List (List String)}
    (hperm : arranged.Perm (Setting.input input :: settings))
    (hwritten : List.Forall₂ Written arranged groups) :
    ∃ cl, CommandLine.parse groups.flatten = .ok cl ∧
      ∀ fs, cl.charts fs = .ok [settings.foldl apply (Chart.new input)] := by
  obtain ⟨items, hitems, hgroups⟩ := exists_items_of_written hwritten
  have hassign : CommandLine.assignAll {} items = _ := CommandLine.assignAll_of_spelled hitems
    ((hperm.map parameter).nodup_iff.2 hdistinct) (fun s hs => hvalid s (hperm.mem_iff.1 hs))
    fun s _ => by cases s <;> rfl
  -- With the table named first, all that follows are changes of its chart.
  rw [CommandLine.foldl_give_of_perm hperm hdistinct, List.foldl_cons] at hassign
  obtain ⟨hinput, hconfig, hchart⟩ := CommandLine.foldl_give_fields
    (parameter_ne_input hdistinct) (CommandLine.give {} (.input input)) input
  refine ⟨_, CommandLine.parse_flatten hgroups hassign ?_, fun fs => ?_⟩
  · rw [hinput, hconfig]
    exact Bool.noConfusion
  · rw [CommandLine.charts, hconfig, hinput]
    rw [(Chart.defaults_agree input).1] at hchart
    exact congrArg (fun chart => Except.ok [chart]) hchart

/-- The document with the settings under their keys lists the chart with the settings. -/
theorem parse_of_entries {text : List Char} {t entries : Table} (hparse : Toml.parse text = some t)
    (hlists : Chart.tables? t = some [entries])
    (hentries : ∀ key,
      entries.lookup key = ((Setting.input input :: settings).map entry).lookup key) :
    Configuration.parse text = .ok [settings.foldl apply (Chart.new input)] := by
  have hkeys := nodup_keys hdistinct
  rw [List.map_cons, List.nodup_cons] at hkeys
  have hfilled := (Chart.filledFrom_input input).foldl_apply
    (fun s hs => hvalid s (List.mem_cons_of_mem _ hs)) (parameter_ne_input hdistinct)
    hkeys.2 fun s hs => by
      have hne : s.key ≠ (Setting.input input).key := fun heq =>
        hkeys.1 (List.mem_map.2 ⟨s, hs, heq⟩)
      rw [entry, List.lookup_cons, beq_false_of_ne hne]
      rfl
  have hchart := hfilled.of_lookup_eq hentries
  exact (Chart.parse_eq_ok_iff_forall₂ hparse hlists
    (List.forall_mem_singleton.2 hchart.wellTyped)).2 (.cons hchart .nil)

end

/-- A table can be charted with any settings in two ways: on the command line, in any order and however
each of them is written, and in a configuration with one chart that has the settings under its keys.
Both ways lead to the chart of the table with nothing but the settings changed. -/
theorem charts_agree (input : Path) (settings : List Setting)
    (hdistinct : ((Setting.input input :: settings).map parameter).Nodup)
    (hvalid : ∀ s ∈ Setting.input input :: settings, s.Valid) :
    (∀ (arranged : List Setting) (groups : List (List String)),
      arranged.Perm (Setting.input input :: settings) → List.Forall₂ Written arranged groups →
        ∃ cl, CommandLine.parse groups.flatten = .ok cl ∧
          ∀ fs, cl.charts fs = .ok [settings.foldl apply (Chart.new input)]) ∧
    ∀ (text : List Char) (t entries : Table), Toml.parse text = some t →
      Chart.tables? t = some [entries] →
        (∀ key, entries.lookup key = ((Setting.input input :: settings).map entry).lookup key) →
          Configuration.parse text = .ok [settings.foldl apply (Chart.new input)] :=
  ⟨fun _ _ hperm hwritten => exists_parse_of_written hdistinct hvalid hperm hwritten,
    fun _ _ _ hparse hlists hentries => parse_of_entries hdistinct hvalid hparse hlists hentries⟩

/-- All settings of a chart at once. -/
def full : List Setting :=
  [.truncate 0, .window 9223372036854775807, .style .boxed, .output (Path.ofText "=a b.png"),
    .title "", .seriesOut (Path.ofText "../s")]

/-- A document with one chart that has all settings. -/
def fullDocument : String :=
  "[[chart]]\ninput='t.csv'\ntruncate=0\nwindow=9223372036854775807\nstyle='boxed'\n" ++
    "output='=a b.png'\nlabels.title=''\nseries_out='../s'\n"

/-- Arguments that make all settings in another order. -/
def fullArguments : List (List String) :=
  [["--style=boxed"], ["-w+09223372036854775807"], ["--series-out", "../s"], ["t.csv"],
    ["--title", ""], ["-o==a b.png"], ["--truncate", "00"]]

/-- The settings in the order of the arguments. -/
def fullArranged : List Setting :=
  [.style .boxed, .window 9223372036854775807, .seriesOut (Path.ofText "../s"),
    .input (Path.ofText "t.csv"), .title "", .output (Path.ofText "=a b.png"), .truncate 0]

theorem written_fullArguments : List.Forall₂ Written fullArranged fullArguments := by
  refine .cons ⟨"boxed".toList, rfl, ?_⟩ (.cons ⟨"+09223372036854775807".toList, ?_, ?_⟩
    (.cons ⟨_, rfl, ?_⟩ (.cons ⟨_, rfl, ?_⟩ (.cons ⟨_, rfl, ?_⟩ (.cons ⟨_, rfl, ?_⟩
      (.cons ⟨"00".toList, ?_, ?_⟩ .nil))))))
  · exact .longAttached (p := .style) (show _ = some "style" from rfl)
  · exact ⟨"09223372036854775807".toList, by decide, .inr rfl⟩
  · exact .shortAttached rfl nofun (by decide)
  · exact .long (p := .seriesOut) (show _ = some "series-out" from rfl) (by decide)
  · exact .table (by decide)
  · exact .long (p := .title) (show _ = some "title" from rfl) (by decide)
  · exact .shortEquals rfl
  · exact ⟨"00".toList, by decide, .inl rfl⟩
  · exact .long (p := .truncate) (show _ = some "truncate" from rfl) (by decide)

theorem charts_agree_full :
    (∃ cl, CommandLine.parse fullArguments.flatten = .ok cl ∧
      ∀ fs, cl.charts fs = .ok [full.foldl apply (Chart.new (Path.ofText "t.csv"))]) ∧
    Configuration.parse fullDocument.toList =
      .ok [full.foldl apply (Chart.new (Path.ofText "t.csv"))] := by
  have hvalid : ∀ s ∈ Setting.input (Path.ofText "t.csv") :: full, s.Valid := by
    simp [full, Valid, Path.ofText]
  have hagree := charts_agree (Path.ofText "t.csv") full (by decide) hvalid
  have hdocument : (Toml.parse fullDocument.toList).any (fun t => (Chart.tables? t).any fun tables =>
      List.Forall₂ (List.Forall₂ fun e s => e = s.entry) tables
        [Setting.input (Path.ofText "t.csv") :: full]) = true := by
    decide +kernel
  obtain ⟨t, hparse, htables⟩ := (Option.any_eq_true _ _).1 hdocument
  obtain ⟨tables, hlists, hentries⟩ := (Option.any_eq_true _ _).1 htables
  obtain ⟨entries, _, hhead, hrest, rfl⟩ :=
    List.forall₂_cons_right_iff.1 (of_decide_eq_true hentries)
  obtain rfl := List.forall₂_nil_right_iff.1 hrest
  have heq : entries = (Setting.input (Path.ofText "t.csv") :: full).map entry := by
    rwa [← List.forall₂_eq_eq_eq, List.forall₂_map_right_iff]
  exact ⟨hagree.1 fullArranged fullArguments (by decide) written_fullArguments,
    hagree.2 _ t entries hparse hlists fun key => by rw [heq]⟩

end Setting

end TelemetryCharts
