import TelemetryCharts.Session.CommandLine
import Mathlib.Data.List.Forall2

/-!
# Arguments of a command line

A parameter can be written in several ways. However each of them is written, a command line assigns
the parameters the values that are written, in their order.
-/

namespace TelemetryCharts

/-- The name of a parameter after two dashes. -/
def Parameter.flag? : Parameter → Option String
  | .input => none
  | .output => some "output"
  | .window => some "window"
  | .truncate => some "truncate"
  | .title => some "title"
  | .style => some "style"
  | .seriesOut => some "series-out"
  | .config => some "config"

/-- The name of a parameter after one dash. -/
def Parameter.letter? : Parameter → Option Char
  | .output => some 'o'
  | .window => some 'w'
  | .config => some 'c'
  | _ => none

theorem Named.ofShort?_of_letter? {p : Parameter} {letter : Char} (h : p.letter? = some letter) :
    Named.ofShort? letter = some (.parameter p) := by
  cases p <;> cases h <;> rfl

theorem Parameter.ne_input_of_flag? {p : Parameter} {flag : String} (h : p.flag? = some flag) :
    p ≠ .input := by
  rintro rfl
  cases h

theorem Parameter.ne_input_of_letter? {p : Parameter} {letter : Char}
    (h : p.letter? = some letter) : p ≠ .input := by
  rintro rfl
  cases h

/-- The arguments that give a parameter its value. The table stands alone. What stands on its own must
not begin with a dash, or it would be taken for a name. -/
inductive Parameter.Written : Parameter → List Char → List String → Prop
  | table {value : List Char} (hvalue : value.head? ≠ some '-') :
      Written .input value [String.ofList value]
  | long {p : Parameter} {flag : String} {value : List Char} (hflag : p.flag? = some flag)
      (hvalue : value.head? ≠ some '-') : Written p value ["--" ++ flag, String.ofList value]
  | longAttached {p : Parameter} {flag : String} {value : List Char} (hflag : p.flag? = some flag) :
      Written p value ["--" ++ flag ++ "=" ++ String.ofList value]
  | short {p : Parameter} {letter : Char} {value : List Char} (hletter : p.letter? = some letter)
      (hvalue : value.head? ≠ some '-') :
      Written p value [String.ofList ['-', letter], String.ofList value]
  | shortAttached {p : Parameter} {letter : Char} {value : List Char}
      (hletter : p.letter? = some letter) (hne : value ≠ []) (hvalue : value.head? ≠ some '=') :
      Written p value [String.ofList ('-' :: letter :: value)]
  | shortEquals {p : Parameter} {letter : Char} {value : List Char}
      (hletter : p.letter? = some letter) :
      Written p value [String.ofList ('-' :: letter :: '=' :: value)]

namespace CommandLine

theorem exists_of_bind_eq_ok {α β : Type} {x : Except UsageError α} {f : α → Except UsageError β}
    {b : β} (h : (x >>= f) = .ok b) : ∃ a, x = .ok a ∧ f a = .ok b := by
  cases x with
  | error e => cases h
  | ok a => exact ⟨a, rfl, h⟩

/-- A parameter gets a value only if it has none. -/
theorem once_eq_ok {α : Type} {given given' : Option α} {value : Except UsageError α}
    (h : once given value = .ok given') : given = none ∧ given'.isSome := by
  rw [once] at h
  split at h
  · cases h
  · next hnone =>
    cases value with
    | error e => cases h
    | ok x => exact ⟨by simpa using hnone, Except.ok.inj h ▸ rfl⟩

/-- The table is named once, and the other parameters leave it as it is. -/
theorem input_of_assign {cl cl' : CommandLine} {p : Parameter} {value : List Char}
    (h : cl.assign p value = .ok cl') :
    (p = .input ∧ cl.input = none ∧ cl'.input.isSome) ∨ (p ≠ .input ∧ cl'.input = cl.input) := by
  cases p <;> obtain ⟨x, hx, heq⟩ := exists_of_bind_eq_ok h <;> obtain rfl := Except.ok.inj heq
  case input => exact .inl ⟨rfl, once_eq_ok hx⟩
  all_goals exact .inr ⟨nofun, rfl⟩

/-- Gives parameters their values, one after the other. -/
def assignAll (cl : CommandLine) (items : List (Parameter × List Char)) :
    Except UsageError CommandLine :=
  items.foldlM (fun cl item => cl.assign item.1 item.2) cl

namespace Reader

/-- Reads arguments one after the other. -/
def readAll (r : Reader) (arguments : List String) : Except UsageError Reader :=
  arguments.foldlM (fun r argument => r.read argument.toList) r

theorem readAll_append (r : Reader) (front rest : List String) :
    r.readAll (front ++ rest) = r.readAll front >>= fun r' => r'.readAll rest :=
  List.foldlM_append

/-- Says what a reader has been told once its last parameter is settled. None is left without its
value. -/
def Holds (r : Reader) (said : CommandLine) : Prop :=
  r.settle = .ok { said, inputSeen := said.input.isSome }

section
variable {r : Reader} {said said' : CommandLine} {p : Parameter} {value : List Char}

theorem Holds.fields (h : r.Holds said) :
    r.inputSeen = said.input.isSome ∧ r.namesOnly = false ∧ ∀ p, r.pending ≠ some (p, none) := by
  rw [Holds, settle] at h
  split at h
  · next hpending =>
    obtain rfl := Except.ok.inj h
    exact ⟨rfl, rfl, nofun⟩
  · cases h
  · next q v hpending =>
    obtain ⟨cl, -, heq⟩ := exists_of_bind_eq_ok h
    have hfields := Reader.mk.inj (Except.ok.inj heq)
    exact ⟨hfields.2.2.1, hfields.2.2.2, fun p hp => nomatch hpending.symm.trans hp⟩

/-- A value that is settled has been assigned. -/
theorem holds_of_assign (hassign : said.assign p value = .ok said') :
    Holds ⟨said, some (p, some value), said'.input.isSome, false⟩ said' := by
  show (do return (⟨← said.assign p value, none, _, false⟩ : Reader)) = _
  rw [hassign]
  rfl

theorem read_value (hvalue : value.head? ≠ some '-') (hnames : r.namesOnly = false) :
    r.read value = r.readPlain value := by
  rw [read.eq_def, if_neg (by simp [hnames])]
  split
  · exact absurd rfl hvalue
  · exact absurd rfl hvalue
  · exact absurd rfl hvalue
  · rfl

theorem read_flag {flag : String} (hflag : p.flag? = some flag) (hnames : r.namesOnly = false) :
    r.read ("--" ++ flag).toList = r.readNamed (.parameter p) none := by
  rw [read.eq_def, if_neg (by simp [hnames])]
  cases p <;> cases hflag <;> rfl

theorem read_flag_attached {flag : String} (hflag : p.flag? = some flag)
    (hnames : r.namesOnly = false) :
    r.read ("--" ++ flag ++ "=" ++ String.ofList value).toList =
      r.readNamed (.parameter p) (some value) := by
  rw [read.eq_def, if_neg (by simp [hnames]), String.toList_append, String.toList_ofList]
  cases p <;> cases hflag <;> rfl

theorem read_letter {letter : Char} (hletter : p.letter? = some letter)
    (hnames : r.namesOnly = false) (cs : List Char) :
    r.read ('-' :: letter :: cs) = r.readShort letter cs := by
  rw [read.eq_def, if_neg (by simp [hnames])]
  cases p <;> cases hletter <;> rfl

section
variable {letter : Char} (hletter : p.letter? = some letter)
include hletter

theorem readShort_nil : r.readShort letter [] = r.readNamed (.parameter p) none := by
  rw [readShort, Named.ofShort?_of_letter? hletter]

theorem readShort_equals :
    r.readShort letter ('=' :: value) = r.readNamed (.parameter p) (some value) := by
  rw [readShort, Named.ofShort?_of_letter? hletter]

theorem readShort_value (hne : value ≠ []) (hvalue : value.head? ≠ some '=') :
    r.readShort letter value = r.readNamed (.parameter p) (some value) := by
  simp only [readShort, Named.ofShort?_of_letter? hletter]
  split
  · exact absurd rfl hne
  · exact absurd rfl hvalue
  · rfl

end

theorem Holds.readNamed_none (h : r.Holds said) :
    r.readNamed (.parameter p) none = .ok ⟨said, some (p, none), said.input.isSome, false⟩ := by
  rw [readNamed, h]
  rfl

theorem Holds.readNamed_some (h : r.Holds said) (hassign : said.assign p value = .ok said') :
    r.readNamed (.parameter p) (some value) = .ok ⟨said', none, said.input.isSome, false⟩ := by
  rw [readNamed, h]
  show (do return (⟨← said.assign p value, none, _, false⟩ : Reader)) = _
  rw [hassign]
  rfl

/-- What is not an option names the table, if the table is still without a name. -/
theorem Holds.readPlain_input (h : r.Holds said) (hinput : said.input = none) :
    r.readPlain value = .ok ⟨said, some (.input, some value), true, false⟩ := by
  obtain ⟨hseen, -, hpending⟩ := h.fields
  rw [hinput] at hseen
  rw [readPlain.eq_def]
  split
  · next heq _ => exact absurd heq (hpending _)
  · rw [hseen, h]
    rfl

/-- After the name of a parameter its value may stand on its own. -/
theorem Holds.readAll_apart (h : r.Holds said) (hassign : said.assign p value = .ok said')
    (hinput : said'.input = said.input) (hvalue : value.head? ≠ some '-') {name : String}
    (hname : r.read name.toList = r.readNamed (.parameter p) none) :
    ∃ r', r.readAll [name, String.ofList value] = .ok r' ∧ r'.Holds said' := by
  refine ⟨_, ?_, holds_of_assign hassign⟩
  have hread : Reader.read ⟨said, some (p, none), said.input.isSome, false⟩ value =
      .ok ⟨said, some (p, some value), said.input.isSome, false⟩ := read_value hvalue rfl
  rw [readAll, List.foldlM_cons, hname, h.readNamed_none, hinput]
  show Reader.read ⟨said, some (p, none), _, false⟩ (String.ofList value).toList >>= pure = _
  rw [String.toList_ofList, hread]
  rfl

/-- A value may be attached to the name of its parameter. -/
theorem Holds.readAll_attached (h : r.Holds said) (hassign : said.assign p value = .ok said')
    (hinput : said'.input = said.input) {argument : String}
    (hread : r.read argument.toList = r.readNamed (.parameter p) (some value)) :
    ∃ r', r.readAll [argument] = .ok r' ∧ r'.Holds said' := by
  refine ⟨⟨said', none, said.input.isSome, false⟩, ?_, by rw [← hinput]; rfl⟩
  rw [readAll, List.foldlM_cons, hread, h.readNamed_some hassign]
  rfl

/-- The table is the argument that is not an option. -/
theorem Holds.readAll_table (h : r.Holds said) (hassign : said.assign .input value = .ok said')
    (hvalue : value.head? ≠ some '-') :
    ∃ r', r.readAll [String.ofList value] = .ok r' ∧ r'.Holds said' := by
  obtain ⟨-, hnone, hsome⟩ | ⟨hne, -⟩ := input_of_assign hassign
  · refine ⟨_, ?_, holds_of_assign hassign⟩
    rw [readAll, List.foldlM_cons, String.toList_ofList, read_value hvalue h.fields.2.1,
      h.readPlain_input hnone, hsome]
    rfl
  · exact absurd rfl hne

/-- Arguments that give a parameter its value assign it. -/
theorem Holds.readAll_written (h : r.Holds said) {arguments : List String}
    (hwritten : p.Written value arguments) (hassign : said.assign p value = .ok said') :
    ∃ r', r.readAll arguments = .ok r' ∧ r'.Holds said' := by
  have hnames := h.fields.2.1
  have hinput : p ≠ .input → said'.input = said.input := fun hne =>
    (input_of_assign hassign).elim (fun hinput => absurd hinput.1 hne) And.right
  cases hwritten with
  | table hvalue => exact h.readAll_table hassign hvalue
  | long hflag hvalue =>
    exact h.readAll_apart hassign (hinput (Parameter.ne_input_of_flag? hflag)) hvalue
      (read_flag hflag hnames)
  | longAttached hflag =>
    exact h.readAll_attached hassign (hinput (Parameter.ne_input_of_flag? hflag))
      (read_flag_attached hflag hnames)
  | short hletter hvalue =>
    refine h.readAll_apart hassign (hinput (Parameter.ne_input_of_letter? hletter)) hvalue ?_
    rw [String.toList_ofList, read_letter hletter hnames, readShort_nil hletter]
  | shortAttached hletter hne hvalue =>
    refine h.readAll_attached hassign (hinput (Parameter.ne_input_of_letter? hletter)) ?_
    rw [String.toList_ofList, read_letter hletter hnames, readShort_value hletter hne hvalue]
  | shortEquals hletter =>
    refine h.readAll_attached hassign (hinput (Parameter.ne_input_of_letter? hletter)) ?_
    rw [String.toList_ofList, read_letter hletter hnames, readShort_equals hletter]

end

/-- Arguments assign the values that they give to parameters, in their order. -/
theorem Holds.readAll_flatten {items : List (Parameter × List Char)} {groups : List (List String)}
    (hwritten : List.Forall₂ (fun item arguments => item.1.Written item.2 arguments) items groups)
    {r : Reader} {said said' : CommandLine} (h : r.Holds said)
    (hassign : said.assignAll items = .ok said') :
    ∃ r', r.readAll groups.flatten = .ok r' ∧ r'.Holds said' := by
  -- A value may still be pending between two groups, so the readers agree only on what they hold.
  induction hwritten generalizing r said with
  | nil =>
    obtain rfl := Except.ok.inj hassign
    exact ⟨r, rfl, h⟩
  | cons hhead _ ih =>
    rw [assignAll, List.foldlM_cons] at hassign
    obtain ⟨next, hnext, hrest⟩ := exists_of_bind_eq_ok hassign
    obtain ⟨r₁, hr₁, hholds⟩ := h.readAll_written hhead hnext
    obtain ⟨r₂, hr₂, hholds₂⟩ := ih hholds hrest
    refine ⟨r₂, ?_, hholds₂⟩
    rw [List.flatten_cons, readAll_append, hr₁]
    exact hr₂

end Reader

/-- A command line that names a table and no configuration, or the other way round, says what its
arguments assign. -/
theorem parse_flatten {items : List (Parameter × List Char)} {groups : List (List String)}
    (hwritten : List.Forall₂ (fun item arguments => item.1.Written item.2 arguments) items groups)
    {cl : CommandLine} (hassign : ({} : CommandLine).assignAll items = .ok cl)
    (hsource : cl.input.isSome ≠ cl.config.isSome) : parse groups.flatten = .ok cl := by
  have hstart : Reader.Holds {} {} := rfl
  obtain ⟨r, hr, hholds⟩ := hstart.readAll_flatten hwritten hassign
  have hfinish : r.finish = .ok cl := by
    rw [Reader.finish, hholds]
    rcases hinput : cl.input with _ | input <;> rcases hconfig : cl.config with _ | config <;>
      rw [hinput, hconfig] at hsource
    · exact absurd rfl hsource
    · simp only [bind, Except.bind, hinput, hconfig]
      rfl
    · simp only [bind, Except.bind, hinput, hconfig]
      rfl
    · exact absurd rfl hsource
  show (Reader.readAll {} groups.flatten >>= Reader.finish) = _
  rw [hr]
  exact hfinish

end CommandLine

end TelemetryCharts
