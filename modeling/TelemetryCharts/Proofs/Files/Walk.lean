import TelemetryCharts.Proofs.Files.Nodes

/-!
# Walking along plain paths

A path without dots leads straight down from its start. In a well-formed file system it gets to its
last name if and only if what lies above that is a directory and all names are short enough.
-/

namespace TelemetryCharts

namespace Path

/-- Says that no segment of a path is a dot or two dots. -/
def IsPlain (p : Path) : Prop :=
  ∀ segment ∈ p.segments, segment ≠ ['.'] ∧ segment ≠ ['.', '.']

instance (p : Path) : Decidable p.IsPlain :=
  inferInstanceAs (Decidable (∀ segment ∈ p.segments, _))

/-- The names that a path is made of. -/
def names (p : Path) : List (List Char) :=
  p.segments.filter (· ≠ [])

/-- Says whether a path ends in a separator. -/
def isOpen (p : Path) : Bool :=
  p.segments.getLast? = some []

/-- The location at which a path starts, given the working directory. -/
def start (home : Location) (p : Path) : Location :=
  if p.isAbsolute then [] else home

/-- The location that a plain path names, given the working directory. -/
def location (home : Location) (p : Path) : Location :=
  p.start home ++ p.names

theorem dropLast_prefix_location (home : Location) (p : Path) :
    p.start home ++ p.names.dropLast <+: p.location home :=
  (List.prefix_append_right_inj _).2 (List.dropLast_prefix _)

end Path

namespace FileSystem

/-- Says that a name is not too long. -/
def Fits (name : List Char) : Prop :=
  ¬ nameLimit < (String.ofList name).utf8ByteSize

/-- Where a path leads that has come to its last name. -/
def landing (fs : FileSystem) (here : Location) (isOpen : Bool) : Destination :=
  match fs.node? here with
  | some .directory => .existing here .directory true
  | some (.file content) => .existing here (.file content) isOpen
  | none => .free here isOpen

/-- Goes down from a directory, one name at a time. -/
def walk (fs : FileSystem) (here : Location) (isOpen : Bool) :
    List (List Char) → Except FileError Destination
  | [] => .ok (.existing here .directory true)
  | name :: names =>
    if nameLimit < (String.ofList name).utf8ByteSize then .error .nameTooLong
    else
      match fs.node? (here ++ [name]) with
      | some .directory => fs.walk (here ++ [name]) isOpen names
      | some (.file content) =>
        if names = [] then .ok (.existing (here ++ [name]) (.file content) isOpen)
        else .error .notADirectory
      | none => if names = [] then .ok (.free (here ++ [name]) isOpen) else .error .notFound

variable {fs : FileSystem} {here : Location}

theorem all_eq_nil (segments : List (List Char)) :
    (segments.all (· = [])) = decide (segments.filter (· ≠ []) = []) := by
  rw [Bool.eq_iff_iff]
  simp [List.filter_eq_nil_iff]

/-- A last name is followed by a separator if any segments follow it. -/
theorem getLast?_of_last_name {segment : List Char} {rest : List (List Char)} (hname : segment ≠ [])
    (hlast : rest.filter (· ≠ []) = []) :
    decide (rest ≠ []) = decide ((segment :: rest).getLast? = some []) := by
  cases rest with
  | nil => simp [hname]
  | cons next rest =>
    have hempty := List.filter_eq_nil_iff.1 hlast _ (List.getLast_mem (List.cons_ne_nil next rest))
    rw [List.getLast?_cons_cons, List.getLast?_eq_some_getLast (List.cons_ne_nil _ _)]
    simpa using hempty

theorem follow_eq_walk {segments : List (List Char)}
    (h : ∀ segment ∈ segments, segment ≠ ['.'] ∧ segment ≠ ['.', '.']) (here : Location) :
    fs.follow here segments =
      fs.walk here (segments.getLast? = some []) (segments.filter (· ≠ [])) := by
  induction segments generalizing here with
  | nil => rfl
  | cons segment rest ih =>
    obtain ⟨hdot, hdots⟩ := h segment (by simp)
    have hrest := ih fun other hother => h other (List.mem_cons_of_mem _ hother)
    -- Only at the end of a path does it matter whether it ends in a separator.
    have hlast : ∀ below, fs.walk below ((segment :: rest).getLast? = some []) (rest.filter (· ≠ [])) =
        fs.walk below (rest.getLast? = some []) (rest.filter (· ≠ [])) := by
      intro below
      cases rest with
      | nil => rfl
      | cons next rest => rw [List.getLast?_cons_cons]
    rw [follow]
    by_cases hempty : segment = []
    · have hidle : Path.isIdle segment = true := by simp [Path.isIdle, hempty]
      rw [if_pos hidle, hrest, ← hlast, hempty, List.filter_cons]
      simp
    · have hidle : Path.isIdle segment = false := by simp [Path.isIdle, hempty, hdot]
      have hfilter : (segment :: rest).filter (· ≠ []) = segment :: rest.filter (· ≠ []) := by
        simp [hempty]
      simp only [hidle, Bool.false_eq_true, if_false, if_neg hdots, hfilter, walk, all_eq_nil,
        decide_eq_true_eq]
      split
      · rfl
      · cases fs.node? (here ++ [segment]) with
        | none =>
          simp only
          split
          · next hnone => rw [getLast?_of_last_name hempty hnone]
          · rfl
        | some node =>
          cases node with
          | directory => exact (hrest _).trans (hlast _).symm
          | file content =>
            simp only
            split
            · next hnone => rw [getLast?_of_last_name hempty hnone]
            · rfl

theorem landing_directory (hnode : fs.node? here = some .directory) (isOpen : Bool) :
    fs.landing here isOpen = .existing here .directory true := by
  rw [landing, hnode]

section
variable {name : List Char} {names : List (List Char)} {isOpen : Bool}

theorem walk_long (hlong : ¬ Fits name) :
    fs.walk here isOpen (name :: names) = .error .nameTooLong := by
  rw [walk, if_pos (Decidable.not_not.1 hlong)]

theorem walk_directory (hfits : Fits name) (hnode : fs.node? (here ++ [name]) = some .directory) :
    fs.walk here isOpen (name :: names) = fs.walk (here ++ [name]) isOpen names := by
  rw [walk, if_neg hfits, hnode]

theorem walk_file {content : ByteArray} (hfits : Fits name)
    (hnode : fs.node? (here ++ [name]) = some (.file content)) (hnames : names ≠ []) :
    fs.walk here isOpen (name :: names) = .error .notADirectory := by
  simp [walk, if_neg hfits, hnode, hnames]

theorem walk_missing (hfits : Fits name) (hnode : fs.node? (here ++ [name]) = none)
    (hnames : names ≠ []) : fs.walk here isOpen (name :: names) = .error .notFound := by
  simp [walk, if_neg hfits, hnode, hnames]

end

/-- A walk comes to its last name if everything above that is a directory. -/
theorem walk_concat (h : fs.WellFormed) {names : List (List Char)} (hnames : ∀ name ∈ names, Fits name)
    (hnode : fs.node? (here ++ names) = some .directory) (isOpen : Bool) (last : List Char) :
    fs.walk here isOpen (names ++ [last]) =
      if nameLimit < (String.ofList last).utf8ByteSize then .error .nameTooLong
      else .ok (fs.landing (here ++ names ++ [last]) isOpen) := by
  induction names generalizing here with
  | nil =>
    rw [List.append_nil, List.nil_append, walk]
    split
    · rfl
    · cases hlast : fs.node? (here ++ [last]) with
      | none => simp [landing, hlast]
      | some node =>
        cases node with
        | directory => rw [landing_directory hlast, walk]
        | file content => simp [landing, hlast]
  | cons name names ih =>
    have hbelow : fs.node? (here ++ [name] ++ names) = some .directory := by
      rwa [List.append_assoc, List.singleton_append]
    have hname := h.node?_of_append hbelow
    rw [List.cons_append, walk_directory (hnames name (by simp)) hname,
      ih (fun other hother => hnames other (List.mem_cons_of_mem _ hother)) hbelow,
      List.append_assoc here [name] names, List.singleton_append]

/-- Everything above the last name of a walk that gets there is a directory. -/
theorem node?_of_walk_concat {names : List (List Char)} {last : List Char} {isOpen : Bool}
    {destination : Destination} (hhere : fs.node? here = some .directory)
    (hwalk : fs.walk here isOpen (names ++ [last]) = .ok destination) :
    (∀ name ∈ names, Fits name) ∧ fs.node? (here ++ names) = some .directory := by
  induction names generalizing here with
  | nil => exact ⟨by simp, by rwa [List.append_nil]⟩
  | cons name names ih =>
    have hbelow : names ++ [last] ≠ [] := by simp
    rw [List.cons_append] at hwalk
    by_cases hfits : Fits name
    · cases hname : fs.node? (here ++ [name]) with
      | none =>
        rw [walk_missing hfits hname hbelow] at hwalk
        cases hwalk
      | some node =>
        cases node with
        | file content =>
          rw [walk_file hfits hname hbelow] at hwalk
          cases hwalk
        | directory =>
          rw [walk_directory hfits hname] at hwalk
          obtain ⟨hnames, hnode⟩ := ih hname hwalk
          rw [List.append_cons here name names]
          exact ⟨List.forall_mem_cons.2 ⟨hfits, hnames⟩, hnode⟩
    · rw [walk_long hfits] at hwalk
      cases hwalk

end FileSystem

/-- What is wrong with a path whatever the files are, as far as its last name goes. -/
def Path.fault? (p : Path) : Option FileError :=
  if p.chars = [] then some .notFound
  else if '\x00' ∈ p.chars then some .invalidName
  else if ∃ last ∈ p.names.getLast?, FileSystem.nameLimit < (String.ofList last).utf8ByteSize then
    some .nameTooLong
  else none

namespace FileSystem

variable {fs : FileSystem} {p : Path}

/-- Says that what lies above the last name of a path is a directory that can be reached. -/
def Ready (fs : FileSystem) (p : Path) : Prop :=
  (∀ name ∈ p.names.dropLast, Fits name) ∧
    fs.node? (p.start fs.workingDirectory ++ p.names.dropLast) = some .directory

theorem WellFormed.node?_start (h : fs.WellFormed) (p : Path) :
    fs.node? (p.start fs.workingDirectory) = some .directory := by
  unfold Path.start
  split
  · exact node?_nil
  · exact h.workingDirectory

theorem find_eq_walk (hplain : p.IsPlain) (fs : FileSystem) :
    fs.find p =
      if p.chars = [] then .error .notFound
      else if '\x00' ∈ p.chars then .error .invalidName
      else fs.walk (p.start fs.workingDirectory) p.isOpen p.names := by
  rw [find, follow_eq_walk hplain]
  rfl

/-- A path whose last name can be reached leads to what is there, unless it is at fault itself. -/
theorem find_of_ready (h : fs.WellFormed) (hplain : p.IsPlain) (hready : fs.Ready p) :
    fs.find p = p.fault?.elim (.ok (fs.landing (p.location fs.workingDirectory) p.isOpen)) .error := by
  rw [find_eq_walk hplain, Path.fault?]
  split
  · rfl
  split
  · rfl
  obtain ⟨hfits, hnode⟩ := hready
  rcases List.eq_nil_or_concat p.names with hnames | ⟨names, last, hnames⟩
  · rw [Path.location, hnames, List.append_nil, landing_directory (h.node?_start p)]
    simp [walk]
  · rw [List.concat_eq_append] at hnames
    rw [hnames, List.dropLast_concat] at hfits hnode
    rw [Path.location, hnames, List.getLast?_concat, walk_concat h hfits hnode, List.append_assoc]
    simp only [Option.mem_def, Option.some.injEq, exists_eq_left']
    split <;> rfl

theorem find_eq_ok (h : fs.WellFormed) (hplain : p.IsPlain) {destination : Destination}
    (hfind : fs.find p = .ok destination) :
    fs.Ready p ∧ destination = fs.landing (p.location fs.workingDirectory) p.isOpen := by
  have hready : fs.Ready p := by
    rw [find_eq_walk hplain] at hfind
    split at hfind
    · cases hfind
    split at hfind
    · cases hfind
    rcases List.eq_nil_or_concat p.names with hnames | ⟨names, last, hnames⟩
    · rw [Ready, hnames, List.dropLast_nil, List.append_nil]
      exact ⟨by simp, h.node?_start p⟩
    · rw [List.concat_eq_append] at hnames
      rw [hnames] at hfind
      rw [Ready, hnames, List.dropLast_concat]
      exact node?_of_walk_concat (h.node?_start p) hfind
  rw [find_of_ready h hplain hready] at hfind
  refine ⟨hready, ?_⟩
  cases hfault : p.fault? with
  | some e =>
    rw [hfault] at hfind
    cases hfind
  | none =>
    rw [hfault] at hfind
    cases hfind
    rfl

end FileSystem

end TelemetryCharts
