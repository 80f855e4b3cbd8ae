import TelemetryCharts.Proofs.Files.Footprint
import TelemetryCharts.Proofs.Files.Walk

/-!
# Going down and creating directories

Directories that are missing on the way to a location are created one below the other. This stays
above the location, and it does the same in file systems that agree there.
-/

namespace TelemetryCharts

namespace FileSystem

/-- Goes down from a directory and creates the directories that are missing on the way. -/
def descend (fs : FileSystem) (here : Location) :
    List (List Char) → Except FileError Unit × FileSystem
  | [] => (.ok (), fs)
  | name :: names =>
    if nameLimit < (String.ofList name).utf8ByteSize then (.error .nameTooLong, fs)
    else
      match fs.node? (here ++ [name]) with
      | some .directory => fs.descend (here ++ [name]) names
      | some (.file _) => (.error (if names = [] then .alreadyExists else .notADirectory), fs)
      | none => (fs.put (here ++ [name]) .directory).descend (here ++ [name]) names

section
variable {fs : FileSystem} {here : Location} {names : List (List Char)}

theorem descend_long {name : List Char} (hlong : ¬ Fits name) :
    fs.descend here (name :: names) = (.error .nameTooLong, fs) := by
  rw [descend, if_pos (Decidable.not_not.1 hlong)]

theorem descend_file {name : List Char} {content : ByteArray} (hfits : Fits name)
    (hnode : fs.node? (here ++ [name]) = some (.file content)) :
    fs.descend here (name :: names) =
      (.error (if names = [] then .alreadyExists else .notADirectory), fs) := by
  rw [descend, if_neg hfits, hnode]

theorem descend_directory {name : List Char} (hfits : Fits name)
    (hnode : fs.node? (here ++ [name]) = some .directory) :
    fs.descend here (name :: names) = fs.descend (here ++ [name]) names := by
  rw [descend, if_neg hfits, hnode]

theorem descend_missing {name : List Char} (hfits : Fits name)
    (hnode : fs.node? (here ++ [name]) = none) :
    fs.descend here (name :: names) =
      (fs.put (here ++ [name]) .directory).descend (here ++ [name]) names := by
  rw [descend, if_neg hfits, hnode]

/-- A new directory above a written location is all that is changed by creating it. -/
theorem touches_put_directory (h : fs.WellFormed) (hhere : fs.node? here = some .directory)
    {name : List Char} (hnode : fs.node? (here ++ [name]) = none) {written : List Location}
    {target : Location} (htarget : target ∈ written) (hbelow : here ++ [name] <+: target) :
    Touches written fs (fs.put (here ++ [name]) .directory) where
  wellFormed := h.put hhere (by rw [hnode]; exact nofun)
  workingDirectory := rfl
  nodes location := by
    rw [node?_put (by simp)]
    split
    · next heq => exact .inr (.inr ⟨heq ▸ hnode, rfl, target, htarget, heq ▸ hbelow⟩)
    · exact .inl rfl

/-- Going down creates directories above its target, and nothing else changes. -/
theorem touches_descend (h : fs.WellFormed) (hhere : fs.node? here = some .directory)
    {written : List Location} {target : Location} (htarget : target ∈ written)
    (hbelow : here ++ names <+: target) : Touches written fs (fs.descend here names).2 := by
  induction names generalizing fs here with
  | nil => exact .refl written h
  | cons name names ih =>
    rw [List.append_cons] at hbelow
    by_cases hfits : Fits name
    · cases hnode : fs.node? (here ++ [name]) with
      | none =>
        have hput := touches_put_directory h hhere hnode htarget
          ((List.prefix_append _ _).trans hbelow)
        rw [descend_missing hfits hnode]
        exact hput.trans (ih hput.wellFormed (by rw [node?_put (by simp), if_pos rfl]) hbelow)
      | some node =>
        cases node with
        | directory =>
          rw [descend_directory hfits hnode]
          exact ih h hnode hbelow
        | file content =>
          rw [descend_file hfits hnode]
          exact .refl written h
    · rw [descend_long hfits]
      exact .refl written h

/-- Going down succeeds only if all directories are there in the end. -/
theorem node?_of_descend (hhere : fs.node? here = some .directory) (names : List (List Char))
    (hdescend : (fs.descend here names).1 = .ok ()) :
    (∀ name ∈ names, Fits name) ∧
      (fs.descend here names).2.node? (here ++ names) = some .directory := by
  induction names generalizing fs here with
  | nil => exact ⟨by simp, by rwa [List.append_nil]⟩
  | cons name names ih =>
    by_cases hfits : Fits name
    · cases hnode : fs.node? (here ++ [name]) with
      | none =>
        rw [descend_missing hfits hnode] at hdescend ⊢
        obtain ⟨hnames, htarget⟩ := ih (by rw [node?_put (by simp), if_pos rfl]) hdescend
        rw [List.append_cons here name names]
        exact ⟨List.forall_mem_cons.2 ⟨hfits, hnames⟩, htarget⟩
      | some node =>
        cases node with
        | directory =>
          rw [descend_directory hfits hnode] at hdescend ⊢
          obtain ⟨hnames, htarget⟩ := ih hnode hdescend
          rw [List.append_cons here name names]
          exact ⟨List.forall_mem_cons.2 ⟨hfits, hnames⟩, htarget⟩
        | file content =>
          rw [descend_file hfits hnode] at hdescend
          cases hdescend
    · rw [descend_long hfits] at hdescend
      cases hdescend

/-- Going down does the same in file systems that agree. A directory that only one of them has is
created in the other one. -/
theorem descend_alike {other : FileSystem} {used : List Location} (h : Agrees used fs other)
    (hhere : fs.node? here = some .directory) {target : Location} (htarget : target ∈ used)
    (hbelow : here ++ names <+: target) :
    (other.descend here names).1 = (fs.descend here names).1 ∧
      Parallel fs other (fs.descend here names).2 (other.descend here names).2 := by
  induction names generalizing fs other here with
  | nil => exact ⟨rfl, .refl fs other⟩
  | cons name names ih =>
    rw [List.append_cons] at hbelow
    have habove := (List.prefix_append (here ++ [name]) names).trans hbelow
    by_cases hfits : Fits name
    · cases hnode : fs.node? (here ++ [name]) with
      | none =>
        have hput := touches_put_directory h.wellFormed hhere hnode htarget habove
        have hnext : (fs.put (here ++ [name]) .directory).node? (here ++ [name]) = some .directory := by
          rw [node?_put (by simp), if_pos rfl]
        rw [descend_missing hfits hnode]
        rcases h.above target htarget _ habove with hsame | ⟨-, hdirectory⟩
        · have hhere' := h.node?_eq_some htarget ((List.prefix_append _ _).trans habove) hhere
          have hput' := touches_put_directory h.wellFormed_other hhere' (hsame.trans hnode) htarget
            habove
          have hparallel : Parallel fs other (fs.put (here ++ [name]) .directory)
              (other.put (here ++ [name]) .directory) := parallel_put (by simp) _
          rw [descend_missing hfits (hsame.trans hnode)]
          obtain ⟨hanswer, hparallel'⟩ := ih (h.of_parallel hparallel hput hput') hnext hbelow
          exact ⟨hanswer, hparallel.trans hparallel'⟩
        · have hparallel : Parallel fs other (fs.put (here ++ [name]) .directory) other :=
            parallel_put_present (by simp) hdirectory
          have hagrees := h.of_parallel hparallel hput (.refl used h.wellFormed_other)
          rw [descend_directory hfits hdirectory]
          obtain ⟨hanswer, hparallel'⟩ := ih hagrees hnext hbelow
          exact ⟨hanswer, hparallel.trans hparallel'⟩
      | some node =>
        have hsame := h.node?_eq_some htarget habove hnode
        cases node with
        | directory =>
          rw [descend_directory hfits hnode, descend_directory hfits hsame]
          exact ih h hnode hbelow
        | file content =>
          rw [descend_file hfits hnode, descend_file hfits hsame]
          exact ⟨rfl, .refl fs other⟩
    · rw [descend_long hfits, descend_long hfits]
      exact ⟨rfl, .refl fs other⟩

end

end FileSystem

end TelemetryCharts
