import TelemetryCharts.Chart.Basic
import TelemetryCharts.Proofs.Files.Readback

/-!
# Outputs that charts get from their tables

A chart whose output is not given is drawn to a file that has the stem of its table for a name. Charts
get the same output exactly if their tables have the same stem, and in no file system do two outputs
with different stems lead to the same file.
-/

namespace TelemetryCharts

namespace Path

theorem split_append (cs ds : List Char) : split (cs ++ '/' :: ds) = split cs ++ split ds := by
  fun_induction split cs with
  | case1 => simp [split]
  | case2 cs ih => simp [split, ih]
  | case3 c cs hc hsplit ih => exact absurd hsplit (split_ne_nil cs)
  | case4 c cs hc first rest hsplit ih =>
    rw [List.cons_append, split, if_neg hc, ih, hsplit]
    rfl

theorem dropIdle_append (front : List (List Char)) {back : List (List Char)} (h : dropIdle back ≠ []) :
    dropIdle (front ++ back) = front ++ dropIdle back := by
  rw [dropIdle_eq, dropIdle_eq, List.rdropWhile, List.reverse_append, List.dropWhile_append, if_neg]
  · simp [List.rdropWhile]
  · simpa [dropIdle] using h

theorem dropIdle_append_of_nil (front : List (List Char)) {back : List (List Char)}
    (h : dropIdle back = []) : dropIdle (front ++ back) = dropIdle front := by
  rw [dropIdle_eq, dropIdle_eq, List.rdropWhile, List.reverse_append, List.dropWhile_append, if_pos]
  · rfl
  · simpa [dropIdle] using h

/-- The last name of a path does not depend on what the path stands after. -/
theorem fileName?_append (front : List Char) {cs name : List Char}
    (h : fileName? ⟨cs⟩ = some name) : fileName? ⟨front ++ '/' :: cs⟩ = some name := by
  obtain ⟨first, rest, hsegments⟩ := exists_segments ⟨cs⟩
  obtain ⟨root, above, hfront⟩ := exists_segments ⟨front⟩
  have hwhole : segments ⟨front ++ '/' :: cs⟩ = root :: (above ++ first :: rest) := by
    show split _ = _
    rw [split_append]
    show segments ⟨front⟩ ++ segments ⟨cs⟩ = _
    rw [hfront, hsegments, List.cons_append]
  rw [fileName?, hsegments] at h
  rw [fileName?, hwhole]
  dsimp only at h ⊢
  suffices hlast : (dropIdle (above ++ first :: rest)).getLast?.getD root =
      (dropIdle rest).getLast?.getD first by rwa [hlast]
  by_cases hnone : dropIdle rest = []
  · -- Nothing but idle segments stands after the last name.
    rw [hnone] at h ⊢
    have hfirst : isIdle first = false := by
      apply Bool.eq_false_iff.2
      intro hidle
      simp [hidle] at h
    have hkept : dropIdle [first] = [first] := by simp [dropIdle, hfirst]
    have hsome : dropIdle (first :: rest) = [first] := by
      rw [← List.singleton_append, dropIdle_append_of_nil _ hnone, hkept]
    rw [dropIdle_append above (by rw [hsome]; exact List.cons_ne_nil _ _), hsome]
    simp
  · rw [List.append_cons, dropIdle_append _ hnone, List.getLast?_append,
      List.getLast?_eq_some_getLast hnone]
    rfl

/-- A path that is taken as relative to another one stays as it is or stands after a separator. -/
theorem resolve_cases (base p : Path) :
    base.resolve p = p ∨ ∃ front, base.resolve p = ⟨front ++ '/' :: p.chars⟩ := by
  rw [resolve]
  split
  · exact .inl rfl
  split
  · next hopen =>
    rcases List.eq_nil_or_concat base.chars with hnil | ⟨front, last, hconcat⟩
    · rw [hnil]
      exact .inl rfl
    · rw [hconcat] at hopen ⊢
      obtain rfl : last = '/' := by simpa using hopen
      exact .inr ⟨front, by simp⟩
  · exact .inr ⟨base.chars, rfl⟩

/-- What a path is relative to does not change its stem, if it has a name. -/
theorem stem?_resolve (base : Path) {p : Path} {stem : List Char} (h : p.stem? = some stem) :
    (base.resolve p).stem? = some stem := by
  rw [stem?, Option.map_eq_some_iff] at h
  obtain ⟨name, hname, rfl⟩ := h
  rcases resolve_cases base p with hsame | ⟨front, hafter⟩
  · rw [hsame, stem?, hname]
    rfl
  · rw [hafter, stem?, fileName?_append front hname]
    rfl

/-- A path that goes on after a separator is taken as relative in the same way as what stands before
the separator. -/
theorem resolve_append (base : Path) {front : List Char} (h : front ≠ []) (name : List Char) :
    base.resolve ⟨front ++ '/' :: name⟩ = ⟨(base.resolve ⟨front⟩).chars ++ '/' :: name⟩ := by
  have habsolute : isAbsolute ⟨front ++ '/' :: name⟩ = isAbsolute ⟨front⟩ := by
    cases front with
    | nil => exact absurd rfl h
    | cons c front => rfl
  rw [resolve, resolve, habsolute]
  split
  · rfl
  split <;> simp

theorem slash_notMem_of_stem? {p : Path} {stem : List Char} (h : p.stem? = some stem) :
    '/' ∉ stem := by
  rw [stem?, Option.map_eq_some_iff] at h
  obtain ⟨name, hname, rfl⟩ := h
  have hslash : '/' ∉ name := by
    obtain ⟨first, rest, hsegments⟩ := exists_segments p
    rw [fileName?, hsegments] at hname
    dsimp only at hname
    split at hname
    · cases hname
    · cases hname
      have hmem : (dropIdle rest).getLast?.getD first ∈ split p.chars := by
        rw [← segments, hsegments]
        cases hlast : (dropIdle rest).getLast? with
        | none => exact List.mem_cons_self
        | some last =>
          exact List.mem_cons_of_mem _ (mem_of_mem_dropIdle (List.mem_of_getLast? hlast))
      exact slash_notMem_of_mem_split hmem
  rw [cutName]
  split
  · exact hslash
  · intro hmem
    have hbefore := List.mem_of_mem_tail (List.mem_reverse.1 hmem)
    exact hslash (List.mem_reverse.1 ((List.dropWhile_suffix _).mem hbefore))

end Path

namespace FileSystem

variable {fs : FileSystem} {here location : Location} {front : List (List Char)} {name : List Char}

/-- A path with a last name leads to a place with this name, in a directory that does not depend on
it. -/
theorem exists_of_placeOf_follow_concat (hname : name ≠ [])
    (h : placeOf (fs.follow here (front ++ [name])) = .ok location) :
    ∃ middle, fs.follow here front = .ok (.existing middle .directory true) ∧
      location = middle ++ [name] := by
  obtain ⟨destination, hfollow, hplace⟩ := placeOf_eq_ok_iff_exists.1 h
  obtain ⟨middle, hmiddle, hlast⟩ := follow_append hfollow (.inl ⟨name, by simp, hname⟩)
  refine ⟨middle, hmiddle, ?_⟩
  rcases follow_cons_eq_ok hlast with ⟨next, -, hnext⟩ | ⟨-, -, -, -, rfl⟩
  · cases hnext
    cases hplace
  · exact (placeOf_landing hplace).1

/-- So what stands after the last separator of a path is the name of the place to which it leads. -/
theorem exists_of_placeOf_find {front name : List Char} (hname : name ≠ []) (hslash : '/' ∉ name)
    (h : placeOf (fs.find ⟨front ++ '/' :: name⟩) = .ok location) :
    ∃ middle, fs.follow (Path.start fs.workingDirectory ⟨front ++ ['/']⟩) (Path.split front) =
      .ok (.existing middle .directory true) ∧ location = middle ++ [name] := by
  obtain ⟨destination, hfind, hdestination⟩ := placeOf_eq_ok_iff_exists.1 h
  obtain ⟨-, -, hfollow⟩ := find_eq_ok_iff.1 hfind
  have hsegments : Path.segments ⟨front ++ '/' :: name⟩ = Path.split front ++ [name] := by
    rw [Path.segments, Path.split_append, Path.split_of_notMem hslash]
  have hstart : Path.start fs.workingDirectory ⟨front ++ '/' :: name⟩ =
      Path.start fs.workingDirectory ⟨front ++ ['/']⟩ := by
    cases front <;> rfl
  rw [hsegments, hstart] at hfollow
  apply exists_of_placeOf_follow_concat hname
  rw [hfollow, hdestination]

/-- Two names in one directory lead to different files. -/
theorem SameFile.name_eq {front name other : List Char} (hname : name ≠ []) (hother : other ≠ [])
    (hslash : '/' ∉ name) (hslash' : '/' ∉ other)
    (h : SameFile fs ⟨front ++ '/' :: name⟩ ⟨front ++ '/' :: other⟩) : name = other := by
  obtain ⟨location, hfirst, hsecond⟩ := h
  obtain ⟨middle, hmiddle, hlocation⟩ := exists_of_placeOf_find hname hslash hfirst
  obtain ⟨middle', hmiddle', hlocation'⟩ := exists_of_placeOf_find hother hslash' hsecond
  rw [hmiddle] at hmiddle'
  cases hmiddle'
  rw [hlocation] at hlocation'
  simpa using hlocation'

end FileSystem

namespace Chart

open FileSystem

/-- The name without extension of the chart of a table. -/
def stemOf (input : Path) : List Char :=
  input.stem?.getD "chart".toList

theorem slash_notMem_stemOf (input : Path) : '/' ∉ stemOf input := by
  rw [stemOf]
  cases hstem : input.stem? with
  | none => decide
  | some stem => exact Path.slash_notMem_of_stem? hstem

theorem defaultOutput_eq (input : Path) :
    defaultOutput input = ⟨"plots".toList ++ '/' :: (stemOf input ++ ".svg".toList)⟩ := by
  have hname : Path.isAbsolute ⟨stemOf input ++ ".svg".toList⟩ = false := by
    have hslash := slash_notMem_stemOf input
    rw [Path.isAbsolute, decide_eq_false_iff_not]
    cases hstem : stemOf input with
    | nil => decide
    | cons c stem =>
      rw [hstem] at hslash
      intro hhead
      cases hhead
      exact hslash List.mem_cons_self
  rw [defaultOutput, ← stemOf, Path.resolve, hname]
  rfl

variable {chart other : Chart}

/-- A chart whose output is not given is drawn in the directory for such charts. -/
theorem outputPath_resolve (base : Path) (houtput : chart.output = none) :
    (chart.resolve base).outputPath =
      ⟨(base.resolve (.ofText defaultOutputDirectory)).chars ++
        '/' :: (stemOf (base.resolve chart.input) ++ ".svg".toList)⟩ := by
  rw [resolve]
  show base.resolve ((Option.getD chart.output (defaultOutput (base.resolve chart.input)))) = _
  rw [houtput, Option.getD_none, defaultOutput_eq, Path.resolve_append base (by decide)]
  rfl

/-- Charts whose outputs are not given get the same output exactly if their tables have the same
stem. -/
theorem outputPath_resolve_eq_iff (base : Path) (h : chart.output = none) (h' : other.output = none) :
    (chart.resolve base).outputPath = (other.resolve base).outputPath ↔
      stemOf (base.resolve chart.input) = stemOf (base.resolve other.input) := by
  rw [outputPath_resolve base h, outputPath_resolve base h']
  simp

/-- Charts whose outputs are not given and lead to the same file have tables with the same stem. -/
theorem stemOf_eq_of_sameFile (base : Path) (h : chart.output = none) (h' : other.output = none)
    {fs : FileSystem}
    (hsame : SameFile fs (chart.resolve base).outputPath (other.resolve base).outputPath) :
    stemOf (base.resolve chart.input) = stemOf (base.resolve other.input) := by
  have hslash : ∀ input, '/' ∉ stemOf input ++ ".svg".toList := by
    intro input
    rw [List.mem_append, not_or]
    exact ⟨slash_notMem_stemOf input, by decide⟩
  rw [outputPath_resolve base h, outputPath_resolve base h'] at hsame
  exact List.append_cancel_right (hsame.name_eq (by simp) (by simp) (hslash _) (hslash _))

end Chart

end TelemetryCharts
