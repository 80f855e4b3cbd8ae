import Mathlib.Data.List.DropRight
import TelemetryCharts.Proofs.Files.Walk

/-!
# Segments and parents of paths

A path is split into segments and put together again. The parent of a plain path is plain, starts
where the path starts, and has all of its names but the last.
-/

namespace TelemetryCharts.Path

theorem split_ne_nil (cs : List Char) : split cs ≠ [] := by
  fun_cases split cs <;> simp

theorem slash_notMem_of_mem_split {cs segment : List Char} (h : segment ∈ split cs) :
    '/' ∉ segment := by
  fun_induction split cs generalizing segment with
  | case1 => simp_all
  | case2 cs ih =>
    rcases List.mem_cons.1 h with rfl | h
    · simp
    · exact ih h
  | case3 c cs hc hsplit ih => exact absurd hsplit (split_ne_nil cs)
  | case4 c cs hc first rest hsplit ih =>
    rw [hsplit] at ih
    rcases List.mem_cons.1 h with rfl | h
    · simp [Ne.symm hc, ih (List.mem_cons_self ..)]
    · exact ih (List.mem_cons_of_mem _ h)

theorem unsplit_cons_cons (first next : List Char) (rest : List (List Char)) :
    unsplit (first :: next :: rest) = first ++ '/' :: unsplit (next :: rest) :=
  rfl

/-- A path is put together again from its segments. -/
theorem unsplit_split (cs : List Char) : unsplit (split cs) = cs := by
  fun_induction split cs with
  | case1 => rfl
  | case2 cs ih =>
    cases hsplit : split cs with
    | nil => exact absurd hsplit (split_ne_nil cs)
    | cons first rest => rw [unsplit_cons_cons, ← hsplit, ih, List.nil_append]
  | case3 c cs hc hsplit ih => exact absurd hsplit (split_ne_nil cs)
  | case4 c cs hc first rest hsplit ih =>
    rw [hsplit] at ih
    cases rest with
    | nil => rw [← ih]; rfl
    | cons next rest =>
      rw [unsplit_cons_cons] at ih ⊢
      rw [List.cons_append, ih]

theorem split_append_slash {segment : List Char} (h : '/' ∉ segment) (cs : List Char) :
    split (segment ++ '/' :: cs) = segment :: split cs := by
  induction segment with
  | nil => simp [split]
  | cons c segment ih =>
    simp only [List.mem_cons, not_or] at h
    rw [List.cons_append, split, if_neg (Ne.symm h.1), ih h.2]

theorem split_of_notMem {segment : List Char} (h : '/' ∉ segment) : split segment = [segment] := by
  induction segment with
  | nil => rfl
  | cons c segment ih =>
    simp only [List.mem_cons, not_or] at h
    rw [split, if_neg (Ne.symm h.1), ih h.2]

/-- Segments without separators are found again in the path that they are put together to. -/
theorem split_unsplit {segments : List (List Char)} (hne : segments ≠ [])
    (h : ∀ segment ∈ segments, '/' ∉ segment) : split (unsplit segments) = segments := by
  induction segments with
  | nil => exact absurd rfl hne
  | cons first rest ih =>
    have hfirst := h first (by simp)
    cases rest with
    | nil => exact split_of_notMem hfirst
    | cons next rest =>
      rw [unsplit_cons_cons, split_append_slash hfirst,
        ih (List.cons_ne_nil _ _) fun segment hsegment => h segment (List.mem_cons_of_mem _ hsegment)]

theorem mem_unsplit {c : Char} (hc : c ≠ '/') {segments : List (List Char)} :
    c ∈ unsplit segments ↔ ∃ segment ∈ segments, c ∈ segment := by
  fun_induction unsplit segments with
  | case1 => simp
  | case2 => simp
  | case3 first rest _ ih => simp [ih, hc]

theorem length_names_le (p : Path) : p.names.length ≤ p.chars.length := by
  rw [names, segments]
  generalize p.chars = cs
  fun_induction split cs with
  | case1 => simp
  | case2 cs ih =>
    rw [List.filter_cons, if_neg (by simp), List.length_cons]
    omega
  | case3 c cs hc hsplit ih => exact absurd hsplit (split_ne_nil cs)
  | case4 c cs hc first rest hsplit ih =>
    rw [hsplit, List.filter_cons] at ih
    have hname : decide (c :: first ≠ []) = true := by simp
    rw [List.filter_cons, if_pos hname, List.length_cons, List.length_cons]
    split at ih
    · rw [List.length_cons] at ih
      omega
    · omega

theorem unsplit_segments (p : Path) : unsplit p.segments = p.chars :=
  unsplit_split p.chars

theorem isAbsolute_eq {p : Path} {first : List Char} {rest : List (List Char)}
    (h : p.segments = first :: rest) : p.isAbsolute = decide (first = [] ∧ rest ≠ []) := by
  have hslash : '/' ∉ first := slash_notMem_of_mem_split (h ▸ List.mem_cons_self ..)
  rw [isAbsolute, ← unsplit_segments, h]
  cases rest with
  | nil =>
    have hhead : first.head? ≠ some '/' := fun hhead => hslash (List.mem_of_mem_head? hhead)
    simp [unsplit, hhead]
  | cons next rest =>
    rw [unsplit_cons_cons]
    cases first with
    | nil => simp
    | cons c first =>
      have hc : c ≠ '/' := fun heq => hslash (heq ▸ List.mem_cons_self ..)
      simpa using hc

theorem dropIdle_eq (segments : List (List Char)) : dropIdle segments = segments.rdropWhile isIdle :=
  rfl

/-- Without dots, only empty segments are idle. -/
theorem isIdle_iff {segment : List Char} (h : segment ≠ ['.']) : isIdle segment = true ↔ segment = [] := by
  simp [isIdle, h]

section
variable {segments : List (List Char)} (h : ∀ segment ∈ segments, segment ≠ ['.'])
include h

theorem filter_dropIdle : (dropIdle segments).filter (· ≠ []) = segments.filter (· ≠ []) := by
  have hsplit : dropIdle segments ++ segments.rtakeWhile isIdle = segments :=
    List.rdropWhile_append_rtakeWhile ..
  have hidle : (segments.rtakeWhile isIdle).filter (· ≠ []) = [] := by
    rw [List.filter_eq_nil_iff]
    intro segment hsegment
    have hmem : segment ∈ segments := by
      rw [← hsplit]
      exact List.mem_append_right _ hsegment
    simpa using (isIdle_iff (h segment hmem)).1 (List.mem_rtakeWhile_imp hsegment)
  conv_rhs => rw [← hsplit, List.filter_append, hidle, List.append_nil]

theorem dropIdle_eq_nil (hnames : segments.filter (· ≠ []) = []) : dropIdle segments = [] := by
  rw [dropIdle_eq, List.rdropWhile_eq_nil_iff]
  intro segment hsegment
  rw [isIdle_iff (h segment hsegment)]
  simpa using List.filter_eq_nil_iff.1 hnames segment hsegment

end

theorem mem_of_mem_dropIdle {segments : List (List Char)} {segment : List Char}
    (h : segment ∈ dropIdle segments) : segment ∈ segments :=
  (List.rdropWhile_prefix ..).mem h

/-- Without dots, what is not dropped ends in a name. -/
theorem exists_dropIdle_eq_concat {segments : List (List Char)} (h : dropIdle segments ≠ []) :
    ∃ before last, dropIdle segments = before ++ [last] ∧ isIdle last = false := by
  refine ⟨_, _, (List.dropLast_append_getLast h).symm, ?_⟩
  exact Bool.eq_false_iff.2 (List.rdropWhile_last_not isIdle segments h)

/-- Says that a path starts where another one does, has given names, and is as plain and free of null
characters as the other one. -/
structure IsAbove (q p : Path) (names : List (List Char)) : Prop where
  plain : q.IsPlain
  names_eq : q.names = names
  isAbsolute_eq : q.isAbsolute = p.isAbsolute
  noNull : '\x00' ∉ p.chars → '\x00' ∉ q.chars

/-- The parent of a path with several segments is a root or has all segments up to its last name. -/
theorem parent?_of_dropIdle {p : Path} {first final : List Char} {rest before : List (List Char)}
    (hsegments : p.segments = first :: rest) (hbefore : dropIdle rest = before ++ [final]) :
    p.parent? = if first = [] ∧ dropIdle before = [] then some ⟨['/']⟩
      else some ⟨unsplit (first :: dropIdle before)⟩ := by
  have hdropLast : (dropIdle rest).dropLast = before := by rw [hbefore, List.dropLast_concat]
  rw [parent?, hsegments]
  dsimp only
  cases hkept : dropIdle rest with
  | nil =>
    rw [hkept] at hbefore
    exact absurd hbefore.symm (by simp)
  | cons next kept =>
    rw [hkept] at hdropLast
    simp only [hdropLast]
    cases first <;> cases dropIdle before <;> simp

theorem exists_segments (p : Path) : ∃ first rest, p.segments = first :: rest :=
  List.exists_cons_of_ne_nil (split_ne_nil p.chars)

section
variable {p : Path} (hplain : p.IsPlain)
include hplain

/-- Segments of a plain path, possibly with empty ones among them, make up a path above it. -/
theorem isAbove_unsplit {first : List Char} {rest : List (List Char)}
    (hsegments : ∀ segment ∈ first :: rest, segment = [] ∨ segment ∈ p.segments)
    (habsolute : p.isAbsolute = decide (first = [] ∧ rest ≠ [])) :
    IsAbove ⟨unsplit (first :: rest)⟩ p ((first :: rest).filter (· ≠ [])) := by
  have hslash : ∀ segment ∈ first :: rest, '/' ∉ segment := by
    intro segment hsegment
    rcases hsegments segment hsegment with rfl | hmem
    · simp
    · exact slash_notMem_of_mem_split hmem
  have hsplit : segments ⟨unsplit (first :: rest)⟩ = first :: rest :=
    split_unsplit (List.cons_ne_nil _ _) hslash
  refine ⟨?_, ?_, ?_, ?_⟩
  · intro segment hsegment
    rw [hsplit] at hsegment
    rcases hsegments segment hsegment with rfl | hmem
    · decide
    · exact hplain segment hmem
  · rw [names, hsplit]
  · rw [isAbsolute_eq hsplit, habsolute]
  · intro hnull hmem
    obtain ⟨segment, hsegment, hmem⟩ := (mem_unsplit (by decide)).1 hmem
    rcases hsegments segment hsegment with rfl | hsegment
    · cases hmem
    · rw [← unsplit_segments, mem_unsplit (by decide)] at hnull
      exact hnull ⟨segment, hsegment, hmem⟩

theorem parent?_eq_none (hnames : p.names = []) : p.parent? = none := by
  obtain ⟨first, rest, hsegments⟩ := p.exists_segments
  have hrest : ∀ segment ∈ rest, segment ≠ ['.'] := fun segment hsegment =>
    (hplain segment (hsegments ▸ List.mem_cons_of_mem _ hsegment)).1
  rw [names, hsegments, List.filter_cons] at hnames
  split at hnames
  · cases hnames
  · next hfirst =>
    have hempty : first = [] := by simpa using hfirst
    rw [parent?, hsegments]
    simp [dropIdle_eq_nil hrest hnames, hempty]

/-- The parent of a path has all of its names but the last. -/
theorem exists_parent {above : List (List Char)} {last : List Char}
    (hnames : p.names = above ++ [last]) : ∃ q, p.parent? = some q ∧ q.IsAbove p above := by
  obtain ⟨first, rest, hsegments⟩ := p.exists_segments
  have hrest : ∀ segment ∈ rest, segment ≠ ['.'] := fun segment hsegment =>
    (hplain segment (hsegments ▸ List.mem_cons_of_mem _ hsegment)).1
  have hcons : p.names = [first].filter (· ≠ []) ++ (dropIdle rest).filter (· ≠ []) := by
    rw [filter_dropIdle hrest, names, hsegments, ← List.filter_append, List.singleton_append]
  have habsolute := isAbsolute_eq hsegments
  by_cases hnone : dropIdle rest = []
  · -- A single name, whose parent is the empty path.
    have hfirst : first ≠ [] := by
      rintro rfl
      simp [hcons, hnone] at hnames
    have habove : above = [] := by
      have hlength := congrArg List.length hnames
      simpa [hcons, hnone, hfirst] using hlength
    have hempty : IsAbove ⟨unsplit [[]]⟩ p ([[]].filter (· ≠ [])) :=
      isAbove_unsplit hplain (by simp) (by simp [habsolute, hfirst])
    refine ⟨⟨[]⟩, ?_, habove ▸ hempty⟩
    rw [parent?, hsegments]
    simp [hnone, hfirst]
  · obtain ⟨before, final, hbefore, hfinal⟩ := exists_dropIdle_eq_concat hnone
    have hmem : ∀ segment ∈ before, segment ∈ rest := fun segment hsegment =>
      mem_of_mem_dropIdle (hbefore ▸ List.mem_append_left _ hsegment)
    have hrest' : rest ≠ [] := by
      rintro rfl
      exact hnone rfl
    have habove : above = (first :: dropIdle before).filter (· ≠ []) := by
      have hname : final ≠ [] := by
        rintro rfl
        cases hfinal
      have hlast : [final].filter (· ≠ []) = [final] := by simp [hname]
      rw [hnames, hbefore, List.filter_append, hlast, ← List.append_assoc] at hcons
      rw [(List.append_inj' hcons rfl).1, ← filter_dropIdle fun segment hsegment =>
        hrest segment (hmem segment hsegment), ← List.filter_append, List.singleton_append]
    rw [parent?_of_dropIdle hsegments hbefore]
    split
    · -- A single name in the root directory.
      next hroot =>
      have hempty : IsAbove ⟨unsplit [[], []]⟩ p ([[], []].filter (· ≠ [])) :=
        isAbove_unsplit hplain (by simp) (by simp [habsolute, hroot.1, hrest'])
      refine ⟨_, rfl, ?_⟩
      rw [habove, hroot.1, hroot.2]
      exact hempty
    · next hroot =>
      refine ⟨_, rfl, ?_⟩
      rw [habove]
      apply isAbove_unsplit hplain
      · intro segment hsegment
        rw [hsegments]
        rcases List.mem_cons.1 hsegment with rfl | hsegment
        · exact .inr (List.mem_cons_self ..)
        · exact .inr (List.mem_cons_of_mem _ (hmem segment (mem_of_mem_dropIdle hsegment)))
      · simp_all

end

end TelemetryCharts.Path
