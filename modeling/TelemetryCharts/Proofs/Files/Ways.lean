import TelemetryCharts.Proofs.Files.Segments
import TelemetryCharts.Proofs.Files.Writing
import TelemetryCharts.Session.Snapshot

/-!
# Ways along any path

A path may go through dots and up again. However it goes, a path that leads somewhere passes nothing
but directories on its way, the parent of the path leads to the last of them, and a name that it
finds free is one that it passes.
-/

namespace TelemetryCharts

namespace FileSystem

/-- The directory that a segment leads to from a directory, if it leads to one. -/
def enter? (fs : FileSystem) (here : Location) (name : List Char) : Option Location :=
  if Path.isIdle name then some here
  else if name = ['.', '.'] then some here.dropLast
  else if nameLimit < (String.ofList name).utf8ByteSize then none
  else if fs.node? (here ++ [name]) = some .directory then some (here ++ [name])
  else none

section
variable {fs other : FileSystem} {here next location : Location} {name : List Char}
  {rest front back segments : List (List Char)} {destination : Destination}

/-- How a segment leads to a directory: it leads nowhere else, or up, or down to a directory that is
there. -/
theorem enter?_eq_some_iff : fs.enter? here name = some next ↔
    Path.isIdle name = true ∧ here = next ∨
      Path.isIdle name = false ∧ name = ['.', '.'] ∧ here.dropLast = next ∨
      Path.isIdle name = false ∧ name ≠ ['.', '.'] ∧ Fits name ∧
        fs.node? (here ++ [name]) = some .directory ∧ here ++ [name] = next := by
  rw [enter?, Fits]
  split
  · next hidle => simp [hidle]
  next hidle =>
  split
  · next hparent => simp [hparent, Path.isIdle]
  next hparent =>
  split
  · next hlong => simp [hidle, hparent, hlong]
  next hlong =>
  split
  · next hnode => simp [hidle, hparent, hlong, hnode]
  · next hnode => simp [hidle, hparent, hnode]

/-- When a segment does not lead to a directory. -/
theorem enter?_eq_none_iff : fs.enter? here name = none ↔
    Path.isIdle name = false ∧ name ≠ ['.', '.'] ∧
      (Fits name → fs.node? (here ++ [name]) ≠ some .directory) := by
  rw [enter?, Fits]
  split
  · next hidle => simp [hidle]
  next hidle =>
  split
  · next hparent => simp [hparent]
  next hparent =>
  split
  · next hlong => simp [hidle, hparent, hlong]
  next hlong =>
  split
  · next hnode => simp [hlong, hnode]
  · next hnode => simp [hidle, hparent, hnode]

theorem follow_of_enter (h : fs.enter? here name = some next) (rest : List (List Char)) :
    fs.follow here (name :: rest) = fs.follow next rest := by
  rw [follow]
  rcases enter?_eq_some_iff.1 h with
    ⟨hidle, rfl⟩ | ⟨hidle, hparent, rfl⟩ | ⟨hidle, hparent, hfits, hnode, rfl⟩
  · rw [if_pos hidle]
  · rw [if_neg (Bool.eq_false_iff.1 hidle), if_pos hparent]
  · rw [if_neg (Bool.eq_false_iff.1 hidle), if_neg hparent, if_neg hfits]
    dsimp only
    rw [hnode]

/-- A segment that leads to no directory has to be the last one, and it names a file or a free
place. -/
theorem follow_last_eq_ok_iff (h : fs.enter? here name = none) :
    fs.follow here (name :: rest) = .ok destination ↔
      Fits name ∧ rest.all (· = []) = true ∧ fs.node? (here ++ [name]) ≠ some .directory ∧
        destination = fs.landing (here ++ [name]) (rest ≠ []) := by
  obtain ⟨hidle, hparent, hdirectory⟩ := enter?_eq_none_iff.1 h
  rw [follow, landing, if_neg (Bool.eq_false_iff.1 hidle), if_neg hparent]
  split
  · next hlong => exact iff_of_false (fun hok => by cases hok) fun hlast => hlast.1 hlong
  next hfits =>
  dsimp only
  cases hnode : fs.node? (here ++ [name]) with
  | none =>
    by_cases hall : rest.all (· = []) = true
    · simp [hall, Fits, hfits, eq_comm]
    · simp [hall]
  | some node =>
    cases node with
    | directory => exact absurd hnode (hdirectory hfits)
    | file content =>
      by_cases hall : rest.all (· = []) = true
      · simp [hall, Fits, hfits, eq_comm]
      · simp [hall]

/-- A way that ends somewhere either goes on in a directory or ends with its first name. -/
theorem follow_cons_eq_ok (h : fs.follow here (name :: rest) = .ok destination) :
    (∃ next, fs.enter? here name = some next ∧ fs.follow next rest = .ok destination) ∨
      fs.enter? here name = none ∧ Fits name ∧ rest.all (· = []) = true ∧
        fs.node? (here ++ [name]) ≠ some .directory ∧
        destination = fs.landing (here ++ [name]) (rest ≠ []) := by
  cases henter : fs.enter? here name with
  | some next => exact .inl ⟨next, rfl, by rwa [follow_of_enter henter] at h⟩
  | none => exact .inr ⟨rfl, (follow_last_eq_ok_iff henter).1 h⟩

theorem landing_ne_directory (hnode : fs.node? here ≠ some .directory) (isOpen : Bool)
    (below : Location) : fs.landing here isOpen ≠ .existing below .directory true := by
  rw [landing]
  split
  · next hdirectory => exact absurd hdirectory hnode
  · simp
  · simp

/-- A path that leads to a directory, or that has another name to come, has been at a directory all
the way. -/
theorem follow_append (h : fs.follow here (front ++ back) = .ok destination)
    (hback : (∃ segment ∈ back, segment ≠ []) ∨ ∃ below, destination = .existing below .directory true) :
    ∃ middle, fs.follow here front = .ok (.existing middle .directory true) ∧
      fs.follow middle back = .ok destination := by
  induction front generalizing here with
  | nil => exact ⟨here, rfl, h⟩
  | cons name front ih =>
    rcases follow_cons_eq_ok h with ⟨next, henter, hnext⟩ | ⟨-, -, hall, hnode, hlast⟩
    · rw [follow_of_enter henter]
      exact ih hnext
    · rcases hback with ⟨segment, hsegment, hname⟩ | ⟨below, hbelow⟩
      · have hempty := List.all_eq_true.1 hall segment (List.mem_append_right _ hsegment)
        exact absurd (by simpa using hempty) hname
      · exact absurd (hlast.symm.trans hbelow) (landing_ne_directory hnode _ below)

theorem passed_of_enter (h : fs.enter? here name = some next) (rest : List (List Char)) :
    passed here (name :: rest) = next :: passed next rest := by
  rw [passed]
  rcases enter?_eq_some_iff.1 h with
    ⟨hidle, rfl⟩ | ⟨hidle, hparent, rfl⟩ | ⟨hidle, hparent, -, -, rfl⟩
  · rw [if_pos hidle]
  · rw [if_neg (Bool.eq_false_iff.1 hidle), if_pos hparent]
  · rw [if_neg (Bool.eq_false_iff.1 hidle), if_neg hparent]

theorem passed_of_last (h : fs.enter? here name = none) (rest : List (List Char)) :
    passed here (name :: rest) = (here ++ [name]) :: passed (here ++ [name]) rest := by
  obtain ⟨hidle, hparent, -⟩ := enter?_eq_none_iff.1 h
  rw [passed, if_neg (Bool.eq_false_iff.1 hidle), if_neg hparent]

theorem passed_append_subset : passed here front ⊆ passed here (front ++ back) := by
  induction front generalizing here with
  | nil => exact List.nil_subset _
  | cons name front ih => exact List.cons_subset_cons _ ih

/-- A free place is one that is passed. -/
theorem node?_of_follow_free {isOpen : Bool} (h : fs.follow here segments = .ok (.free location isOpen)) :
    fs.node? location = none ∧ location ∈ passed here segments := by
  induction segments generalizing here with
  | nil => cases h
  | cons name rest ih =>
    rcases follow_cons_eq_ok h with ⟨next, henter, hnext⟩ | ⟨henter, -, -, -, hlast⟩
    · obtain ⟨hnode, hmem⟩ := ih hnext
      rw [passed_of_enter henter]
      exact ⟨hnode, List.mem_cons_of_mem _ hmem⟩
    · rw [landing] at hlast
      rw [passed_of_last henter]
      split at hlast
      · cases hlast
      · cases hlast
      · next hnode =>
        cases hlast
        exact ⟨hnode, List.mem_cons_self⟩

theorem enter?_of_directories
    (hdirectories : ∀ location, fs.node? location = some .directory →
      other.node? location = some .directory)
    (h : fs.enter? here name = some next) : other.enter? here name = some next := by
  rw [enter?_eq_some_iff] at h ⊢
  rcases h with hidle | hparent | ⟨hidle, hparent, hfits, hnode, rfl⟩
  · exact .inl hidle
  · exact .inr (.inl hparent)
  · exact .inr (.inr ⟨hidle, hparent, hfits, hdirectories _ hnode, rfl⟩)

theorem enter?_eq_none (h : fs.enter? here name = none)
    (hnode : other.node? (here ++ [name]) ≠ some .directory) : other.enter? here name = none := by
  obtain ⟨hidle, hparent, -⟩ := enter?_eq_none_iff.1 h
  exact enter?_eq_none_iff.2 ⟨hidle, hparent, fun _ => hnode⟩

/-- A file is never written in place of a directory. -/
theorem node?_of_placeOf_follow (h : placeOf (fs.follow here segments) = .ok location) :
    fs.node? location ≠ some .directory := by
  induction segments generalizing here with
  | nil => cases h
  | cons name rest ih =>
    cases hfollow : fs.follow here (name :: rest) with
    | error e =>
      rw [hfollow] at h
      cases h
    | ok destination =>
      rcases follow_cons_eq_ok hfollow with ⟨next, -, hnext⟩ | ⟨-, -, -, -, rfl⟩
      · apply ih
        rwa [hnext, ← hfollow]
      · rw [hfollow] at h
        exact (placeOf_landing h).2

/-- No file is where a path ends in a separator. -/
theorem isOpen_of_placeOf {isOpen : Bool}
    (h : placeOf (.ok (fs.landing here isOpen)) = .ok location) : isOpen = false := by
  cases isOpen with
  | false => rfl
  | true =>
    rw [landing] at h
    split at h <;> cases h

/-- Where the directories of a file system are still directories, a path leads to the place where it
led to a file or to nothing before. -/
theorem follow_of_placeOf
    (hdirectories : ∀ location, fs.node? location = some .directory →
      other.node? location = some .directory)
    (hplace : placeOf (fs.follow here segments) = .ok location)
    (hnode : other.node? location ≠ some .directory) :
    other.follow here segments = .ok (other.landing location false) := by
  induction segments generalizing here with
  | nil => cases hplace
  | cons name rest ih =>
    cases hfollow : fs.follow here (name :: rest) with
    | error e =>
      rw [hfollow] at hplace
      cases hplace
    | ok destination =>
      rcases follow_cons_eq_ok hfollow with
        ⟨next, henter, hnext⟩ | ⟨henter, hfits, hall, -, rfl⟩
      · rw [follow_of_enter (enter?_of_directories hdirectories henter)]
        apply ih
        rwa [hnext, ← hfollow]
      · rw [hfollow] at hplace
        obtain ⟨rfl, -⟩ := placeOf_landing hplace
        have hclosed := isOpen_of_placeOf hplace
        rw [follow_last_eq_ok_iff (enter?_eq_none henter hnode), hclosed]
        exact ⟨hfits, hall, hnode, rfl⟩

end

end FileSystem

namespace Path

open FileSystem

/-- Says that a path leads to a directory that is passed on the way along another one, before its last
name. -/
structure IsOnWay (q p : Path) : Prop where
  follow_eq : ∃ front back, p.segments = front ++ back ∧ (∃ segment ∈ back, segment ≠ []) ∧
    ∀ (fs : FileSystem) (here : Location), fs.follow here q.segments = fs.follow here front
  passed : ∀ here, passed here q.segments ⊆ passed here p.segments
  isAbsolute_eq : q.isAbsolute = p.isAbsolute
  noNull : '\x00' ∉ p.chars → '\x00' ∉ q.chars

/-- The parent of a path is empty, or it is on the way along the path. -/
theorem isOnWay_of_parent? {p q : Path} (h : p.parent? = some q) : q.chars = [] ∨ q.IsOnWay p := by
  obtain ⟨first, rest, hsegments⟩ := p.exists_segments
  have habsolute := isAbsolute_eq hsegments
  by_cases hnone : dropIdle rest = []
  · rw [parent?, hsegments] at h
    simp only [hnone] at h
    split at h
    · cases h
    · cases h
      exact .inl rfl
  refine .inr ?_
  obtain ⟨before, final, hbefore, hfinal⟩ := exists_dropIdle_eq_concat hnone
  have hname : final ≠ [] := by
    rintro rfl
    cases hfinal
  obtain ⟨idle, hidle⟩ : before ++ [final] <+: rest := hbefore ▸ List.rdropWhile_prefix ..
  have hrest : rest ≠ [] := by
    rintro rfl
    exact hnone rfl
  rw [parent?_of_dropIdle hsegments hbefore] at h
  split at h
  · next hroot =>
    cases h
    obtain ⟨rfl, -⟩ := hroot
    refine ⟨⟨[[]], rest, hsegments, ⟨final, ?_, hname⟩, fun fs here => rfl⟩, fun here => ?_, ?_, ?_⟩
    · rw [← hidle]
      simp
    · rw [hsegments, passed]
      intro location hlocation
      simp_all [segments, split, FileSystem.passed, isIdle]
    · rw [habsolute]
      simp [isAbsolute, hrest]
    · intro _
      simp
  · next hroot =>
    cases h
    obtain ⟨tail, htail⟩ : dropIdle before <+: before := List.rdropWhile_prefix ..
    have hwhole : p.segments = (first :: dropIdle before) ++ (tail ++ [final] ++ idle) := by
      rw [hsegments, ← hidle]
      conv_lhs => rw [← htail]
      simp
    have hslash : ∀ segment ∈ first :: dropIdle before, '/' ∉ segment := by
      intro segment hsegment
      exact slash_notMem_of_mem_split (hwhole ▸ List.mem_append_left _ hsegment)
    have hsplit : segments ⟨unsplit (first :: dropIdle before)⟩ = first :: dropIdle before :=
      split_unsplit (List.cons_ne_nil _ _) hslash
    refine ⟨⟨_, _, hwhole, ⟨final, by simp, hname⟩, fun fs here => by rw [hsplit]⟩, fun here => ?_, ?_, ?_⟩
    · rw [hsplit, hwhole]
      exact passed_append_subset
    · rw [isAbsolute_eq hsplit, habsolute]
      simp only [ne_eq, hrest, not_false_eq_true, and_true, decide_eq_decide]
      exact ⟨fun h => h.1, fun h => ⟨h, fun hnil => hroot ⟨h, hnil⟩⟩⟩
    · intro hnull hmem
      obtain ⟨segment, hsegment, hmem⟩ := (mem_unsplit (by decide)).1 hmem
      rw [← unsplit_segments, mem_unsplit (by decide)] at hnull
      exact hnull ⟨segment, hwhole ▸ List.mem_append_left _ hsegment, hmem⟩

end Path

namespace FileSystem

variable {fs other : FileSystem} {p q : Path} {location : Location}

theorem find_eq_ok_iff {destination : Destination} :
    fs.find p = .ok destination ↔ p.chars ≠ [] ∧ '\x00' ∉ p.chars ∧
      fs.follow (p.start fs.workingDirectory) p.segments = .ok destination := by
  rw [find]
  by_cases hchars : p.chars = []
  · simp [hchars]
  by_cases hnull : '\x00' ∈ p.chars
  · simp [hchars, hnull]
  · rw [if_neg hchars, if_neg hnull, Path.start]
    simp [hchars, hnull]

/-- Above a path that leads somewhere there is a directory. -/
theorem isDirectory_of_parent? (hparent : p.parent? = some q) {destination : Destination}
    (hfind : fs.find p = .ok destination) : q.chars = [] ∨ fs.isDirectory q = true := by
  by_cases hchars : q.chars = []
  · exact .inl hchars
  obtain ⟨-, hnull, hfollow⟩ := find_eq_ok_iff.1 hfind
  have hway := (Path.isOnWay_of_parent? hparent).resolve_left hchars
  obtain ⟨front, back, hsegments, hback, hfront⟩ := hway.follow_eq
  rw [hsegments] at hfollow
  obtain ⟨middle, hmiddle, -⟩ := follow_append hfollow (.inl hback)
  have hdirectory : fs.find q = .ok (.existing middle .directory true) := by
    rw [find_eq_ok_iff, hfront, Path.start, hway.isAbsolute_eq]
    exact ⟨hchars, hway.noNull hnull, hmiddle⟩
  rw [isDirectory, hdirectory]
  exact .inr rfl

theorem node?_of_find_free {isOpen : Bool} (hfind : fs.find p = .ok (.free location isOpen)) :
    fs.node? location = none ∧ location ∈ passedBy fs.workingDirectory p := by
  obtain ⟨-, -, hfollow⟩ := find_eq_ok_iff.1 hfind
  exact node?_of_follow_free hfollow

theorem placeOf_eq_ok_iff_exists {outcome : Except FileError Destination} :
    placeOf outcome = .ok location ↔
      ∃ destination, outcome = .ok destination ∧ placeOf (.ok destination) = .ok location := by
  cases outcome with
  | error e => exact iff_of_false nofun nofun
  | ok destination => simp

theorem node?_of_placeOf (hplace : placeOf (fs.find p) = .ok location) :
    fs.node? location ≠ some .directory := by
  obtain ⟨destination, hfind, hdestination⟩ := placeOf_eq_ok_iff_exists.1 hplace
  obtain ⟨-, -, hfollow⟩ := find_eq_ok_iff.1 hfind
  apply node?_of_placeOf_follow
  rw [hfollow, hdestination]

/-- A path still leads to the place where it led to a file or to nothing, if there is no directory
now and no directory on the way has gone. -/
theorem find_of_placeOf (hhome : other.workingDirectory = fs.workingDirectory)
    (hdirectories : ∀ location, fs.node? location = some .directory →
      other.node? location = some .directory)
    (hplace : placeOf (fs.find p) = .ok location) (hnode : other.node? location ≠ some .directory) :
    other.find p = .ok (other.landing location false) := by
  obtain ⟨destination, hfind, hdestination⟩ := placeOf_eq_ok_iff_exists.1 hplace
  obtain ⟨hchars, hnull, hfollow⟩ := find_eq_ok_iff.1 hfind
  rw [find_eq_ok_iff, hhome]
  refine ⟨hchars, hnull, follow_of_placeOf hdirectories ?_ hnode⟩
  rw [hfollow, hdestination]

end FileSystem

end TelemetryCharts
