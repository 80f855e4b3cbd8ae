import Mathlib.Data.List.Forall2

/-!
# Reading lists item by item

A list is read by reading each of its items, and it cannot be read if one of them cannot. The items
that are read stand where the items stood from which they were read.
-/

namespace TelemetryCharts

section
variable {α β : Type} {l : List α} {f : α → Option β}

theorem mapM_eq_some_map {g : α → β} (h : ∀ x ∈ l, f x = some (g x)) : l.mapM f = some (l.map g) := by
  induction l with
  | nil => rfl
  | cons x l ih =>
    rw [List.mapM_cons, h x (by simp), ih fun y hy => h y (List.mem_cons_of_mem _ hy)]
    rfl

theorem mapM_eq_none_of_mem {x : α} (hx : x ∈ l) (h : f x = none) : l.mapM f = none := by
  induction l with
  | nil => cases hx
  | cons y l ih =>
    rw [List.mapM_cons]
    rcases List.mem_cons.1 hx with rfl | hx
    · rw [h]
      rfl
    · rw [ih hx]
      cases f y <;> rfl

theorem mapM_isSome (h : ∀ x ∈ l, (f x).isSome = true) : (l.mapM f).isSome = true := by
  induction l with
  | nil => rfl
  | cons x l ih =>
    obtain ⟨y, hy⟩ := Option.isSome_iff_exists.1 (h x (by simp))
    obtain ⟨ys, hys⟩ := Option.isSome_iff_exists.1 (ih fun z hz => h z (List.mem_cons_of_mem _ hz))
    rw [List.mapM_cons, hy, hys]
    rfl

theorem mapM_congr {g : α → Option β} (h : ∀ x ∈ l, f x = g x) : l.mapM f = l.mapM g := by
  induction l with
  | nil => rfl
  | cons x l ih =>
    rw [List.mapM_cons, List.mapM_cons, h x (by simp), ih fun y hy => h y (List.mem_cons_of_mem _ hy)]

/-- If an item can be read exactly if it satisfies a condition, then a list can be read exactly if
all items satisfy it. -/
theorem mapM_eq_ite {g : α → β} {p : α → Bool} (h : ∀ x ∈ l, f x = if p x then some (g x) else none) :
    l.mapM f = if l.all p then some (l.map g) else none := by
  by_cases hall : l.all p = true
  · rw [if_pos hall]
    refine mapM_eq_some_map fun x hx => ?_
    rw [h x hx, if_pos (List.all_eq_true.1 hall x hx)]
  · rw [if_neg hall]
    obtain ⟨x, hx, hfails⟩ : ∃ x ∈ l, ¬ p x = true := by simpa using hall
    exact mapM_eq_none_of_mem hx (by rw [h x hx, if_neg hfails])

theorem mapM_cons_eq_some_iff {x : α} {ys : List β} :
    (x :: l).mapM f = some ys ↔ ∃ y zs, f x = some y ∧ l.mapM f = some zs ∧ y :: zs = ys := by
  simp [List.mapM_cons, Option.bind_eq_some_iff]

theorem length_of_mapM_eq_some {ys : List β}
    (h : l.mapM f = some ys) : ys.length = l.length := by
  induction l generalizing ys with
  | nil =>
    cases h
    rfl
  | cons x l ih =>
    obtain ⟨y, zs, -, hzs, rfl⟩ := mapM_cons_eq_some_iff.1 h
    rw [List.length_cons, ih hzs, List.length_cons]

theorem exists_of_mem_of_mapM_eq_some {ys : List β} (h : l.mapM f = some ys) {y : β} (hy : y ∈ ys) :
    ∃ x ∈ l, f x = some y := by
  induction l generalizing ys with
  | nil =>
    cases h
    cases hy
  | cons x l ih =>
    obtain ⟨z, zs, hz, hzs, rfl⟩ := mapM_cons_eq_some_iff.1 h
    rcases List.mem_cons.1 hy with rfl | hy
    · exact ⟨x, by simp, hz⟩
    · obtain ⟨w, hw, hfw⟩ := ih hzs hy
      exact ⟨w, List.mem_cons_of_mem _ hw, hfw⟩

/-- Each item that is read comes from the item in its place. -/
theorem getElem?_of_mapM_eq_some {ys : List β} (h : l.mapM f = some ys) (i : Nat) :
    ys[i]? = l[i]?.bind f := by
  induction l generalizing ys i with
  | nil =>
    cases h
    rfl
  | cons x l ih =>
    obtain ⟨y, zs, hy, hzs, rfl⟩ := mapM_cons_eq_some_iff.1 h
    cases i with
    | zero => exact hy.symm
    | succ i => exact ih hzs i

theorem mapM_eq_some_iff_forall₂ {ys : List β} :
    l.mapM f = some ys ↔ List.Forall₂ (fun x y => f x = some y) l ys := by
  induction l generalizing ys with
  | nil =>
    rw [List.forall₂_nil_left_iff]
    exact ⟨fun h => (Option.some.inj h).symm, fun h => congrArg some h.symm⟩
  | cons x l ih =>
    rw [mapM_cons_eq_some_iff, List.forall₂_cons_left_iff]
    exact exists_congr fun y => exists_congr fun zs =>
      and_congr_right fun _ => and_congr ih eq_comm

/-- What is done to each item that is read may be done while it is read. -/
theorem mapM_map_eq_some {γ : Type} {g : β → γ} {ys : List β} (h : l.mapM f = some ys) :
    l.mapM (fun x => (f x).map g) = some (ys.map g) := by
  induction l generalizing ys with
  | nil =>
    cases h
    rfl
  | cons x l ih =>
    obtain ⟨y, zs, hy, hzs, rfl⟩ := mapM_cons_eq_some_iff.1 h
    rw [List.mapM_cons, hy, ih hzs]
    rfl

/-- If an aspect of what is read follows from an aspect of the item that it is read from, then items that
are alike are read alike. -/
theorem map_eq_of_mapM_eq_some {γ δ : Type} {view : α → γ} {aspect : β → δ}
    (hf : ∀ x x' y y', view x = view x' → f x = some y → f x' = some y' → aspect y = aspect y')
    {l' : List α} (hview : l.map view = l'.map view) {ys ys' : List β}
    (h : l.mapM f = some ys) (h' : l'.mapM f = some ys') : ys.map aspect = ys'.map aspect := by
  induction l generalizing l' ys ys' with
  | nil =>
    obtain rfl := List.map_eq_nil_iff.1 hview.symm
    cases h
    cases h'
    rfl
  | cons x l ih =>
    cases l' with
    | nil => cases hview
    | cons x' l' =>
      obtain ⟨hhead, htail⟩ := List.cons.inj hview
      obtain ⟨y, zs, hy, hzs, rfl⟩ := mapM_cons_eq_some_iff.1 h
      obtain ⟨y', zs', hy', hzs', rfl⟩ := mapM_cons_eq_some_iff.1 h'
      rw [List.map_cons, List.map_cons, hf x x' y y' hhead hy hy', ih htail hzs hzs']

end

theorem mapM_id_eq_some_iff {α : Type} {cells : List (Option α)} {values : List α} :
    cells.mapM id = some values ↔ cells = values.map some := by
  induction cells generalizing values with
  | nil => cases values <;> simp
  | cons cell cells ih =>
    cases values with
    | nil => simp [List.mapM_cons, Option.bind_eq_some_iff]
    | cons value values => simp [List.mapM_cons, Option.bind_eq_some_iff, ih]

end TelemetryCharts
