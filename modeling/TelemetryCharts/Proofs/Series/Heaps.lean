import Mathlib.Data.List.Basic
import TelemetryCharts.Series.Merge

/-!
# Heaps of lists

Sifting only exchanges lists, and it brings order where one list alone stands too far up. So the first
list of a heap begins with the least of all first elements, and once this element has been taken, a
heap of what is left can be made out of the rest.
-/

namespace TelemetryCharts.Heap

/-- The first element of the list at a position. -/
def first (heap : Heap) (i : Nat) : Nat :=
  (heap.list i).headD 0

/-- Says that a position is right below another one. -/
abbrev IsChild (child parent : Nat) : Prop :=
  child = 2 * parent + 1 ∨ child = 2 * parent + 2

/-- Says that no list at a position from `low` on begins with a greater element than the lists below
it. -/
def OrderedFrom (low : Nat) (heap : Heap) : Prop :=
  ∀ parent child, low ≤ parent → IsChild child parent → child < heap.length →
    heap.first parent ≤ heap.first child

/-- Says that nothing is out of order from `low` on but a list at one position, which may have to sink.
The lists below this position could stand in its place. -/
structure Sinks (low hole : Nat) (heap : Heap) : Prop where
  elsewhere : ∀ parent child, low ≤ parent → parent ≠ hole → IsChild child parent →
    child < heap.length → heap.first parent ≤ heap.first child
  above : ∀ parent child, low ≤ parent → IsChild hole parent → IsChild child hole →
    child < heap.length → heap.first parent ≤ heap.first child

/-- Says that a heap holds no empty list and that all of it is in order. -/
structure Valid (heap : Heap) : Prop where
  nonempty : [] ∉ heap
  ordered : OrderedFrom 0 heap

section
variable {heap : Heap} {i j : Nat}

theorem list_eq (h : i < heap.length) : heap.list i = heap[i] := by
  simp [list, h]

/-- Where no list is empty, lists are compared by their first elements. -/
theorem isBelow_iff (hne : [] ∉ heap) (hi : i < heap.length) (hj : j < heap.length) :
    heap.isBelow i j = true ↔ heap.first i < heap.first j := by
  have hlists : heap.list i ≠ [] ∧ heap.list j ≠ [] := by
    rw [list_eq hi, list_eq hj]
    exact ⟨fun h => hne (h ▸ List.getElem_mem hi), fun h => hne (h ▸ List.getElem_mem hj)⟩
  obtain ⟨x, xs, hx⟩ := List.exists_cons_of_ne_nil hlists.1
  obtain ⟨y, ys, hy⟩ := List.exists_cons_of_ne_nil hlists.2
  simp [isBelow, first, hx, hy]

@[simp] theorem length_exchange (heap : Heap) (i j : Nat) :
    (heap.exchange i j).length = heap.length := by
  simp [exchange]

theorem exchange_perm (hi : i < heap.length) (hj : j < heap.length) :
    (heap.exchange i j).Perm heap := by
  rw [exchange, list_eq hi, list_eq hj]
  exact List.set_set_perm hi hj

theorem first_exchange (hi : i < heap.length) (hj : j < heap.length) (k : Nat) :
    (heap.exchange i j).first k =
      if k = j then heap.first i else if k = i then heap.first j else heap.first k := by
  have hlist : (heap.exchange i j).list k =
      if k = j then heap.list i else if k = i then heap.list j else heap.list k := by
    simp only [list, exchange, List.getD_eq_getElem?_getD, List.getElem?_set, List.length_set, hi, hj,
      if_true]
    by_cases hkj : k = j
    · simp [hkj]
    · by_cases hki : k = i
      · subst hki
        simp [hkj, Ne.symm hkj]
      · simp [hki, hkj, Ne.symm hki, Ne.symm hkj]
  rw [first, hlist]
  split_ifs <;> rfl

end

section
variable {heap : Heap} {low hole c : Nat}

/-- A list that is not greater than those below it does not have to sink. -/
theorem Sinks.ordered (h : Sinks low hole heap)
    (hstop : ∀ child, IsChild child hole → child < heap.length → heap.first hole ≤ heap.first child) :
    OrderedFrom low heap := by
  intro parent child hlow hchild hlength
  by_cases hparent : parent = hole
  · subst hparent
    exact hstop child hchild hlength
  · exact h.elsewhere parent child hlow hparent hchild hlength

/-- A list that sinks is exchanged for the least of those below it. -/
theorem Sinks.exchange (h : Sinks low hole heap) (hchild : IsChild c hole) (hc : c < heap.length)
    (hless : heap.first c < heap.first hole)
    (hleast : ∀ child, IsChild child hole → child < heap.length → heap.first c ≤ heap.first child) :
    Sinks low c (heap.exchange hole c) := by
  have hhole : hole < heap.length := by omega
  constructor
  · intro parent child hlow hparent hbelow hlength
    rw [length_exchange] at hlength
    rw [first_exchange hhole hc, first_exchange hhole hc, if_neg hparent]
    by_cases hup : parent = hole
    · -- What has come up is the least of the lists below.
      subst hup
      rw [if_pos rfl]
      by_cases hsame : child = c
      · rw [if_pos hsame]
        exact Nat.le_of_lt hless
      · rw [if_neg hsame, if_neg (by omega)]
        exact hleast child hbelow hlength
    · rw [if_neg hup, if_neg (by omega)]
      by_cases hnext : child = hole
      · subst hnext
        rw [if_pos rfl]
        exact h.above parent c hlow hbelow hchild hc
      · rw [if_neg hnext]
        exact h.elsewhere parent child hlow hup hbelow hlength
  · intro parent child hlow hparent hbelow hlength
    rw [length_exchange] at hlength
    obtain rfl : parent = hole := by omega
    rw [first_exchange hhole hc, first_exchange hhole hc, if_neg (by omega), if_pos rfl,
      if_neg (by omega), if_neg (by omega)]
    exact h.elsewhere c child (by omega) (by omega) hbelow hlength

/-- Where a list with two lists below it has to go if it sinks: to the lesser of the two, or to the
left. -/
def lesserChild (heap : Heap) (i : Nat) : Nat :=
  if heap.isBelow (2 * i + 2) (2 * i + 1) then 2 * i + 2 else 2 * i + 1

theorem isChild_lesserChild (heap : Heap) (i : Nat) : IsChild (heap.lesserChild i) i := by
  unfold lesserChild
  split
  · exact .inr rfl
  · exact .inl rfl

theorem first_lesserChild_le (hne : [] ∉ heap) (hright : 2 * hole + 2 < heap.length) {child : Nat}
    (hchild : IsChild child hole) : heap.first (heap.lesserChild hole) ≤ heap.first child := by
  have hbelow := isBelow_iff hne hright (Nat.lt_of_succ_lt hright)
  unfold lesserChild
  split_ifs with h
  · rw [hbelow] at h
    rcases hchild with rfl | rfl <;> omega
  · rw [hbelow] at h
    rcases hchild with rfl | rfl <;> omega

theorem siftDown_succ (steps i : Nat) (heap : Heap) :
    siftDown (steps + 1) i heap =
      if 2 * i + 2 < heap.length then
        if heap.isBelow (heap.lesserChild i) i then
          siftDown steps (heap.lesserChild i) (heap.exchange i (heap.lesserChild i))
        else heap
      else if 2 * i + 1 < heap.length && heap.isBelow (2 * i + 1) i then heap.exchange i (2 * i + 1)
      else heap :=
  rfl

theorem siftDown_perm (steps i : Nat) (heap : Heap) : (siftDown steps i heap).Perm heap := by
  induction steps generalizing i heap with
  | zero => exact .refl heap
  | succ steps ih =>
    have hchild := isChild_lesserChild heap i
    rw [siftDown_succ]
    split_ifs with hright hsinks hleft
    · exact (ih _ _).trans (exchange_perm (by omega) (by omega))
    · exact .refl heap
    · rw [Bool.and_eq_true, decide_eq_true_eq] at hleft
      exact exchange_perm (by omega) hleft.1
    · exact .refl heap

/-- Sifting a list down takes it as far down as it has to sink, if there are enough steps. -/
theorem Sinks.siftDown {steps : Nat} (h : Sinks low hole heap) (hne : [] ∉ heap)
    (hsteps : heap.length ≤ hole + steps) : OrderedFrom low (siftDown steps hole heap) := by
  induction steps generalizing hole heap with
  | zero => exact h.ordered fun child hchild hlength => by omega
  | succ steps ih =>
    have hchild := isChild_lesserChild heap hole
    rw [siftDown_succ]
    split_ifs with hright hsinks hleft
    · rw [isBelow_iff hne (by omega) (by omega)] at hsinks
      refine ih (h.exchange hchild (by omega) hsinks fun child hbelow _ => ?_) ?_ ?_
      · exact first_lesserChild_le hne hright hbelow
      · rwa [(exchange_perm (by omega) (by omega)).mem_iff]
      · rw [length_exchange]
        omega
    · rw [isBelow_iff hne (by omega) (by omega), Nat.not_lt] at hsinks
      exact h.ordered fun child hbelow _ =>
        Nat.le_trans hsinks (first_lesserChild_le hne hright hbelow)
    · -- The only list below is the last one of the heap, so there is nothing below it.
      rw [Bool.and_eq_true, decide_eq_true_eq] at hleft
      obtain ⟨hlength, hsinks⟩ := hleft
      rw [isBelow_iff hne hlength (by omega)] at hsinks
      refine (h.exchange (.inl rfl) hlength hsinks ?_).ordered fun child hbelow hinside => ?_
      · rintro child (rfl | rfl) hinside
        · exact Nat.le_refl _
        · omega
      · rw [length_exchange] at hinside
        omega
    · refine h.ordered ?_
      rintro child (rfl | rfl) hlength
      · rw [Bool.and_eq_true, decide_eq_true_eq, isBelow_iff hne hlength (by omega)] at hleft
        omega
      · omega

end

section
variable {heap rest : Heap} {low n x : Nat} {l xs : List Nat}

/-- A list put in front of lists that are in order may have to sink. -/
theorem OrderedFrom.sinks_cons (h : OrderedFrom 0 (l :: rest)) (l' : List Nat) :
    Sinks 0 0 (l' :: rest) := by
  constructor
  · intro parent child _ hparent hchild hlength
    have hfirst : ∀ i, i ≠ 0 → first (l' :: rest) i = first (l :: rest) i := by
      intro i hi
      cases i with
      | zero => exact absurd rfl hi
      | succ i => rfl
    rw [hfirst parent hparent, hfirst child (by omega)]
    exact h parent child (Nat.zero_le _) hchild hlength
  · intro parent child _ hparent
    omega

/-- The last list can be taken away. -/
theorem OrderedFrom.dropLast (h : OrderedFrom low heap) : OrderedFrom low heap.dropLast := by
  intro parent child hlow hchild hlength
  rw [List.length_dropLast] at hlength
  have hfirst : ∀ i < heap.length - 1, first heap.dropLast i = heap.first i := by
    intro i hi
    simp only [first, list, List.getD_eq_getElem?_getD, List.getElem?_dropLast, if_pos hi]
  rw [hfirst parent (by omega), hfirst child hlength]
  exact h parent child hlow hchild (by omega)

/-- No list of a heap begins with a lesser element than the first one. -/
theorem OrderedFrom.first_le (h : OrderedFrom 0 heap) {i : Nat} (hi : i < heap.length) :
    heap.first 0 ≤ heap.first i := by
  induction i using Nat.strongRecOn with
  | ind i ih =>
    by_cases hzero : i = 0
    · subst hzero
      exact Nat.le_refl _
    · exact Nat.le_trans (ih ((i - 1) / 2) (by omega) (by omega))
        (h ((i - 1) / 2) i (Nat.zero_le _) (by omega) hi)

theorem settle_perm (heap : Heap) : (settle heap).Perm heap :=
  siftDown_perm _ _ _

/-- Settling a list that may have to sink makes a heap. -/
theorem Sinks.valid_settle (h : Sinks 0 0 heap) (hne : [] ∉ heap) : Valid (settle heap) where
  nonempty := by rwa [(settle_perm heap).mem_iff]
  ordered := h.siftDown hne (Nat.le_add_left _ _)

theorem settleFirst_perm (n : Nat) (heap : Heap) : (settleFirst n heap).Perm heap := by
  induction n generalizing heap with
  | zero => exact .refl heap
  | succ n ih => exact (ih _).trans (siftDown_perm _ _ _)

/-- Lists in order from some position on are brought into order by settling those before it. -/
theorem OrderedFrom.valid_settleFirst (h : OrderedFrom n heap) (hne : [] ∉ heap) :
    Valid (settleFirst n heap) := by
  induction n generalizing heap with
  | zero => exact ⟨hne, h⟩
  | succ n ih =>
    have hsinks : Sinks n n heap := by
      constructor
      · intro parent child hlow hparent
        exact h parent child (by omega)
      · intro parent child hlow hparent
        omega
    refine ih (hsinks.siftDown hne (Nat.le_add_left _ _)) ?_
    rwa [(siftDown_perm _ _ _).mem_iff]

theorem ofLists_perm (lists : List (List Nat)) : (ofLists lists).Perm (lists.filter (· ≠ [])) :=
  settleFirst_perm _ _

theorem valid_ofLists (lists : List (List Nat)) : Valid (ofLists lists) := by
  refine OrderedFrom.valid_settleFirst ?_ (by simp)
  -- There is nothing below the second half.
  intro parent child hlow hchild hlength
  omega

theorem OrderedFrom.head_le (h : OrderedFrom 0 ((x :: xs) :: rest)) :
    ∀ l ∈ (x :: xs) :: rest, ∀ y ∈ l.head?, x ≤ y := by
  intro l hl y hy
  obtain ⟨i, hi, rfl⟩ := List.getElem_of_mem hl
  have hle := h.first_le hi
  rw [first, first, list_eq hi] at hle
  cases hlist : ((x :: xs) :: rest)[i] with
  | nil =>
    rw [hlist] at hy
    cases hy
  | cons z zs =>
    rw [hlist] at hy hle
    cases hy
    exact hle

/-- What is taken from a heap is the least of all first elements, and a heap of what is left remains. -/
theorem Valid.exists_pop? (h : Valid ((x :: xs) :: rest)) :
    ∃ remaining, pop? ((x :: xs) :: rest) = some (x, remaining) ∧ Valid remaining ∧
      remaining.Perm ((xs :: rest).filter (· ≠ [])) ∧
      ∀ l ∈ (x :: xs) :: rest, ∀ y ∈ l.head?, x ≤ y := by
  obtain ⟨hnonempty, hordered⟩ := h
  have hrest : [] ∉ rest := fun hmem => hnonempty (List.mem_cons_of_mem _ hmem)
  have hfilter : rest.filter (· ≠ []) = rest := by
    rw [List.filter_eq_self]
    intro l hl
    exact decide_eq_true fun hnil => hrest (hnil ▸ hl)
  have hleast := hordered.head_le
  cases xs with
  | cons y ys =>
    refine ⟨settle ((y :: ys) :: rest), rfl, (hordered.sinks_cons _).valid_settle ?_, ?_, hleast⟩
    · simpa using hrest
    · rw [List.filter_cons_of_pos (by simp), hfilter]
      exact settle_perm _
  | nil =>
    rw [List.filter_cons_of_neg (by simp), hfilter]
    rcases List.eq_nil_or_concat' rest with rfl | ⟨front, last, rfl⟩
    · exact ⟨[], rfl, ⟨List.not_mem_nil, fun _ _ _ _ hlength => absurd hlength (Nat.not_lt_zero _)⟩,
        .refl _, hleast⟩
    · have hpop : pop? ([x] :: (front ++ [last])) = some (x, settle (last :: front)) := by
        simp [pop?]
      have hfront : OrderedFrom 0 ([x] :: front) := by
        have hdrop := hordered.dropLast
        rwa [List.dropLast_cons_of_ne_nil (by simp), List.dropLast_concat] at hdrop
      refine ⟨_, hpop, (hfront.sinks_cons last).valid_settle ?_, ?_, hleast⟩
      · simpa [and_comm, eq_comm] using hrest
      · exact (settle_perm _).trans (List.perm_append_singleton last front).symm

end

end TelemetryCharts.Heap
