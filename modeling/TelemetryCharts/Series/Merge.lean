/-!
# Merging lists

Lists are merged by taking the least of their first elements again and again, whether they are
sorted or not. The lists that are not used up stand in a binary heap, which also settles from which
of several lists an element is taken when they begin with the same one.
-/

namespace TelemetryCharts

/-- Lists that are not empty. The two below position `i` stand at `2 * i + 1` and `2 * i + 2`, and
neither begins with a lesser element than the one above them. -/
abbrev Heap := List (List Nat)

namespace Heap

/-- The list at a position. -/
def list (heap : Heap) (i : Nat) : List Nat :=
  heap.getD i []

/-- Says whether the list at one position begins with a lesser element than that at another. -/
def isBelow (heap : Heap) (i j : Nat) : Bool :=
  match heap.list i, heap.list j with
  | x :: _, y :: _ => x < y
  | _, _ => false

/-- The heap with the lists at two positions exchanged. -/
def exchange (heap : Heap) (i j : Nat) : Heap :=
  (heap.set i (heap.list j)).set j (heap.list i)

/-- Moves the list at a position down for as long as one below it begins with a lesser element. It
goes towards the lesser of the two below, or to the left where they are equal. -/
def siftDown : Nat → Nat → Heap → Heap
  | 0, _, heap => heap
  | steps + 1, i, heap =>
    let left := 2 * i + 1
    let right := left + 1
    if right < heap.length then
      let child := if heap.isBelow right left then right else left
      if heap.isBelow child i then siftDown steps child (heap.exchange i child) else heap
    else if left < heap.length && heap.isBelow left i then heap.exchange i left
    else heap

/-- Brings the first list to its place. -/
def settle (heap : Heap) : Heap :=
  siftDown heap.length 0 heap

/-- Brings the lists at the first `n` positions to their places, the last one first. -/
def settleFirst : Nat → Heap → Heap
  | 0, heap => heap
  | n + 1, heap => settleFirst n (siftDown heap.length n heap)

/-- The heap of those among some lists that are not empty. -/
def ofLists (lists : List (List Nat)) : Heap :=
  let heap := lists.filter (· ≠ [])
  settleFirst (heap.length / 2) heap

/-- The least element, and the heap without it. The last list takes the place of one that is used
up. -/
def pop? : Heap → Option (Nat × Heap)
  | (x :: []) :: rest =>
    some (x, match rest.getLast? with
      | some last => settle (last :: rest.dropLast)
      | none => [])
  | (x :: xs) :: rest => some (x, settle (xs :: rest))
  | _ => none

/-- Up to `count` elements, the least one first. -/
def drain : Nat → Heap → List Nat
  | 0, _ => []
  | count + 1, heap =>
    match heap.pop? with
    | some (x, rest) => x :: drain count rest
    | none => []

end Heap

/-- All elements of lists, where each one taken is the least of the first elements that are left. -/
def mergeHeads (lists : List (List Nat)) : List Nat :=
  (Heap.ofLists lists).drain lists.flatten.length

end TelemetryCharts
