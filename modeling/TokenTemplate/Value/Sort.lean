import TokenTemplate.Value.Fault

/-!
# Sorting

Sorting by a comparison that may fail, and that need not be an order: a row of undefined numbers or of sets
is sorted too, and then the result depends on which items are compared. So that is settled here,
`TokenTemplate.sortBy`. The row begins with a run, which is either ascending or strictly descending and is
turned round then; each item after it is put into the part that is sorted by then, at a place that is
found by halving. Where there is an order, equal items keep theirs.
-/

namespace TokenTemplate

section

variable {α : Type} (below : α → α → Except Fault Bool)

/-- The items of a row up to the first one that does not fit to the one before it, as `fits` says of both;
they come last first, after those in `run`. -/
def runWhile (fits : α → α → Except Fault Bool) (run : List α) : α → List α →
    Except Fault (List α × List α)
  | last, [] => .ok (last :: run, [])
  | last, x :: xs => do
    if ← fits last x then runWhile fits (last :: run) x xs else return (last :: run, x :: xs)

/-- The run that a row begins with, in ascending order, and the rest. -/
def firstRun : List α → Except Fault (List α × List α)
  | [] => .ok ([], [])
  | [x] => .ok ([x], [])
  | x :: y :: rest => do
    if ← below y x then runWhile (fun last z => below z last) [x] y rest
    else do
      let (run, rest) ← runWhile (fun last z => return !(← below z last)) [x] y rest
      return (run.reverse, rest)

/-- The place of an item in a sorted row, between two given ones; `fuel` halvings are enough. -/
def placeOf (row : Array α) (x : α) : (fuel : Nat) → (low high : Nat) → Except Fault Nat
  | 0, low, _ => .ok low
  | fuel + 1, low, high =>
    if high ≤ low then .ok low
    else
      let middle := low + (high - low) / 2
      match row[middle]? with
      | none => .ok low
      | some y => do
        if ← below x y then placeOf row x fuel low middle else placeOf row x fuel (middle + 1) high

/-- A sorted row with one more item, after those that it is not below. -/
def insertInto (row : Array α) (x : α) : Except Fault (Array α) := do
  let i ← placeOf below row x (row.size + 1) 0 row.size
  return row.insertIdxIfInBounds i x

/-- **The items of a row in ascending order.** -/
def sortBy (xs : List α) : Except Fault (List α) := do
  let (run, rest) ← firstRun below xs
  return (← rest.foldlM (insertInto below) run.toArray).toList

end

end TokenTemplate
