import TokenTemplate.Value.Arithmetic
import TokenTemplate.Value.Shown

/-!
# Positions and slices

Positions count from zero, and negative ones from the end. A single position has to be there; a slice
takes what there is, `TokenTemplate.sliceIndices`.
-/

namespace TokenTemplate

/-- The position that a number stands for in a sequence of a length, if there is one. -/
def position? (length : Nat) (i : Int) : Option Nat :=
  let i := if i < 0 then i + length else i
  if 0 ≤ i ∧ i < length then some i.toNat else none

/-- An end of a slice, moved to the nearest place that a slice can end at. -/
def clampEnd (low high : Int) (length : Nat) (i : Int) : Int :=
  let i := if i < 0 then i + length else i
  max low (min high i)

/-- **The range that a slice takes from a sequence** of a length: its ends and its step. -/
def sliceRange (low high : Option Int) (step : Int) (length : Nat) : Int × Int × Int :=
  if 0 < step then
    ((low.map (clampEnd 0 length length)).getD 0, (high.map (clampEnd 0 length length)).getD length,
      step)
  else
    ((low.map (clampEnd (-1) (length - 1) length)).getD (length - 1),
      (high.map (clampEnd (-1) (length - 1) length)).getD (-1), step)

/-- The positions that a slice takes, in order. -/
def sliceIndices (low high : Option Int) (step : Int) (length : Nat) : List Nat :=
  let (start, stop, step) := sliceRange low high step length
  (List.range (rangeLength start stop step)).map fun i => (rangeElement start step i).toNat

/-- The items at some positions. -/
def pick {α : Type} (items : Array α) (positions : List Nat) : List α :=
  positions.filterMap (items[·]?)

/-- The number that an argument is, which has to be a whole one. -/
def wholeOf (v : Value) : Except Fault Int :=
  match v.whole? with
  | some n => .ok n
  | none => .error (.ofKind .type)

/-- An end or a step of a slice, if one is given. -/
def sliceBound? (v : Value) : Except Fault (Option Int) :=
  match v with
  | .none => .ok none
  | v =>
    match v.whole? with
    | some n => .ok (some n)
    | none => .error (.ofKind .type)

/-- The step of a slice, which is not zero. -/
def sliceStep (v : Value) : Except Fault Int := do
  match ← sliceBound? v with
  | none => return 1
  | some 0 => throw (.ofKind .value)
  | some n => return n

/-- Whether a value is a sequence, whose parts have positions. -/
def Store.isSequence (s : Store) (v : Value) : Bool :=
  match v with
  | .text .. => true
  | .range .. => true
  | v =>
    match s.objectOf? v with
    | some (.list _) | some (.tuple _) => true
    | _ => false

/-- The part of a value that a slice takes. -/
def Store.slice (s : Store) (v low high step : Value) : Except Fault Made := do
  if !s.isSequence v then throw (.ofKind .type)
  let step ← sliceStep step
  let low ← sliceBound? low
  let high ← sliceBound? high
  match v with
  | .text t _ =>
    let cs := t.toList.toArray
    let kept := pick cs (sliceIndices low high step cs.size)
    return .value (if step = 1 ∧ kept.length = cs.size then v else .ofText (String.ofList kept))
  | .range start stop unit _ =>
    let (first, last, step) := sliceRange low high step (rangeLength start stop unit)
    return .value (.ofRange (start + first * unit) (start + last * unit) (step * unit))
  | v =>
    match s.objectOf? v with
    | some (.list items) =>
      return .object (.list (pick items (sliceIndices low high step items.size)).toArray)
    | some (.tuple items) =>
      let kept := pick items.toArray (sliceIndices low high step items.length)
      return if step = 1 ∧ kept.length = items.length then .value v else .object (.tuple kept)
    | _ => throw (.ofKind .type)

/-- What a position that is not there is called. -/
def Store.positionError (s : Store) (v : Value) (i : Int) : Fault :=
  let outside (what : String) : Fault := .explained .index (what ++ " index out of range")
  let stored (what : String) : Fault :=
    if isPosition i then outside what
    else .explained .index "cannot fit 'int' into an index-sized integer"
  match v with
  | .text .. => stored "string"
  | .range .. => outside "range object"
  | v =>
    match s.objectOf? v with
    | some (.tuple _) => stored "tuple"
    | _ => stored "list"

/-- A missing key, put into words. -/
def Store.keyError (s : Store) (key : Value) : Except Fault Fault := do
  return .explained .key (← s.shown key)

end TokenTemplate
