import TokenTemplate.Evaluation.Evaluator
import TokenTemplate.Value.Filling

/-!
# Operators on views

The keys and the items of a dictionary can be used like sets: `TokenTemplate.Evaluator.binary` is an
operator between two values of which one may be such a view. The result is a set. The other operand can be
anything that has items.

A text to the left of the operator for remainders is filled with values.
-/

namespace TokenTemplate

/-- Whether a value is a view that is like a set. -/
def Store.isSetView (s : Store) (v : Value) : Bool :=
  match s.objectOf? v with
  | some (.view part _) => part != .values
  | _ => false

/-- A set without some values. -/
def withoutValues (s : Store) (vs : List Value) (table : SlotTable Value) :
    Except Fault (SlotTable Value) := do
  vs.forM s.needsKey
  return (table.filter (← keepAmong s false vs table.toList).contains).tidy

namespace Evaluator

variable (ev : Evaluator)

/-- A new set of the items of an operand. The keys of a dictionary are taken from it directly. -/
def setOfOperand (v : Value) : Action (SlotTable Value) := do
  match ← Action.look (·.objectOf? v) with
  | some (.view .keys dict) => ev.addAll .empty (.object dict)
  | _ => ev.addAll .empty v

/-- The items of one value that are in another one. -/
def itemsIn (items container : Value) : Action (SlotTable Value) := do
  let it ← Action.iterate items
  ev.loop (fun table item => do
    match item with
    | none => return .inr table
    | some v =>
      if ← ev.contains container v then return .inl (← Action.ofStore (·.addItem table v))
      else return .inl table) it loopLimit SlotTable.empty

/-- What a view and another value have in common. A set that is not smaller than the view stays the one
that is searched, and of two views the larger one does. -/
def commonWithView (view other : Value) : Action (SlotTable Value) := do
  let size := (← Action.look (·.length? view)).getD 0
  let otherSize := (← Action.look (·.length? other)).getD 0
  let isSet := (← Action.look (·.objectOf? other)) matches some (.set _)
  let isView ← Action.look (·.isSetView other)
  if (isSet && size ≤ otherSize) || (isView && size < otherSize) then ev.itemsIn view other
  else ev.itemsIn other view

/-- The items of one of two values that are not in the other one. -/
def itemsOfOne (v w : Value) : Action (SlotTable Value) := do
  match ← Action.look (·.objectOf? v), ← Action.look (·.objectOf? w) with
  | some (.view .items _), some (.view .items _) =>
    let others ← (← ev.itemsOf w).filterM fun x => (!·) <$> ev.contains v x
    let own ← (← ev.itemsOf v).filterM fun x => (!·) <$> ev.contains w x
    Action.ofStore fun s => (others ++ own).foldlM s.addItem .empty
  | _, other =>
    let table ← ev.setOfOperand v
    let others ← match other with
      | some (.set table) => pure table.toList
      | some (.dict entries) => pure (entries.map (·.1))
      | _ => (·.toList) <$> ev.addAll .empty w
    Action.ofStore (exchange · others table)

/-- An operator between two values, of which one is a view that is like a set. -/
def viewOp (op : Payload.BinaryOp) (v w : Value) : Action (SlotTable Value) := do
  match op with
  | .and =>
    if ← Action.look (·.isSetView v) then ev.commonWithView v w else ev.commonWithView w v
  | .or => ev.addAll (← ev.setOfOperand v) w
  | .sub =>
    let table ← ev.setOfOperand v
    let others ← ev.itemsOf w
    Action.ofStore (withoutValues · others table)
  | .xor => ev.itemsOfOne v w
  | _ => Action.failWith .type

/-- **An operator between two values.** -/
def binary (op : Payload.BinaryOp) (v w : Value) : Action Value := do
  match op, v with
  | .mod, .text t _ => Action.made (.ofText (← Action.ofStore (·.fill t w)))
  | op, v =>
    let hasView ← Action.look fun s => s.isSetView v || s.isSetView w
    if hasView then Action.new (.set (← ev.viewOp op v w)) else Action.make (·.binary op v w)

end Evaluator

end TokenTemplate
