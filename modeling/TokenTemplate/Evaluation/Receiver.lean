import TokenTemplate.Evaluation.Evaluator

/-!
# Writing to receivers

How values become items of a receiver, `TokenTemplate.Evaluator.write`. Nothing is written for the absent
value; a receiver, and a sequence of receivers, is copied; a value that can write itself does so; and
for any other value its text is written.
-/

namespace TokenTemplate

namespace Evaluator

variable (ev : Evaluator)

/-- The receivers that the items of a sequence are, if it has items and all of them are receivers. -/
def receiversOf? (items : List Value) : Option (List Nat) :=
  if items.isEmpty then none
  else items.mapM fun v => match v with
    | .receiver id => some id
    | _ => none

/-- Writes the text of a value. -/
def writeTextOf (id : Nat) (v : Value) : Action Unit := do
  Action.writeText id (← Action.ofStore (·.textOf v))

/-- Writes an item: a mark for white space, or a text. -/
def writeItem (id : Nat) : Item → Action Unit
  | .space w => Action.writeSpace id w
  | .text s => Action.writeText id s

/-- **Writes a value to a receiver.** -/
def write (id : Nat) (v : Value) : Action Unit := do
  match v, ← Action.look (·.objectOf? v) with
  | .none, _ => return
  | .receiver source, _ => Action.copy id source
  | _, some (.writer items) => items.forM (writeItem id)
  | _, some (.record fields) =>
    match fields.lookup "into_tokens" with
    | some f => discard (ev.call f [.receiver id] [])
    | none => writeTextOf id v
  | _, some (.list _) | _, some (.tuple _) =>
    match receiversOf? (← Action.look (·.rowOf v)) with
    | some sources => sources.forM (Action.copy id)
    | none => writeTextOf id v
  | v, _ => writeTextOf id v

/-- Writes all items of a value, marks for white space as what they are. -/
def writeAll (id : Nat) (v : Value) : Action Unit := do
  let it ← Action.iterate v
  ev.loop (fun (_ : Unit) item =>
    match item with
    | none => return .inr ()
    | some (.space w) => do
      Action.writeSpace id w
      return .inl ()
    | some v => do
      ev.write id v
      return .inl ()) it loopLimit ()

/-- Writes a value on lines of its own, one level further in. -/
def writeNested (id : Nat) (v : Value) : Action Unit := do
  Action.writeSpace id .indent
  Action.writeSpace id .push
  ev.write id v
  Action.writeSpace id .unindent
  Action.writeSpace id .push

end Evaluator

/-- Whether a receiver holds no text. -/
def Store.isEmptyReceiver (s : Store) (id : Nat) : Bool :=
  !(s.items id).any Item.isText

end TokenTemplate
