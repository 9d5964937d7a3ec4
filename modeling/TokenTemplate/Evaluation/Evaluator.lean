import TokenTemplate.Value.Action
import TokenTemplate.Value.TextMethod

/-!
# Evaluators

Payloads call functions, functions evaluate payloads, iterators do both, and a payload can render a
whole template. All of this comes back to four activities, and a `TokenTemplate.Evaluator` holds one of
each: the rules for one level of a computation are written in terms of an evaluator for the levels
below. So no rule is recursive by itself, and what is said of one rule is said for every evaluator.

Here is what the rules share: how names are looked up and bound, and how the items of a value are gone
through.
-/

namespace TokenTemplate

/-- What the levels below can do. -/
structure Evaluator where
  /-- Evaluates an expression. -/
  eval : Scope → Payload.Expr → Action Value
  /-- Calls a value with arguments by position and by name. -/
  call : Value → List Value → Bindings → Action Value
  /-- Gets the next item of an iterator. -/
  next : Nat → Action (Option Value)
  /-- Runs a template on a receiver. -/
  populate : Template → Nat → Bindings → Action Unit

/-- How many items a loop goes through before it is given up. -/
def loopLimit : Nat :=
  10000000

/-- What an operation made, as a value. -/
def Made.toAction : Made → Action Value
  | .value v => Action.made v
  | .texts parts => do
    let texts ← parts.mapM fun p => Action.text (String.ofList p)
    Action.new (.list texts.toArray)
  | .object o => Action.new o

/-- What an operation on the store makes, as a value. -/
def Action.make (f : Store → Except Fault Made) : Action Value := do
  (← Action.ofStore f).toAction

/-! ### Names -/

namespace Scope

/-- The names of a frame. -/
def frameNames (s : Store) (frame : Nat) : List (String × Option Value) :=
  match s.object? frame with
  | some (.frame names) => names
  | _ => []

/-- The name of all that has a name although nothing binds it. Where it is bound itself, to a
dictionary of other names, these take over. -/
def standardName : String :=
  "__builtins__"

/-- A name among those that every payload has, where `standard` is bound to all of them. -/
def lookupStandard (s : Store) (standard : Option Value) (n : String) : Except Fault (Option Value) :=
  match standard with
  | none | some (.single .standard) =>
    .ok (if n = standardName then some (.single .standard) else Value.ofName? n)
  | some v =>
    match v, s.objectOf? v with
    | .object id, some (.dict _) => s.lookup? id (.ofText n)
    | _, _ => .error (.ofKind .type)

/-- A name among the bindings of the payload, or else among those that every payload has. -/
def lookupGlobal (s : Store) (globals : Nat) (n : String) : Except Fault Value := do
  let names := frameNames s globals
  let found ← match (names.lookup n).join with
    | some v => .ok (some v)
    | none => lookupStandard s (names.lookup standardName).join n
  match found with
  | some v => return v
  | none => throw (.explained .name ("name '" ++ n ++ "' is not defined"))

/-- A name in the frames around a scope. -/
def lookupOuter (s : Store) (globals : Nat) (n : String) : List ScopeLevel → Except Fault Value
  | [] => lookupGlobal s globals n
  | l :: ls =>
    match (frameNames s l.frame).lookup n with
    | some (some v) => .ok v
    | some none => .error (.explained .name ("cannot access free variable '" ++ n ++
        "' where it is not associated with a value in enclosing scope"))
    | none => lookupOuter s globals n ls

/-- **The value of a name**: in the innermost frame that has it, or among the bindings of the payload. A
frame hides the ones around it even where it has no value for the name yet. -/
def lookup (sc : Scope) (n : String) (s : Store) : Except Fault Value :=
  if n = Payload.fixedName then .ok (.bool true)
  else match sc.levels with
  | [] => lookupGlobal s sc.globals n
  | l :: ls =>
    match (frameNames s l.frame).lookup n with
    | some (some v) => .ok v
    | some none => .error (.ofKind .unboundLocal)
    | none => lookupOuter s sc.globals n ls

/-- Names with a value for one of them. -/
def setName (n : String) (v : Value) : List (String × Option Value) → List (String × Option Value)
  | [] => [(n, some v)]
  | (m, w) :: rest => if m = n then (n, some v) :: rest else (m, w) :: setName n v rest

/-- Names with no value for one of them. -/
def clearName (n : String) (names : List (String × Option Value)) : List (String × Option Value) :=
  names.map fun p => if p.1 = n then (n, none) else p

/-- Binds a name in a frame. -/
def bindIn (frame : Nat) (n : String) (v : Value) : Action Unit := do
  let names ← Action.look fun s => frameNames s frame
  Action.setObject frame (.frame (setName n v names))

/-- Binds a name in the innermost frame. -/
def bindHere (sc : Scope) (n : String) (v : Value) : Action Unit :=
  match sc.levels with
  | l :: _ => bindIn l.frame n v
  | [] => bindIn sc.globals n v

/-- Takes away the value of a name in the innermost frame. -/
def unbindHere (sc : Scope) (n : String) : Action Unit := do
  let frame := (sc.levels.head?.map (·.frame)).getD sc.globals
  let _ ← Action.ofStore (sc.lookup n)
  let names ← Action.look fun s => frameNames s frame
  Action.setObject frame (.frame (clearName n names))

/-- A new dictionary of the names of the innermost frame that have a value. -/
def locals (sc : Scope) : Action Value := do
  let names ← Action.look fun s =>
    match sc.levels with
    | l :: _ => frameNames s l.frame
    | [] => (standardName, some (.single .standard)) :: frameNames s sc.globals
  Action.new (.dict (names.filterMap fun p => p.2.map fun v => (.ofText p.1, v)))

/-- Binds a name by an assignment, which looks past comprehensions. -/
def assign (sc : Scope) (n : String) (v : Value) : Action Unit :=
  match sc.levels.find? (!·.comprehension) with
  | some l => bindIn l.frame n v
  | none => bindIn sc.globals n v

/-- A scope inside another one, with names of its own that are not bound yet. -/
def enter (sc : Scope) (own : List String) (comprehension : Bool) : Action Scope := do
  let frame ← Action.allocate (.frame (own.map fun n => (n, none)))
  return { sc with levels := ⟨frame, comprehension⟩ :: sc.levels }

/-- The scope of a payload with given bindings. -/
def ofBindings (b : Bindings) : Action Scope := do
  let globals ← Action.allocate (.frame (b.map fun p => (p.1, some p.2)))
  return ⟨[], globals⟩

end Scope

/-! ### Items -/

/-- What gives the items of a value, if it has items. -/
def Store.iteration? (s : Store) (v : Value) : Option (Nat ⊕ Iteration) :=
  match v with
  | .range .. | .receiver _ => some (.inr (.forward v 0))
  | .text t _ =>
    some (.inr (.row (.other (if t.toList.all (·.toNat < 128) then "str_ascii_iterator"
      else "str_iterator")) (t.toList.map fun c => .ofText (String.singleton c))))
  | .object id =>
    match s.object? id with
    | some (.tuple items) => some (.inr (.row (.other "tuple_iterator") items))
    | some (.set table) => some (.inr (.row (.other "set_iterator") table.toList))
    | some (.list _) => some (.inr (.forward v 0))
    | some (.dict entries) => some (.inr (.entries .keys id 0 entries.length))
    | some (.view part dict) => some (.inr (.entries part dict 0 (s.entries dict).length))
    | some (.iterator _) => some (.inl id)
    | _ => none
  | _ => none

/-- An iterator for the items of a value. -/
def Action.iterate (v : Value) : Action Nat := do
  match ← Action.look (·.iteration? v) with
  | some (.inl id) => return id
  | some (.inr i) => Action.allocate (.iterator i)
  | none => Action.failWith .type

namespace Evaluator

variable (ev : Evaluator)

/-- Goes through items until a step ends the loop. -/
def loop {σ α : Type} (step : σ → Option Value → Action (σ ⊕ α)) (id : Nat) :
    (fuel : Nat) → σ → Action α
  | 0, _ => Action.fail .exhausted
  | fuel + 1, x => do
    match ← step x (← ev.next id) with
    | .inl y => loop step id fuel y
    | .inr a => return a

/-- All items of an iterator. -/
def collect (id : Nat) : Action (List Value) :=
  ev.loop (fun (row : List Value) item =>
    match item with
    | some v => return .inl (v :: row)
    | none => return .inr row.reverse) id loopLimit []

/-- Fails if a value has so many parts that there is no room for them. -/
def needRoom (v : Value) : Action Unit := do
  let n := (← Action.look (·.length? v)).getD 0
  if lengthLimit ≤ n then Action.failWith .overflow
  else if storageLimit ≤ n then Action.failWith .memory

/-- All items of a value. -/
def itemsOf (v : Value) : Action (List Value) := do
  needRoom v
  ev.collect (← Action.iterate v)

/-- A table with all items of a value too. Room for those of a set or a dictionary is made at once. -/
def addAll (table : SlotTable Value) (v : Value) : Action (SlotTable Value) := do
  match ← Action.look (·.objectOf? v) with
  | some (.set more) => Action.ofStore (mergeSets · table more)
  | some (.dict entries) =>
    Action.ofStore fun s => (entries.map (·.1)).foldlM s.addItem (table.reserve entries.length)
  | _ =>
    ev.loop (fun table item =>
      match item with
      | none => return .inr table
      | some v => do return .inl (← Action.ofStore (·.addItem table v))) (← Action.iterate v) loopLimit
      table

/-- Repeats a step until it gives something. -/
def untilDone {α : Type} (step : Action (Option α)) : (fuel : Nat) → Action α
  | 0 => Action.fail .exhausted
  | fuel + 1 => do
    match ← step with
    | some a => return a
    | none => untilDone step fuel

/-- Whether a value is among the items of an iterator; it is left after the item that was found. -/
def isAmongNext (v : Value) (id : Nat) : Action Bool :=
  ev.loop (fun (_ : Unit) item =>
    match item with
    | some w => do
      if ← Action.ofStore (·.sameOrEqual w v) then return .inr true else return .inl ()
    | none => return .inr false) id loopLimit ()

/-- **Whether a value is in another one.** -/
def contains (container v : Value) : Action Bool := do
  match container, ← Action.look (·.objectOf? container) with
  | .text t _, _ =>
    let sub ← Action.ofExcept (charsOf v)
    return (Text.indexOf? sub t.toList).isSome
  | .range start stop step _, _ =>
    match v.whole? with
    | some n => return inRange start stop step n
    | none => ev.isAmongNext v (← Action.iterate container)
  | .object id, some (.dict _) => return (← Action.ofStore (·.lookup? id v)).isSome
  | _, some (.view .keys dict) => return (← Action.ofStore (·.lookup? dict v)).isSome
  | _, some (.view .items dict) =>
    match ← Action.look (·.objectOf? v) with
    | some (.tuple [key, w]) =>
      match ← Action.ofStore (·.lookup? dict key) with
      | some u => Action.ofStore (·.sameOrEqual u w)
      | none => return false
    | _ => return false
  | _, some (.set table) =>
    Action.ofStore fun s =>
      match s.objectOf? v with
      | some (.set _) => .ok false
      | _ => do
        s.needsKey v
        Store.isAmong s.sameOrEqual v table.toList
  | container, _ => ev.isAmongNext v (← Action.iterate container)

end Evaluator

end TokenTemplate
