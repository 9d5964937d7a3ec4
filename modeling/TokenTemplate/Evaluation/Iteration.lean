import TokenTemplate.Evaluation.Evaluator

/-!
# Iterators

The next item of an iterator, `TokenTemplate.Evaluator.nextItem`. An iterator over a sequence looks at
the sequence as it is by then, and one that has come to its end stays there.

A comprehension is an iterator too, `TokenTemplate.Evaluator.generate`. It keeps a stack of the iterators
of its clauses: the innermost one that still has an item moves on, the clauses inside it begin anew,
and when there is nothing left to enter the element is evaluated.
-/

namespace TokenTemplate

namespace Evaluator

variable (ev : Evaluator)

/-! ### Assigning an item -/

/-- Gives a part of the value to each target; the starred one gets what the others leave. -/
def splitParts (targets : List Payload.Target) (parts : List Value) :
    Option (List (Payload.Target × List Value)) :=
  let isStarred (t : Payload.Target) : Bool := match t with
    | .starred _ => true
    | _ => false
  let before := targets.takeWhile (!isStarred ·)
  match targets.drop before.length with
  | [] => if targets.length = parts.length then some (targets.zip (parts.map ([·]))) else none
  | t :: after =>
    if parts.length < before.length + after.length then none
    else
      let middle := (parts.drop before.length).take (parts.length - before.length - after.length)
      some (before.zip ((parts.take before.length).map ([·])) ++ (t, middle) ::
        after.zip ((parts.drop (before.length + middle.length)).map ([·])))

/-- Changes an element of a list or a dictionary. -/
def setElement (container i v : Value) : Action Unit := do
  match container, ← Action.look (·.objectOf? container) with
  | .object id, some (.dict entries) =>
    Action.ofStore (·.needsKey i)
    Action.setObject id (.dict (← Action.ofStore (·.setEntry i v entries)))
  | .object id, some (.list items) =>
    match i.whole? with
    | none => Action.failWith .type
    | some n =>
      match position? items.size n with
      | some k => Action.setObject id (.list (items.setIfInBounds k v))
      | none => Action.fail (.explained .index "list assignment index out of range")
  | _, _ => Action.failWith .type

/-- Changes an attribute of a record. -/
def setAttribute (v : Value) (n : String) (w : Value) : Action Unit := do
  match v, ← Action.look (·.objectOf? v) with
  | .object id, some (.record fields) => Action.setObject id (.record (fields.set n w))
  | _, _ => Action.failWith .attribute

/-- Assigns values to a target, of at most `fuel` levels of parts: one value, or all that are left if
the target is starred. -/
def assignTarget (sc : Scope) : (fuel : Nat) → Payload.Target → List Value → Action Unit
  | 0, _, _ => Action.failWith .recursion
  | fuel + 1, target, values => do
    let v ← match target, values with
      | .starred _, values => Action.new (.list values.toArray)
      | _, [v] => pure v
      | _, _ => Action.failWith .value
    match target with
    | .name n => sc.bindHere n v
    | .attribute e n => setAttribute (← ev.eval sc e) n v
    | .index e i => do
      let container ← ev.eval sc e
      setElement container (← ev.eval sc i) v
    | .starred t => assignTarget sc fuel t [v]
    | .parts targets =>
      match splitParts targets (← ev.itemsOf v) with
      | none => Action.failWith .value
      | some pairs => pairs.forM fun p => assignTarget sc fuel p.1 p.2

/-- How deep targets can be nested. -/
def targetDepth : Nat :=
  200

/-! ### Comprehensions -/

/-- Whether all conditions hold. -/
def allHold (sc : Scope) : List Payload.Expr → Action Bool
  | [] => return true
  | c :: cs => do
    let v ← ev.eval sc c
    if ← Action.look (·.truth v) then allHold sc cs else return false

/-- What a comprehension makes of the values of its names. -/
def element (g : Generation) : Action Value := do
  match g.form with
  | .dict key =>
    let k ← ev.eval g.scope key
    let v ← ev.eval g.scope g.element
    Action.new (.tuple [k, v])
  | _ => ev.eval g.scope g.element

/-- An iterator for the source of a clause. A set that is known before anything runs is made only once. -/
def iterateSource (sc : Scope) (source : Payload.Expr) : Action Nat := do
  match source with
  | .set items =>
    if Payload.Expr.areConstant items then
      let vs ← items.mapM (ev.eval sc)
      Action.iterate (← Action.make fun s => return .object (.set (← constantSet s vs)))
    else Action.iterate (← ev.eval sc source)
  | source => Action.iterate (← ev.eval sc source)

/-- Moves a comprehension on to its next element; gives the iterators that are active then, and the
element, if there is one. -/
def generate (g : Generation) : (fuel : Nat) → (active : List Nat) →
    Action (List Nat × Option Value)
  | 0, _ => Action.fail .exhausted
  | _ + 1, [] => return ([], none)
  | fuel + 1, it :: outer => do
    match ← ev.next it with
    | none => generate g fuel outer
    | some v =>
      match g.clauses[outer.length]? with
      | none => return ([], none)
      | some (.mk target _ conditions) =>
        ev.assignTarget g.scope targetDepth target [v]
        if ← ev.allHold g.scope conditions then
          match g.clauses[outer.length + 1]? with
          | none => return (it :: outer, some (← ev.element g))
          | some (.mk _ source _) =>
            let inner ← ev.iterateSource g.scope source
            generate g fuel (inner :: it :: outer)
        else generate g fuel (it :: outer)

/-- Whether a comprehension gives its elements one by one. -/
def isLazy : Payload.Form → Bool
  | .generator => true
  | _ => false

/-- The fault of a comprehension as it is seen from outside: one that gives its elements one by one
cannot run out of items by accident. -/
def escaping (form : Payload.Form) (e : Fault) : Fault :=
  match e with
  | .raised ⟨.stopIteration, _⟩ =>
    if isLazy form then .explained .runtime "generator raised StopIteration" else e
  | e => e

/-- The next element of the comprehension that an iterator is. -/
def nextElement (id : Nat) (g : Generation) : Action (Option Value) := do
  if g.running then Action.failWith .value
  else
    Action.setObject id (.iterator (.generation { g with running := true }))
    let r ← (ev.generate g loopLimit g.active).recover fun e => do
      Action.setObject id (.iterator (.row (.other "generator") []))
      Action.fail (escaping g.form e)
    match r with
    | (active, some v) =>
      Action.setObject id (.iterator (.generation { g with active }))
      return some v
    | (_, none) =>
      Action.setObject id (.iterator (.row (.other "generator") []))
      return none

/-- An iterator for the elements of a comprehension. The source of the first clause is evaluated at
once, in the scope around it. -/
def comprehension (sc : Scope) (form : Payload.Form) (e : Payload.Expr)
    (clauses : List Payload.Clause) (own : List String) : Action Nat := do
  match clauses with
  | [] => Action.failWith .type
  | .mk _ source _ :: _ =>
    let first ← ev.iterateSource sc source
    let scope ← sc.enter own true
    Action.allocate (.iterator (.generation ⟨form, e, clauses, [first], scope, false⟩))

/-! ### Other iterators -/

/-- An entry of a dictionary as an item. -/
def entryItem (part : DictMethod) (p : Value × Value) : Action Value :=
  match part with
  | .values => return p.2
  | .items => Action.new (.tuple [p.1, p.2])
  | _ => return p.1

/-- Fails if one of some iterators has a next item. -/
def needEnd : List Nat → Action Unit
  | [] => return ()
  | id :: ids => do
    match ← ev.next id with
    | none => needEnd ids
    | some _ => Action.failWith .value

/-- An element as a value that has elements gives it: one that does not store its elements makes it anew. -/
def givenBy (owner v : Value) : Action Value :=
  match owner with
  | .text .. | .range .. => Action.made v
  | _ => return v

/-- Whether an iterator of a kind makes the texts that it gives. -/
def makesTexts (k : Kind) : Bool :=
  k == .other "str_iterator" || k == .other "str_ascii_iterator"

/-- The next items of some iterators; nothing if one of them has none. If they have to end together, the
others have none either then. -/
def nextOfEach (together : Bool) : (row : List Value) → List Nat → Action (Option (List Value))
  | row, [] => return some row.reverse
  | row, id :: ids => do
    match ← ev.next id with
    | some v => nextOfEach together (v :: row) ids
    | none =>
      if together then
        if row.isEmpty then ev.needEnd ids else Action.failWith .value
      return none

/-- **The next item of an iterator.** -/
def nextItem (id : Nat) : Action (Option Value) := do
  let become (i : Iteration) : Action Unit := Action.setObject id (.iterator i)
  let finish : Action Unit := do
    become (.row (← Action.look (·.kindOf (.object id))) [])
  match ← Action.look (·.object? id) with
  | some (.iterator (.row k (v :: rest))) =>
    become (.row k rest)
    if makesTexts k then return some (← Action.made v) else return some v
  | some (.iterator (.forward owner p)) =>
    match ← Action.look (·.element? owner p) with
    | some v =>
      become (.forward owner (p + 1))
      return some (← givenBy owner v)
    | none =>
      finish
      return none
  | some (.iterator (.backward owner (p + 1))) =>
    match ← Action.look (·.element? owner p) with
    | some v =>
      become (.backward owner p)
      return some (← givenBy owner v)
    | none =>
      finish
      return none
  | some (.iterator (.entries part dict p size)) =>
    let entries ← Action.look (·.entries dict)
    if entries.length ≠ size then
      Action.fail (.explained .runtime "dictionary changed size during iteration")
    else
      match entries[p]? with
      | some entry =>
        become (.entries part dict (p + 1) size)
        return some (← entryItem part entry)
      | none =>
        finish
        return none
  | some (.iterator (.numbered items count)) =>
    match ← ev.next items with
    | some v =>
      become (.numbered items (count + 1))
      return some (← Action.new (.tuple [← Action.made (.ofInt count), v]))
    | none => return none
  | some (.iterator (.parallel [] _)) => return none
  | some (.iterator (.parallel ids together)) =>
    match ← ev.nextOfEach together [] ids with
    | some vs => return some (← Action.new (.tuple vs))
    | none => return none
  | some (.iterator (.calls f stop)) =>
    let v ← (some <$> ev.call f [] []).recover fun e =>
      match e with
      | .raised ⟨.stopIteration, _⟩ => pure none
      | e => Action.fail e
    match v with
    | none =>
      finish
      return none
    | some v =>
      if ← Action.ofStore (·.sameOrEqual stop v) then
        finish
        return none
      else return some v
  | some (.iterator (.generation g)) => ev.nextElement id g
  | _ => return none

end Evaluator

end TokenTemplate
