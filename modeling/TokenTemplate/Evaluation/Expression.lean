import TokenTemplate.Evaluation.Call
import TokenTemplate.Evaluation.View

/-!
# Evaluating expressions

The value of an expression, `TokenTemplate.Evaluator.evalExpr`, in terms of an evaluator for its parts.
Operands are evaluated from left to right, and only as far as they are needed.
-/

namespace TokenTemplate

namespace Evaluator

variable (ev : Evaluator)

/-! ### Displays -/

/-- The values of some items; a starred one gives all its elements. -/
def evalItems (sc : Scope) : List Payload.Expr → Action (List Value)
  | [] => return []
  | .starred e :: es => do
    let vs ← ev.itemsOf (← ev.eval sc e)
    return vs ++ (← evalItems sc es)
  | e :: es => do
    let v ← ev.eval sc e
    return v :: (← evalItems sc es)

/-- The items of a set display. Those before the first starred one are put in together, once all of them
have their values. -/
def evalSet (sc : Scope) (items : List Payload.Expr) : Action (SlotTable Value) := do
  let plain := items.takeWhile fun e => !e.isStarred
  let vs ← ev.evalItems sc plain
  let table ← Action.ofStore fun s => vs.foldlM s.addItem .empty
  (items.drop plain.length).foldlM (fun table e => do
    match e with
    | .starred e => ev.addAll table (← ev.eval sc e)
    | e =>
      let v ← ev.eval sc e
      Action.ofStore (·.addItem table v)) table

/-- The entries of a dictionary display. -/
def evalEntries (sc : Scope) : List Payload.Entry → List (Value × Value) →
    Action (List (Value × Value))
  | [], d => return d
  | .pair k v :: rest, d => do
    let key ← ev.eval sc k
    let value ← ev.eval sc v
    Action.ofStore (·.needsKey key)
    let d ← Action.ofStore (·.setEntry key value d)
    evalEntries sc rest d
  | .spread e :: rest, d => do
    let v ← ev.eval sc e
    match ← Action.look (·.objectOf? v) with
    | some (.dict entries) =>
      let d ← Action.ofStore fun s => entries.foldlM (fun d p => s.setEntry p.1 p.2 d) d
      evalEntries sc rest d
    | _ => Action.failWith .type

/-- The value of an optional part of a slice. -/
def evalBound (sc : Scope) : Option Payload.Expr → Action Value
  | none => return .none
  | some e => ev.eval sc e

/-! ### Comparisons -/

/-- Whether a comparison of two values holds. -/
def compareValues (op : Payload.CompareOp) (v w : Value) : Action Bool :=
  match op with
  | .equal => Action.ofStore (·.equal v w)
  | .notEqual => Action.ofStore fun s => (s.equal v w).map (!·)
  | .member => ev.contains w v
  | .notMember => (!·) <$> ev.contains w v
  | .same => Action.look (·.same v w)
  | .notSame => Action.look fun s => !s.same v w
  | op => Action.ofStore (·.ordered op v w)

/-- Whether a comparison of the values of two expressions holds. Values that are known before anything runs
are one and the same if they are alike. -/
def compareOperands (op : Payload.CompareOp) (left right : Payload.Expr) (v w : Value) : Action Bool :=
  match op, left.isConstant && right.isConstant with
  | .same, true => Action.look (·.alike v w)
  | .notSame, true => Action.look fun s => !s.alike v w
  | op, _ => ev.compareValues op v w

/-- A chain of comparisons that begins with the value of an expression: it ends at the first one that does not
hold. -/
def evalChain (sc : Scope) (left : Payload.Expr) (v : Value) :
    List (Payload.CompareOp × Payload.Expr) → Action Value
  | [] => return .bool true
  | (op, e) :: rest => do
    let w ← ev.eval sc e
    if ← ev.compareOperands op left e v w then evalChain sc e w rest else return .bool false

/-! ### Elements and attributes -/

/-- The element of a value at an index. -/
def elementAt (v i : Value) : Action Value := do
  match v, ← Action.look (·.objectOf? v) with
  | .object id, some (.dict _) =>
    match ← Action.ofStore (·.lookup? id i) with
    | some w => return w
    | none => Action.fail (← Action.ofStore (·.keyError i))
  | v, _ =>
    if !(← Action.look (·.isSequence v)) then Action.failWith .type
    else
      match i.whole?, ← Action.look (·.objectOf? i) with
      | some n, _ =>
        let length := (← Action.look (·.length? v)).getD 0
        match ← Action.look fun s => (position? length n).bind (s.element? v) with
        | some w => givenBy v w
        | none => Action.fail (← Action.look (·.positionError v n))
      | none, some (.slice low high step) => Action.make (·.slice v low high step)
      | none, _ => Action.failWith .type

/-- The method of a name that a value has. -/
def methodOf? (s : Store) (v : Value) (n : String) : Option Method :=
  match v with
  | .text .. => (Method.ofText.lookup n).map .text
  | .kind .text => (Method.ofText.lookup n).map .text
  | .kind .list => (Method.ofList.lookup n).map .list
  | .kind .tuple => (Method.ofTuple.lookup n).map .list
  | .kind .dict => (Method.ofDict.lookup n).map .dict
  | .receiver _ => (Method.ofReceiver.lookup n).map .receiver
  | v =>
    match s.objectOf? v with
    | some (.list _) => (Method.ofList.lookup n).map .list
    | some (.tuple _) => (Method.ofTuple.lookup n).map .list
    | some (.dict _) => (Method.ofDict.lookup n).map .dict
    | _ => none

/-- An attribute of a number, if it has one of that name. -/
def numberAttribute? (v : Value) (n : String) : Option Value :=
  match v, v.quantity?, n with
  | .complex a, _, "real" => some (.ofReal a.re)
  | .complex a, _, "imag" => some (.ofReal a.im)
  | .int .., _, "real" => some v
  | _, some (.whole m), "real" => some (.ofInt m)
  | _, some (.whole _), "imag" => some (.ofInt 0)
  | .int .., _, "numerator" => some v
  | _, some (.whole m), "numerator" => some (.ofInt m)
  | _, some (.whole _), "denominator" => some (.ofInt 1)
  | _, some (.real _), "real" => some v
  | _, some (.real _), "imag" => some (.ofReal 0)
  | _, _, _ => none

/-- **An attribute of a value.** -/
def attributeOf (v : Value) (n : String) : Action Value := do
  match v, ← Action.look (·.objectOf? v) with
  | .single .standard, _ =>
    match Value.ofName? n with
    | some w => return w
    | none => Action.failWith .attribute
  | .space w, _ =>
    match n with
    | "name" => return .ofText w.capitalName
    | "value" => return .ofText w.name
    | _ => Action.failWith .attribute
  | _, some (.record fields) =>
    match fields.lookup n with
    | some w => return w
    | none => Action.failWith .attribute
  | v, some (.template t) =>
    match n with
    | "source" => return .ofText t.source
    | "receiver" => return .ofText t.receiver
    | n =>
      match Method.ofTemplate.lookup n with
      | some m => Action.new (.method v (.template m))
      | none => Action.failWith .attribute
  | v, _ =>
    match numberAttribute? v n, ← Action.look (methodOf? · v n) with
    | some w, _ => (Made.value w).toAction
    | none, some m => Action.new (.method v m)
    | none, none => Action.failWith .attribute

/-! ### Calls and functions -/

/-- The values of some arguments, by position and by name. -/
def evalArguments (sc : Scope) : List Payload.Argument → Action (List Value × Bindings)
  | [] => return ([], [])
  | .positional e :: rest => do
    let vs ← ev.evalItems sc [e]
    let (args, named) ← evalArguments sc rest
    return (vs ++ args, named)
  | .keyword n e :: rest => do
    let v ← ev.eval sc e
    let (args, named) ← evalArguments sc rest
    if (named.lookup n).isSome then Action.failWith .type else return (args, (n, v) :: named)
  | .spread e :: rest => do
    let v ← ev.eval sc e
    match ← Action.look (·.objectOf? v) with
    | some (.dict entries) =>
      let more ← entries.mapM fun p => match p.1 with
        | .text n _ => pure (n, p.2)
        | _ => Action.failWith .type
      let (args, named) ← evalArguments sc rest
      if more.any fun p => (named.lookup p.1).isSome then Action.failWith .type
      else return (args, more ++ named)
    | _ => Action.failWith .type

/-- A parameter with the value of its default. -/
def bindParameter (sc : Scope) : Payload.Parameter → Action BoundParameter
  | .mk n kind none => return ⟨n, kind, none⟩
  | .mk n kind (some e) => return ⟨n, kind, some (← ev.eval sc e)⟩

/-- What a comprehension makes of all its elements. -/
def collectForm (form : Payload.Form) (id : Nat) : Action Value := do
  match form with
  | .generator => return .object id
  | .list => Action.new (.list (← ev.collect id).toArray)
  | .set =>
    let items ← ev.collect id
    Action.make fun s => setOf s items
  | .dict _ =>
    let pairs ← ev.collect id
    let entries ← Action.ofStore fun s =>
      pairs.foldlM (fun d p =>
        match s.objectOf? p with
        | some (.tuple [k, v]) => do
          s.needsKey k
          s.setEntry k v d
        | _ => .ok d) []
    Action.new (.dict entries)

/-! ### Expressions -/

/-- **The value of an expression.** -/
def evalExpr (sc : Scope) : Payload.Expr → Action Value
  | .constant c => return .ofConstant c
  | .name n => Action.ofStore (sc.lookup n)
  | .tuple items => do Action.new (.tuple (← ev.evalItems sc items))
  | .list items => do Action.new (.list (← ev.evalItems sc items).toArray)
  | .set items => do
    if 2 < items.length && Payload.Expr.areConstant items then
      let vs ← ev.evalItems sc items
      Action.make fun s => return .object (.set (← constantSet s vs).copy)
    else Action.new (.set (← ev.evalSet sc items))
  | .dict entries => do Action.new (.dict (← ev.evalEntries sc entries []))
  | .starred _ => Action.failWith .type
  | .unary op e => do
    let v ← ev.eval sc e
    Action.make fun s => return .value (← s.unary op v)
  | .binary op l r => do
    let v ← ev.eval sc l
    let w ← ev.eval sc r
    ev.binary op v w
  | .both l r => do
    let v ← ev.eval sc l
    if ← Action.look (·.truth v) then ev.eval sc r else return v
  | .either l r => do
    let v ← ev.eval sc l
    if ← Action.look (·.truth v) then return v else ev.eval sc r
  | .compare first rest => do
    let v ← ev.eval sc first
    ev.evalChain sc first v rest
  | .conditional test yes no => do
    let v ← ev.eval sc test
    if ← Action.look (·.truth v) then ev.eval sc yes else ev.eval sc no
  | .assign n e => do
    let v ← ev.eval sc e
    sc.assign n v
    return v
  | .attribute e n => do attributeOf (← ev.eval sc e) n
  | .index e (.slice low high step) => do
    let v ← ev.eval sc e
    let low ← ev.evalBound sc low
    let high ← ev.evalBound sc high
    let step ← ev.evalBound sc step
    Action.make (·.slice v low high step)
  | .index e i => do
    let v ← ev.eval sc e
    elementAt v (← ev.eval sc i)
  | .slice low high step => do
    let low ← ev.evalBound sc low
    let high ← ev.evalBound sc high
    Action.new (.slice low high (← ev.evalBound sc step))
  | .call f arguments => do
    let f ← ev.eval sc f
    let (args, named) ← ev.evalArguments sc arguments
    if f = .function .locals && args.isEmpty && named.isEmpty then sc.locals else ev.call f args named
  | .lambda parameters body own => do
    let ps ← parameters.mapM (ev.bindParameter sc)
    Action.new (.closure ps body own sc)
  | .comprehension form e clauses own => do
    let id ← ev.comprehension sc form e clauses own
    ev.collectForm form id

end Evaluator

end TokenTemplate
