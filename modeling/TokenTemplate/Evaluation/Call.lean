import TokenTemplate.Evaluation.Iteration
import TokenTemplate.Evaluation.Receiver

/-!
# Calls

What it means to call a value, `TokenTemplate.Evaluator.callValue`: one of the functions that every
payload has, a kind, a method, a probe, or a function that the payload has made. Arguments come by
position and by name, and whatever does not fit is an error of the caller.
-/

namespace TokenTemplate

/-! ### Arguments -/

/-- Fails if arguments are given by name. -/
def noNames (named : Bindings) : Action Unit :=
  if named.isEmpty then pure () else Action.failWith .type

/-- Fails if an argument is given under a name that is not among some. -/
def onlyNames (allowed : List String) (named : Bindings) : Action Unit :=
  if named.all fun p => allowed.contains p.1 then pure () else Action.failWith .type

/-- The value of a parameter with a name and, if it can be given so, a position; it cannot be given
twice. -/
def optionalArgument (args : List Value) (named : Bindings) (position : Nat) (n : String) :
    Action (Option Value) :=
  match args[position]?, named.lookup n with
  | some _, some _ => Action.failWith .type
  | some v, none => return some v
  | none, v => return v

/-- The whole number that an argument is. -/
def wholeArgument (v : Value) : Action Int :=
  Action.ofExcept (wholeOf v)

/-- The number that says which way an argument decides something. -/
def choiceArgument (v : Value) : Action Int := do
  let n ← wholeArgument v
  if -Int.pow 2 31 ≤ n ∧ n < Int.pow 2 31 then return n else Action.failWith .overflow

namespace Evaluator

variable (ev : Evaluator)

/-! ### Functions of a payload -/

/-- What a call has filled of the parameters of a function. -/
structure Filling where
  /-- The arguments by position that are left. -/
  args : List Value
  /-- The arguments by name that are left. -/
  named : Bindings
  /-- The parameters that have a value. -/
  filled : Bindings

/-- Fills a parameter from the arguments that are left. -/
def fill (f : Filling) (p : BoundParameter) : Action Filling := do
  let byName : Action Filling :=
    match f.named.lookup p.name, p.default with
    | some v, _ =>
      return { f with
        named := f.named.filter (·.1 != p.name), filled := f.filled ++ [(p.name, v)] }
    | none, some v => return { f with filled := f.filled ++ [(p.name, v)] }
    | none, none => Action.failWith .type
  match p.kind, f.args with
  | .positional, v :: args => return { f with args, filled := f.filled ++ [(p.name, v)] }
  | .positional, [] =>
    match p.default with
    | some v => return { f with filled := f.filled ++ [(p.name, v)] }
    | none => Action.failWith .type
  | .either, v :: args =>
    if (f.named.lookup p.name).isSome then Action.failWith .type
    else return { f with args, filled := f.filled ++ [(p.name, v)] }
  | .either, [] => byName
  | .rest, args =>
    return { f with args := [], filled := f.filled ++ [(p.name, ← Action.new (.tuple args))] }
  | .keyword, _ => byName
  | .keywordRest, _ =>
    let d ← Action.new (.dict (f.named.map fun q => (.ofText q.1, q.2)))
    return { f with named := [], filled := f.filled ++ [(p.name, d)] }

/-- Calls a function of a payload. -/
def callClosure (parameters : List BoundParameter) (body : Payload.Expr) (own : List String)
    (scope : Scope) (args : List Value) (named : Bindings) : Action Value := do
  let f ← parameters.foldlM fill ⟨args, named, []⟩
  if !f.args.isEmpty || !f.named.isEmpty then Action.failWith .type
  else
    let inner ← scope.enter own false
    f.filled.forM fun p => inner.bindHere p.1 p.2
    ev.eval inner body

/-! ### Functions over items -/

/-- Whether some item is as true as wanted. -/
def someItem (wanted : Bool) (v : Value) : Action Bool := do
  let it ← Action.iterate v
  ev.loop (fun (_ : Unit) item =>
    match item with
    | none => return .inr false
    | some v => do
      if (← Action.look (·.truth v)) == wanted then return .inr true else return .inl ()) it loopLimit ()

/-- A value with the key that it is compared by. -/
def withKey (key : Value) (v : Value) : Action (Value × Value) :=
  match key with
  | .none => return (v, v)
  | f => return (← ev.call f [v] [], v)

/-- The item that comes first in an order; of equal ones the first. -/
def extreme (op : Payload.CompareOp) (key : Value) (v : Value) : Action (Option Value) := do
  let it ← Action.iterate v
  let best ← ev.loop (fun (best : Option (Value × Value)) item =>
    match item with
    | none => return .inr best
    | some v => do
      let x ← ev.withKey key v
      match best with
      | none => return .inl (some x)
      | some y => do
        if ← Action.ofStore (·.ordered op x.1 y.1) then return .inl (some x) else return .inl best)
    it loopLimit none
  return best.map (·.2)

/-- The smallest or greatest of some arguments, or of the items of one argument. -/
def extremeOf (op : Payload.CompareOp) (args : List Value) (named : Bindings) : Action Value := do
  onlyNames ["key", "default"] named
  let key := (named.lookup "key").getD .none
  match args with
  | [] => Action.failWith .type
  | [v] =>
    match ← ev.extreme op key v, named.lookup "default" with
    | some w, _ => return w
    | none, some d => return d
    | none, none => Action.failWith .value
  | vs =>
    if (named.lookup "default").isSome then Action.failWith .type
    else
      match ← ev.extreme op key (← Action.new (.tuple vs)) with
      | some w => return w
      | none => Action.failWith .value

/-- The items of a value in ascending or descending order; equal ones keep their order. -/
def sortItems (args : List Value) (named : Bindings) : Action Value := do
  onlyNames ["key", "reverse"] named
  match args with
  | [v] =>
    let items ← ev.itemsOf v
    let descending ← match named.lookup "reverse" with
      | none => pure false
      | some r => (· != 0) <$> choiceArgument r
    let keyed ← items.mapM (ev.withKey ((named.lookup "key").getD .none))
    let row := if descending then keyed.reverse else keyed
    let sorted ← Action.ofStore (·.sortByKey row)
    Action.new (.list ((if descending then sorted.reverse else sorted).map (·.2)).toArray)
  | _ => Action.failWith .type

/-- The sum of the items of a value, added to a start. -/
def sumItems (args : List Value) (named : Bindings) : Action Value := do
  onlyNames ["start"] named
  match args with
  | v :: rest =>
    if 1 < rest.length then Action.failWith .type
    else
      let start := (← optionalArgument args named 1 "start").getD (.ofInt 0)
      let it ← Action.iterate v
      match start with
      | .text .. => Action.failWith .type
      | start =>
        ev.loop (fun total item =>
          match item with
          | none => return .inr total
          | some v => do return .inl (← Action.make (·.binary .add total v))) it loopLimit start
  | [] => Action.failWith .type

/-- Whether a value is of a kind, or of one of some kinds, of at most `fuel` levels of parts. -/
def isOfKind (s : Store) (v : Value) : (fuel : Nat) → Value → Except Fault Bool
  | 0, _ => .error (.ofKind .recursion)
  | fuel + 1, k =>
    match k, s.objectOf? k with
    | .kind .object, _ => .ok true
    | .kind .int, _ => .ok (s.kindOf v == .int || s.kindOf v == .bool)
    | .kind k, _ => .ok (s.kindOf v == k)
    | _, some (.union kinds) => kinds.anyM fun k => isOfKind s v fuel (.kind k)
    | _, some (.tuple ks) =>
      ks.foldlM (fun found k => if found then .ok true else isOfKind s v fuel k) false
    | _, _ => .error (.ofKind .type)

/-- Whether a value can be called. -/
def isCallable (s : Store) : Value → Bool
  | .function _ => true
  | .kind _ => true
  | v =>
    match s.objectOf? v with
    | some (.probe _) | some (.method ..) | some (.closure ..) => true
    | _ => false

/-- Calls a function that every payload has. -/
def callFunction (f : Function) (args : List Value) (named : Bindings) : Action Value := do
  match f, args with
  | .max, args => ev.extremeOf .greater args named
  | .min, args => ev.extremeOf .less args named
  | .sorted, args => ev.sortItems args named
  | .sum, args => ev.sumItems args named
  | f, args => do
    noNames named
    match f, args with
    | .abs, [v] =>
      match v, v.quantity? with
      | .int n _, _ => if n < 0 then Action.int (-n) else return v
      | .complex a, _ => Action.real a.abs
      | _, some (.whole n) => Action.int n
      | _, some (.real x) => Action.real (Number.withSign x false)
      | _, none => Action.failWith .type
    | .all, [v] => return .bool !(← ev.someItem false v)
    | .any, [v] => return .bool (← ev.someItem true v)
    | .isInstance, [v, k] =>
      return .bool (← Action.ofStore fun s => isOfKind s v s.depth k)
    | .iter, [v] => return .object (← Action.iterate v)
    | .iter, [f, stop] =>
      if ← Action.look (isCallable · f) then Action.new (.iterator (.calls f stop))
      else Action.failWith .type
    | .len, [v] =>
      match ← Action.look (·.length? v) with
      | some n => if n < lengthLimit then Action.int n else Action.failWith .overflow
      | none => Action.failWith .type
    | .next, v :: rest =>
      match v, ← Action.look (·.objectOf? v), rest with
      | _, _, _ :: _ :: _ => Action.failWith .type
      | .object id, some (.iterator _), rest =>
        match ← ev.next id, rest.head? with
        | some w, _ => return w
        | none, some d => return d
        | none, none => Action.failWith .stopIteration
      | _, _, _ => Action.failWith .type
    | .shown, [v] => Action.text (← Action.ofStore (·.shown v))
    | _, _ => Action.failWith .type

/-! ### Kinds -/

/-- The whole number that a text stands for: digits of any script, with single underscores between
them, and perhaps a sign. -/
def wholeOfText? (t : String) : Option Int := do
  let cs := (Unicode.trim t).toList
  let (negative, ds) := match cs with
    | '-' :: ds => (true, ds)
    | '+' :: ds => (false, ds)
    | ds => (false, ds)
  if !(ds.head?).any Unicode.isDecimal then none
  else
    let (ds, rest) ← Payload.digitRun? Unicode.isDecimal ds
    if !rest.isEmpty || 4300 < ds.length then none
    else
      let n : Int := ds.foldl (fun n d => n * 10 + (Unicode.decimalValue? d).getD 0) 0
      return if negative then -n else n

/-- The whole number that a text stands for in a base. -/
def wholeOfTextIn? (t : String) (base : Int) : Option Int := do
  let cs := (Unicode.trim t).toList
  let (negative, ds) := match cs with
    | '-' :: ds => (true, ds)
    | '+' :: ds => (false, ds)
    | ds => (false, ds)
  let marked : Option (Nat × List Char) := match ds with
    | '0' :: m :: ds =>
      if m = 'x' ∨ m = 'X' then some (16, ds)
      else if m = 'o' ∨ m = 'O' then some (8, ds)
      else if m = 'b' ∨ m = 'B' then some (2, ds)
      else none
    | _ => none
  let (base, ds) ← match marked with
    | some (b, rest) => if base = 0 ∨ base = b then some (b, rest) else some (base.toNat, ds)
    | none => if base = 0 then some (10, ds) else some (base.toNat, ds)
  let (ds, rest) ← Payload.digitRun? (fun c => (Text.digitValue? base c).isSome) ds
  if ds.isEmpty || !rest.isEmpty || (4300 < ds.length && Nat.pow 2 base.log2 != base) then none
  else
    let n : Int := (← Text.numberOf? base ds)
    return if negative then -n else n

/-- A whole number made of other values. -/
def makeWhole (args : List Value) : Action Value := do
  match args with
  | [] => Action.int 0
  | [.text t _] =>
    match wholeOfText? t with
    | some n => Action.int n
    | none => Action.failWith .value
  | [v, b] =>
    let base ← wholeArgument b
    if base ≠ 0 ∧ (base < 2 ∨ 36 < base) then Action.failWith .value
    else
      match v with
      | .text t _ =>
        match wholeOfTextIn? t base with
        | some n => Action.int n
        | none => Action.failWith .value
      | _ => Action.failWith .type
  | [v] =>
    match v, v.quantity? with
    | .int .., _ => return v
    | _, some (.whole n) => Action.int n
    | _, some (.real x) => Action.int (← Action.ofExcept (wholePart x))
    | _, none => Action.failWith .type
  | _ => Action.failWith .type

/-- The floating-point number that a text stands for; digits may be of any script, with single
underscores between them. -/
def realOfText? (t : String) : Option Float := do
  let cs := (Unicode.trim t).toList
  let (cs, _) ← if cs.head? = some '_' then none else Payload.digitRun? (fun _ => true) cs
  Number.ofText? (cs.map fun c => ((Unicode.decimalValue? c).map fun d => Char.ofNat (48 + d)).getD c)

/-- A floating-point number made of another value. -/
def makeReal (args : List Value) : Action Value := do
  match args with
  | [] => Action.real 0
  | [.text t _] =>
    match realOfText? t with
    | some x => Action.real x
    | none => Action.failWith .value
  | [v] =>
    match v, v.quantity? with
    | .float .., _ => return v
    | _, some q => Action.real (← Action.ofExcept (realOf q))
    | _, none => Action.failWith .type
  | _ => Action.failWith .type

/-- A dictionary made of another one, or of pairs, and of arguments by name. -/
def makeDict (args : List Value) (named : Bindings) : Action Value := do
  let base ← match args with
    | [] => pure []
    | [v] => do
      match ← Action.look (·.objectOf? v) with
      | some (.dict entries) => pure entries
      | _ =>
        let items ← ev.itemsOf v
        items.foldlM (fun (d : List (Value × Value)) item => do
          match ← ev.itemsOf item with
          | [k, w] => do
            Action.ofStore (·.needsKey k)
            Action.ofStore (·.setEntry k w d)
          | _ => Action.failWith .value) []
    | _ => Action.failWith .type
  let entries ← named.foldlM
    (fun d p => Action.ofStore (·.setEntry (.ofText p.1) p.2 d)) base
  Action.new (.dict entries)

/-- A range made of its end, or of its start, its end and perhaps its step. -/
def makeRange (args : List Value) : Action Value := do
  match ← args.mapM wholeArgument with
  | [stop] => Action.made (.ofRange 0 stop 1)
  | [start, stop] => Action.made (.ofRange start stop 1)
  | [start, stop, step] =>
    if step = 0 then Action.failWith .value else Action.made (.ofRange start stop step)
  | _ => Action.failWith .type

/-- The items of a sequence or the keys of a dictionary, backwards. -/
def makeReversed (v : Value) : Action Value := do
  let row (k : Kind) (items : List Value) : Action Value :=
    Action.new (.iterator (.row k items.reverse))
  match v, ← Action.look (·.objectOf? v) with
  | .text t _, _ => do row .reversed (← t.toList.mapM fun c => Action.text (String.singleton c))
  | _, some (.tuple items) => row .reversed items
  | _, some (.dict entries) => row (.other DictMethod.keys.reverseIteratorName) (entries.map (·.1))
  | _, some (.view part dict) =>
    let entries ← Action.look (·.entries dict)
    row (.other part.reverseIteratorName) (← entries.mapM (entryItem part))
  | v, _ =>
    if ← Action.look (·.isSequence v) then
      let n ← Action.look (·.length? v)
      Action.new (.iterator (.backward v (n.getD 0)))
    else Action.failWith .type

/-- The text of a value as a value. -/
def textOfValue (v : Value) : Action Value := do
  match v with
  | .text .. => return v
  | v => Action.text (← Action.ofStore (·.textOf v))

/-- **Makes a value of a kind.** -/
def makeKind (k : Kind) (args : List Value) (named : Bindings) : Action Value := do
  match k, args with
  | .dict, args => ev.makeDict args named
  | .enumerate, args =>
    onlyNames ["iterable", "start"] named
    let start ← optionalArgument args named 1 "start"
    match ← optionalArgument args named 0 "iterable", args.drop 2 with
    | some v, [] =>
      let count ← wholeArgument (start.getD (.ofInt 0))
      Action.new (.iterator (.numbered (← Action.iterate v) count))
    | _, _ => Action.failWith .type
  | .text, args =>
    onlyNames ["object", "encoding", "errors"] named
    match args, named with
    | [], [] => Action.text ""
    | [v], [] | [], [("object", v)] => textOfValue v
    | _, _ => Action.failWith .type
  | .int, args => do
    match args, named with
    | args, [] => makeWhole args
    | v :: args, [("base", b)] => makeWhole (v :: args ++ [b])
    | _, _ => Action.failWith .type
  | .zip, args => do
    onlyNames ["strict"] named
    let together ← match named.lookup "strict" with
      | some v => Action.look (·.truth v)
      | none => pure false
    let its ← args.mapM Action.iterate
    Action.new (.iterator (.parallel its together))
  | k, args => do
    noNames named
    match k, args with
    | .bool, [] => return .bool false
    | .bool, [v] => return .bool (← Action.look (·.truth v))
    | .float, args => makeReal args
    | .list, [] => Action.new (.list #[])
    | .list, [v] => Action.new (.list (← ev.itemsOf v).toArray)
    | .tuple, [] => Action.new (.tuple [])
    | .tuple, [v] =>
      match ← Action.look (·.objectOf? v) with
      | some (.tuple _) => return v
      | _ => Action.new (.tuple (← ev.itemsOf v))
    | .set, [] => Action.new (.set .empty)
    | .set, [v] => Action.new (.set (← ev.addAll .empty v))
    | .range, args => makeRange args
    | .reversed, [v] => makeReversed v
    | .kind, [v] => return .kind (← Action.look (·.kindOf v))
    | _, _ => Action.failWith .type

/-! ### Methods -/

/-- Calls a method of a list or a tuple. -/
def callListMethod (self : Value) (m : ListMethod) (args : List Value) : Action Value := do
  let items ← Action.look (·.rowOf self)
  match self, ← Action.look (·.objectOf? self), m, args with
  | .object id, some (.list items), .append, [v] =>
    Action.setObject id (.list (items.push v))
    return .none
  | _, _, .count, [v] =>
    let found ← Action.ofStore fun s => items.filterM (s.sameOrEqual · v)
    Action.int found.length
  | _, _, .index, _ :: _ :: _ :: _ :: _ => Action.failWith .type
  | _, _, .index, v :: ends =>
    let bounds ← Action.ofExcept (ends.mapM wholeOf)
    let length : Int := items.length
    let clamp (i : Int) : Nat := (max 0 (min length (if i < 0 then i + length else i))).toNat
    let low := ((bounds[0]?).map clamp).getD 0
    let high := ((bounds[1]?).map clamp).getD items.length
    let part := (items.take high).drop low
    let before ← Action.ofStore fun s =>
      part.foldlM (fun (n : Nat ⊕ Nat) w =>
        match n with
        | .inl n => do return if ← s.sameOrEqual w v then .inr n else .inl (n + 1)
        | .inr n => .ok (.inr n)) (.inl 0)
    match before with
    | .inr n => Action.int (low + n)
    | .inl _ => Action.failWith .value
  | _, _, _, _ => Action.failWith .type

/-- Calls a method of a dictionary. -/
def callDictMethod (self : Value) (m : DictMethod) (args : List Value) : Action Value := do
  match self, m, args with
  | .object id, .get, key :: rest =>
    if 1 < rest.length then Action.failWith .type
    else
      let found ← Action.ofStore (·.lookup? id key)
      return found.getD ((rest[0]?).getD .none)
  | .object _, .get, _ => Action.failWith .type
  | .object id, part, [] => Action.new (.view part id)
  | _, _, _ => Action.failWith .type

/-- Calls a method of a receiver. -/
def callReceiverMethod (id : Nat) (m : ReceiverMethod) (args : List Value) : Action Value := do
  match m, args with
  | .append, [v] =>
    ev.write id v
    return .none
  | .extend, [v] =>
    ev.writeAll id v
    return .none
  | .space w, [] =>
    Action.writeSpace id w
    return .none
  | .nested, [v] =>
    ev.writeNested id v
    return .none
  | .isEmpty, [] => return .bool (← Action.look (·.isEmptyReceiver id))
  | .format, [] => Action.text (← Action.look fun s => Settings.format {} (s.items id))
  | .format, [_] => Action.failWith .attribute
  | .formatFile, [] => Action.text (← Action.look fun s => Settings.formatFile {} (s.items id))
  | .formatFile, [_] =>
    if ← Action.look (·.isEmptyReceiver id) then Action.text "" else Action.failWith .attribute
  | _, _ => Action.failWith .type

/-- Calls a method of a receiver with its argument, if it has one, given by position or by name. -/
def callReceiver (id : Nat) (m : ReceiverMethod) (args : List Value) (named : Bindings) :
    Action Value :=
  match args, named with
  | args, [] => ev.callReceiverMethod id m args
  | [], [(n, v)] =>
    if m.parameter? = some n then ev.callReceiverMethod id m [v] else Action.failWith .type
  | _, _ => Action.failWith .type

/-- Writes a template to a receiver that is given as a value. -/
def populateValue (t : Template) (receiver : Value) (b : Bindings) : Action Value := do
  match receiver with
  | .receiver id =>
    ev.populate t id b
    return receiver
  | _ => Action.failWith .attribute

/-- Calls a method of a template. -/
def callTemplateMethod (t : Template) (m : TemplateMethod) (args : List Value) (named : Bindings) :
    Action Value := do
  match m, args with
  | .tokens, [] =>
    let id ← Action.newReceiver
    ev.populate t id named
    return .receiver id
  | .render, [] =>
    let id ← Action.newReceiver
    ev.populate t id named
    Action.text (← Action.look fun s => t.settings.format (s.items id))
  | .populate, [v] => ev.populateValue t v named
  | .populate, [] =>
    match named.lookup "tokens" with
    | some v => ev.populateValue t v (named.filter (·.1 != "tokens"))
    | none => Action.failWith .type
  | _, _ => Action.failWith .type

/-- Calls a method of a text. -/
def callTextMethod (self : Value) (m : TextMethod) (args : List Value) (named : Bindings) :
    Action Value := do
  match m with
  | .join =>
    noNames named
    match args with
    | [v] =>
      let items ← ev.itemsOf v
      let texts ← Action.ofExcept (items.mapM textIn)
      match items with
      | [u] => return u
      | _ => Action.text ((← Action.ofExcept (textIn self)).intercalate texts)
    | _ => Action.failWith .type
  | .split => do
    onlyNames ["sep", "maxsplit"] named
    let sep := (← optionalArgument args named 0 "sep").getD .none
    let limit := (← optionalArgument args named 1 "maxsplit").getD (.ofInt (-1))
    if 2 < args.length then Action.failWith .type
    else Action.make (·.textMethod .split self [sep, limit])
  | m => do
    noNames named
    Action.make (·.textMethod m self args)

/-- Calls a method of a value. -/
def callMethodOf (self : Value) (m : Method) (args : List Value) (named : Bindings) :
    Action Value := do
  match m, self with
  | .text m, .text .. => ev.callTextMethod self m args named
  | .list m, self => do
    noNames named
    callListMethod self m args
  | .dict m, self => do
    noNames named
    callDictMethod self m args
  | .receiver m, .receiver id => ev.callReceiver id m args named
  | .template m, self =>
    match ← Action.look (·.objectOf? self) with
    | some (.template t) => ev.callTemplateMethod t m args named
    | _ => Action.failWith .type
  | _, _ => Action.failWith .type

/-- Calls a method of a value, or of a kind, which takes the value as its first argument. -/
def callMethod (self : Value) (m : Method) (args : List Value) (named : Bindings) :
    Action Value := do
  match self, args with
  | .kind k, v :: args =>
    if (← Action.look (·.kindOf v)) = k then ev.callMethodOf v m args named
    else Action.failWith .type
  | .kind _, [] => Action.failWith .type
  | self, args => ev.callMethodOf self m args named

/-! ### Calling a value -/

/-- **Calls a value.** -/
def callValue (f : Value) (args : List Value) (named : Bindings) : Action Value := do
  match f, ← Action.look (·.objectOf? f) with
  | .function f, _ => ev.callFunction f args named
  | .kind k, _ => ev.makeKind k args named
  | _, some (.closure parameters body own scope) =>
    ev.callClosure parameters body own scope args named
  | _, some (.method self m) => ev.callMethod self m args named
  | _, some (.probe returns) =>
    noNames named
    Action.keepCall args
    return (returns.or args.head?).getD .none
  | _, _ => Action.failWith .type

end Evaluator

end TokenTemplate
