import TokenTemplate.Evaluation.Match

/-!
# Running statements

What a statement does, `TokenTemplate.Evaluator.runStatement`, and how it ends: the next statement follows, or
a loop is left or begins anew, or the program ends with a value.

The program of a case runs in a scope of its own, `TokenTemplate.Case.captures`. It has a name for the
subject and the names that the program binds, none of which has a value at first. The dictionary that is
its result says what the case captures. Programs and expressions report whatever fails in them.
-/

namespace TokenTemplate

/-- How a statement ends. -/
inductive Flow
  /-- The next statement follows. -/
  | next
  /-- The loop around it is left. -/
  | leave
  /-- The loop around it begins its next turn. -/
  | again
  /-- The program ends with a value. -/
  | result (v : Value)
  deriving DecidableEq, Repr, Inhabited

namespace Evaluator

variable (ev : Evaluator)

/-! ### Taking away -/

/-- Takes an element out of a list or a dictionary. -/
def deleteElement (container i : Value) : Action Unit := do
  match container, ← Action.look (·.objectOf? container) with
  | .object id, some (.dict entries) =>
    match ← Action.ofStore (·.lookup? id i) with
    | none => Action.fail (← Action.ofStore (·.keyError i))
    | some _ =>
      let left ← Action.ofStore fun s => entries.filterM fun p => (!·) <$> s.sameOrEqual p.1 i
      Action.setObject id (.dict left)
  | .object id, some (.list items) =>
    match i.whole? with
    | none => Action.failWith .type
    | some n =>
      match position? items.size n with
      | some k => Action.setObject id (.list (items.eraseIdxIfInBounds k))
      | none => Action.fail (.explained .index "list assignment index out of range")
  | _, _ => Action.failWith .type

/-- Takes an attribute away from a record. -/
def deleteAttribute (v : Value) (n : String) : Action Unit := do
  match v, ← Action.look (·.objectOf? v) with
  | .object id, some (.record fields) =>
    if (fields.lookup n).isSome then
      Action.setObject id (.record (fields.filter fun p => p.1 != n))
    else Action.failWith .attribute
  | _, _ => Action.failWith .attribute

/-- Takes a target of at most `fuel` levels of parts away. -/
def deleteTarget (sc : Scope) : (fuel : Nat) → Payload.Target → Action Unit
  | 0, _ => Action.failWith .recursion
  | fuel + 1, target =>
    match target with
    | .name n => sc.unbindHere n
    | .attribute e n => do deleteAttribute (← ev.eval sc e) n
    | .index e i => do
      let container ← ev.eval sc e
      deleteElement container (← ev.eval sc i)
    | .starred t => deleteTarget sc fuel t
    | .parts targets => targets.forM (deleteTarget sc fuel)

/-! ### Statements -/

/-- Whether a guard holds, if there is one. -/
def guardHolds (sc : Scope) (guard : Option Payload.Expr) : Action Bool := do
  match guard with
  | none => return true
  | some e =>
    let v ← ev.eval sc e
    Action.look (·.truth v)

/-- Whether a case with a pattern and a guard is the one for a subject; if the pattern matches, its names
are bound before the guard is evaluated, and stay bound. -/
def isCase (sc : Scope) (subject : Value) (p : Payload.Pattern) (guard : Option Payload.Expr) :
    Action Bool := do
  match ← sc.matchPattern subject p with
  | none => return false
  | some b =>
    b.forM fun q => sc.bindHere q.1 q.2
    ev.guardHolds sc guard

mutual

/-- **Runs a statement.** -/
def runStatement (sc : Scope) : Payload.Statement → Action Flow
  | .expression e => do
    discard (ev.eval sc e)
    return .next
  | .assign targets e => do
    let v ← ev.eval sc e
    targets.forM fun t => ev.assignTarget sc targetDepth t [v]
    return .next
  | .delete targets => do
    targets.forM (ev.deleteTarget sc targetDepth)
    return .next
  | .pass => return .next
  | .leave => return .leave
  | .again => return .again
  | .result none => return .result .none
  | .result (some e) => do return .result (← ev.eval sc e)
  | .branch test yes no => do
    let v ← ev.eval sc test
    if ← Action.look (·.truth v) then runStatements sc yes else runStatements sc no
  | .loop test body last =>
    untilDone (do
      let v ← ev.eval sc test
      if ← Action.look (·.truth v) then
        match ← runStatements sc body with
        | .leave => return some .next
        | .result v => return some (.result v)
        | _ => return none
      else return some (← runStatements sc last)) loopLimit
  | .iterate target source body last => do
    let items ← ev.iterateSource sc source
    ev.loop (fun (_ : Unit) item =>
      match item with
      | none => do return .inr (← runStatements sc last)
      | some v => do
        ev.assignTarget sc targetDepth target [v]
        match ← runStatements sc body with
        | .leave => return .inr .next
        | .result v => return .inr (.result v)
        | _ => return .inl ()) items loopLimit ()
  | .cases subject arms => do
    let v ← ev.eval sc subject
    runCases sc v arms

/-- Runs statements up to one that does not go on to the next. -/
def runStatements (sc : Scope) : List Payload.Statement → Action Flow
  | [] => return .next
  | s :: rest => do
    match ← runStatement sc s with
    | .next => runStatements sc rest
    | flow => return flow

/-- Runs the block of the first case for a subject. -/
def runCases (sc : Scope) (subject : Value) :
    List (Payload.Pattern × Option Payload.Expr × List Payload.Statement) → Action Flow
  | [] => return .next
  | (p, guard, body) :: rest => do
    if ← ev.isCase sc subject p guard then runStatements sc body else runCases sc subject rest

end

end Evaluator

/-! ### Cases -/

namespace Case

/-- The result of the program of a case for a subject. -/
def run (ev : Evaluator) (c : Case) (subject : Value) (sc : Scope) : Action Value := do
  let inner ← sc.enter (subjectName :: c.program.own.filter (· != subjectName)) false
  inner.bindHere subjectName subject
  match ← ev.runStatements inner c.program.statements with
  | .result v => return v
  | _ => return .none

/-- A fault of a case as a report about it. -/
def report (c : Case) (filename : String) (e : Fault) : Fault :=
  match e.cause? with
  | some cause => .reported ⟨.matching c.source cause, c.span, filename⟩
  | none => e

/-- The bindings that the result of a case stands for. -/
def bindings? (s : Store) (v : Value) : Option Bindings :=
  match s.objectOf? v with
  | some (.dict entries) =>
    some (entries.filterMap fun p => match p.1 with
      | .text n _ => some (n, p.2)
      | _ => none)
  | _ => if s.truth v then none else some []

/-- **What a case captures of a subject**, where some names are bound; nothing if the subject does not
match. Whatever fails is reported. -/
def captures (ev : Evaluator) (c : Case) (subject : Value) (b : Bindings) (filename : String) :
    Action (Option Bindings) := do
  match ← (do c.run ev subject (← Scope.ofBindings b) : Action Value).reword (c.report filename) with
  | .none => return none
  | v =>
    match ← Action.look (bindings? · v) with
    | some b => return some b
    | none => Action.failWith .type

end Case

namespace Expression

/-- A fault of an expression as a report about it. -/
def report (x : Expression) (filename : String) (e : Fault) : Fault :=
  match e.cause? with
  | some cause => .reported ⟨.evaluation x.source cause, x.span, filename⟩
  | none => e

/-- **The value of an expression** where some names are bound. Whatever fails is reported. -/
def evaluate (ev : Evaluator) (x : Expression) (b : Bindings) (filename : String) : Action Value :=
  (do ev.eval (← Scope.ofBindings b) x.tree : Action Value).reword (x.report filename)

end Expression

end TokenTemplate
