import TokenTemplate.Evaluation.Statement
import TokenTemplate.Evaluation.Receiver
import TokenTemplate.Routine.Basic
import TokenTemplate.Run.Environment

/-!
# Running routines

A routine writes to one receiver, from its first instruction to its last, `TokenTemplate.Routine.run`.
Its instructions leave the environment alone: a body that needs names of its own runs in an environment
inside the one around it. So nothing that a finished body has bound is ever seen again.

The first fault ends the run; what was written up to there stays.
-/

namespace TokenTemplate

namespace Segment

/-- The text that a part of an interpolated text contributes: nothing for the absent value. -/
def text (ev : Evaluator) (env : Environment) (filename : String) : Segment → Action String
  | literal t => return t
  | site e => do
    match ← e.evaluate ev env.flatten filename with
    | .none => return ""
    | v => Action.ofStore (·.textOf v)

end Segment

namespace Evaluator

variable (ev : Evaluator)

/-- The iterator for the items of a loop source. -/
def loopItems (source : Expression) (filename : String) (v : Value) : Action Nat :=
  (Action.iterate v).reword fun
    | .raised ⟨.type, _⟩ => .reported ⟨.notIterable source.source, source.span, filename⟩
    | e => e

/-- What a loop item captures; it has to match the pattern. -/
def loopCaptures (pattern : Case) (env : Environment) (filename : String) (v : Value) :
    Action Bindings := do
  match ← pattern.captures ev v env.flatten filename with
  | some b => return b
  | none =>
    let item ← Action.ofStore (·.shown v)
    Action.fail (.reported ⟨.itemMismatch item pattern.source, pattern.span, filename⟩)

/-- One turn of a loop. The join stands between two items, so it waits until the second one has
matched; it belongs to the first one, in whose environment it runs. -/
def loopTurn (pattern : Case) (env : Environment) (filename : String)
    (body join : Environment → Action Unit) (previous : Option Environment) (item : Option Value) :
    Action (Option Environment ⊕ Unit) := do
  match item with
  | none => return .inr ()
  | some v =>
    let inner := env.child (← ev.loopCaptures pattern env filename v)
    match previous with
    | some outer => join outer
    | none => pure ()
    body inner
    return .inl (some inner)

end Evaluator

mutual

/-- **Runs the instructions of a routine.** -/
def Routine.execute (ev : Evaluator) (target : Nat) (env : Environment) : Routine → Action Unit
  | ⟨_, instructions, filename⟩ => executeAll ev target env filename instructions

/-- Runs some instructions, one after the other. -/
def executeAll (ev : Evaluator) (target : Nat) (env : Environment) (filename : String) :
    List Instruction → Action Unit
  | [] => return
  | i :: rest => do
    i.execute ev target env filename
    executeAll ev target env filename rest

/-- Runs an instruction. -/
def Instruction.execute (ev : Evaluator) (target : Nat) (env : Environment) (filename : String) :
    Instruction → Action Unit
  | .append text => Action.writeText target text
  | .layout w => Action.writeSpace target w
  | .spliceName n span => do
    match env.get? n with
    | some v => ev.write target v
    | none => Action.fail (.reported ⟨.unknownIdentifier n, span, filename⟩)
  | .splice e => do ev.write target (← e.evaluate ev env.flatten filename)
  | .interpolate segments => do
    let texts ← segments.mapM (Segment.text ev env filename)
    Action.writeText target (String.join texts)
  | .branch condition yes no => do
    let v ← condition.evaluate ev env.flatten filename
    if ← Action.look (·.truth v) then yes.execute ev target env
    else executeOptional ev target no env
  | .iterate pattern source body join => do
    let v ← source.evaluate ev env.flatten filename
    let items ← Evaluator.loopItems source filename v
    let turn := ev.loopTurn pattern env filename
      (fun inner => body.execute ev target inner) (fun inner => executeOptional ev target join inner)
    ev.loop turn items loopLimit none
  | .dispatch subject arms => do
    let v ← subject.evaluate ev env.flatten filename
    executeArms ev target env filename v arms
  | .rebind none body => body.execute ev target (env.child [])
  | .rebind (some n) body => body.execute ev target (env.child [(n, .receiver target)])
  | .unsupported text =>
    Action.fail (.explained .runtime ("Unsupported instruction " ++ text))

/-- Runs a routine, if there is one. -/
def executeOptional (ev : Evaluator) (target : Nat) :
    Option Routine → Environment → Action Unit
  | none, _ => return
  | some r, env => r.execute ev target env

/-- Runs the routine of the first case that a value matches. -/
def executeArms (ev : Evaluator) (target : Nat) (env : Environment) (filename : String)
    (v : Value) : List (Case × Routine) → Action Unit
  | [] => return
  | (c, body) :: rest => do
    match ← c.captures ev v env.flatten filename with
    | some b => body.execute ev target (env.child b)
    | none => executeArms ev target env filename v rest

end

/-- **Runs a routine on a receiver**, with some bindings and its name for the receiver. -/
def Routine.run (ev : Evaluator) (r : Routine) (target : Nat) (b : Bindings) : Action Unit :=
  r.execute ev target [b.set r.receiver (.receiver target)]

/-- **Runs a template on a receiver**, with some bindings, none of which may have one of its own names. -/
def Template.run (ev : Evaluator) (t : Template) (target : Nat) (b : Bindings) : Action Unit :=
  if b.any fun p => Template.ownNames.contains p.1 then Action.failWith .type
  else t.routine.run ev target b

end TokenTemplate
