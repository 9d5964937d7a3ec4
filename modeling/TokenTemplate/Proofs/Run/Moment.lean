import TokenTemplate.Proofs.Run.Ending
import TokenTemplate.Run.Routine

/-!
# What happens when a routine runs

A run executes one instruction after another, and some of them run the bodies that they hold. The
instructions that are executed, each with the environment and the store of its time, are the
`TokenTemplate.Moment`s of the run that are `TokenTemplate.Moment.Reached`: those of the routine
itself, and those of the bodies that an instruction enters (`TokenTemplate.Moment.Enters`). A moment
is reached whether or not the run comes to an end later. With it goes a row of
`TokenTemplate.Layer`s, which says what the bodies around it are run for.

Apart from entering bodies an instruction does a few things itself, `TokenTemplate.Moment.Does`: it
evaluates, asks for the next item, matches, and writes. This is all that a run consists of, so what
is obeyed by everything that its instructions do is obeyed by the run
(`TokenTemplate.Stretch.obeys_of_reached`).
-/

namespace TokenTemplate

/-! ### Moments -/

/-- An instruction that is executed, and where the run has got to. -/
structure Moment where
  /-- The instruction. -/
  instruction : Instruction
  /-- What names stand for. -/
  env : Environment
  /-- The name of the template. -/
  filename : String
  /-- The store before it. -/
  store : Store

/-- Some instructions that are to be executed, and where the run has got to. -/
structure Stretch where
  /-- The instructions. -/
  instructions : List Instruction
  /-- What names stand for. -/
  env : Environment
  /-- The name of the template. -/
  filename : String
  /-- The store before them. -/
  store : Store

/-- A routine that is to be run. -/
def Routine.stretch (r : Routine) (env : Environment) (s : Store) : Stretch :=
  ⟨r.instructions, env, r.filename, s⟩

/-- A routine that is to be run on a receiver with some bindings. -/
def Routine.start (r : Routine) (target : Nat) (b : Bindings) (s : Store) : Stretch :=
  r.stretch [b.set r.receiver (.receiver target)] s

/-- A loop in an environment. -/
structure Loop where
  /-- What every item has to match. -/
  pattern : Case
  /-- Where the items are from. -/
  source : Expression
  /-- What is run for every item. -/
  body : Routine
  /-- What is run between two items. -/
  join : Option Routine
  /-- What names stand for around it. -/
  env : Environment
  /-- The name of the template. -/
  filename : String

/-- The moment at which a loop begins. -/
def Loop.moment (l : Loop) (s : Store) : Moment :=
  ⟨.iterate l.pattern l.source l.body l.join, l.env, l.filename, s⟩

/-- **What a body is run for**, if this adds to the bindings around it. -/
inductive Layer
  /-- For a loop item, which captured something; or before the next one, if the body is a join. -/
  | item (captured : Bindings)
  /-- For a value that matched, and captured something. -/
  | arm (captured : Bindings)
  /-- Under a name for the receiver, or under none. -/
  | scope (name : Option String)

/-- The bindings that a layer adds. -/
def Layer.bindings (target : Nat) : Layer → Bindings
  | .item captured => captured
  | .arm captured => captured
  | .scope none => []
  | .scope (some n) => [(n, .receiver target)]

section Run

variable (ev : Evaluator) (target : Nat)

/-- Executes the instruction of a moment. -/
def Moment.run (m : Moment) : Action Unit :=
  m.instruction.execute ev target m.env m.filename

/-- Executes the instructions of a stretch. -/
def Stretch.run (st : Stretch) : Action Unit :=
  executeAll ev target st.env st.filename st.instructions

/-! ### Loops and matches -/

/-- What is run before the body of an item: the join of the item before it, in the environment that
the body of that item was run in. -/
def Loop.between (l : Loop) : Option (Bindings × Environment) → Action Unit
  | none => pure ()
  | some (_, env) => executeOptional ev target l.join env

/-- **The turns of a loop** that begins in a store: the iterator, how many more turns there may be,
what the last item captured together with the environment that its body was run in, and the store
that has been got to. -/
inductive Loop.Turns (l : Loop) (s : Store) :
    Nat → Nat → Option (Bindings × Environment) → Store → Prop
  /-- No turn yet. -/
  | start {v : Value} {it : Nat} {t u : Store}
      (hsource : (l.source.evaluate ev l.env.flatten l.filename).Gives s v t)
      (hitems : (Evaluator.loopItems l.source l.filename v).Gives t it u) :
      Turns l s it loopLimit none u
  /-- One more turn. -/
  | turn {it fuel : Nat} {previous : Option (Bindings × Environment)} {v : Value} {b : Bindings}
      {t u w x y : Store} (h : Turns l s it (fuel + 1) previous t)
      (hnext : (ev.next it).Gives t (some v) u)
      (hcaptures : (l.pattern.captures ev v l.env.flatten l.filename).Gives u (some b) w)
      (hjoin : (l.between ev target previous).Gives w () x)
      (hbody : (l.body.execute ev target (l.env.child b)).Gives x () y) :
      Turns l s it fuel (some (b, l.env.child b)) y

/-- **Arms that a value does not match**, one after another. -/
inductive Skips (env : Environment) (filename : String) (v : Value) :
    List (Case × Routine) → Store → Store → Prop
  /-- There are no more. -/
  | nil {s : Store} : Skips env filename v [] s s
  /-- An arm, and those after it. -/
  | cons {c : Case} {body : Routine} {arms : List (Case × Routine)} {s t u : Store}
      (hcaptures : (c.captures ev v env.flatten filename).Gives s none t)
      (h : Skips env filename v arms t u) : Skips env filename v ((c, body) :: arms) s u

/-! ### What instructions do -/

/-- What an instruction can do itself. -/
inductive Deed
  /-- Writes a text. -/
  | text (text : String)
  /-- Writes a mark for white space. -/
  | space (w : Whitespace)
  /-- Writes a value. -/
  | value (v : Value)
  /-- Complains about a name that is not bound. -/
  | unknown (name : String) (span : Span)
  /-- Evaluates an expression. -/
  | evaluate (x : Expression)
  /-- Gets the text of a value. -/
  | textOf (v : Value)
  /-- Gets an iterator for the items of a value. -/
  | items (source : Expression) (v : Value)
  /-- Gets the next item. -/
  | next (it : Nat)
  /-- Matches a value. -/
  | captures (c : Case) (v : Value)
  /-- Complains about an item that does not match. -/
  | mismatch (c : Case) (v : Value)
  /-- Gives up a loop. -/
  | giveUp
  /-- Complains about something that is no instruction. -/
  | unsupported (text : String)

/-- Does it. -/
def Deed.run (env : Environment) (filename : String) : Deed → Action Unit
  | .text t => Action.writeText target t
  | .space w => Action.writeSpace target w
  | .value v => ev.write target v
  | .unknown n span => Action.fail (.reported ⟨.unknownIdentifier n, span, filename⟩)
  | .evaluate x => discard (x.evaluate ev env.flatten filename)
  | .textOf v => discard (Action.ofStore (·.textOf v))
  | .items source v => discard (Evaluator.loopItems source filename v)
  | .next it => discard (ev.next it)
  | .captures c v => discard (c.captures ev v env.flatten filename)
  | .mismatch c v => do
    let item ← Action.ofStore (·.shown v)
    Action.fail (.reported ⟨.itemMismatch item c.source, c.span, filename⟩)
  | .giveUp => Action.fail .exhausted
  | .unsupported t => Action.fail (.explained .runtime ("Unsupported instruction " ++ t))

namespace Moment

/-- **What an instruction does itself**, and in which store. -/
inductive Does : Moment → Deed → Store → Prop
  /-- A text is written. -/
  | append {text : String} {env : Environment} {filename : String} {s : Store} :
      Does ⟨.append text, env, filename, s⟩ (.text text) s
  /-- A mark is written. -/
  | layout {w : Whitespace} {env : Environment} {filename : String} {s : Store} :
      Does ⟨.layout w, env, filename, s⟩ (.space w) s
  /-- What a name is bound to is written. -/
  | name {n : String} {span : Span} {v : Value} {env : Environment} {filename : String} {s : Store}
      (h : env.get? n = some v) : Does ⟨.spliceName n span, env, filename, s⟩ (.value v) s
  /-- A name is not bound. -/
  | unknown {n : String} {span : Span} {env : Environment} {filename : String} {s : Store}
      (h : env.get? n = none) : Does ⟨.spliceName n span, env, filename, s⟩ (.unknown n span) s
  /-- An expression is evaluated. -/
  | splice {x : Expression} {env : Environment} {filename : String} {s : Store} :
      Does ⟨.splice x, env, filename, s⟩ (.evaluate x) s
  /-- Its value is written. -/
  | spliced {x : Expression} {v : Value} {env : Environment} {filename : String} {s t : Store}
      (h : (x.evaluate ev env.flatten filename).Gives s v t) :
      Does ⟨.splice x, env, filename, s⟩ (.value v) t
  /-- An expression in a text is evaluated. -/
  | site {before after : List Segment} {x : Expression} {texts : List String} {env : Environment}
      {filename : String} {s t : Store}
      (h : (before.mapM (Segment.text ev env filename)).Gives s texts t) :
      Does ⟨.interpolate (before ++ .site x :: after), env, filename, s⟩ (.evaluate x) t
  /-- The text of its value is used. -/
  | sited {before after : List Segment} {x : Expression} {texts : List String} {v : Value}
      {env : Environment} {filename : String} {s t u : Store}
      (h : (before.mapM (Segment.text ev env filename)).Gives s texts t)
      (hv : (x.evaluate ev env.flatten filename).Gives t v u) (hne : v ≠ .none) :
      Does ⟨.interpolate (before ++ .site x :: after), env, filename, s⟩ (.textOf v) u
  /-- The whole text is written. -/
  | interpolated {segments : List Segment} {texts : List String} {env : Environment}
      {filename : String} {s t : Store}
      (h : (segments.mapM (Segment.text ev env filename)).Gives s texts t) :
      Does ⟨.interpolate segments, env, filename, s⟩ (.text (String.join texts)) t
  /-- A condition is evaluated. -/
  | condition {x : Expression} {yes : Routine} {no : Option Routine} {env : Environment}
      {filename : String} {s : Store} : Does ⟨.branch x yes no, env, filename, s⟩ (.evaluate x) s
  /-- The source of a loop is evaluated. -/
  | source {l : Loop} {s : Store} : Does (l.moment s) (.evaluate l.source) s
  /-- Its items are asked for. -/
  | items {l : Loop} {v : Value} {s t : Store}
      (h : (l.source.evaluate ev l.env.flatten l.filename).Gives s v t) :
      Does (l.moment s) (.items l.source v) t
  /-- The next item is asked for. -/
  | next {l : Loop} {it fuel : Nat} {previous : Option (Bindings × Environment)} {s t : Store}
      (h : l.Turns ev target s it (fuel + 1) previous t) : Does (l.moment s) (.next it) t
  /-- An item is matched. -/
  | item {l : Loop} {it fuel : Nat} {previous : Option (Bindings × Environment)} {v : Value}
      {s t u : Store} (h : l.Turns ev target s it (fuel + 1) previous t)
      (hnext : (ev.next it).Gives t (some v) u) : Does (l.moment s) (.captures l.pattern v) u
  /-- An item does not match. -/
  | mismatch {l : Loop} {it fuel : Nat} {previous : Option (Bindings × Environment)} {v : Value}
      {s t u w : Store} (h : l.Turns ev target s it (fuel + 1) previous t)
      (hnext : (ev.next it).Gives t (some v) u)
      (hcaptures : (l.pattern.captures ev v l.env.flatten l.filename).Gives u none w) :
      Does (l.moment s) (.mismatch l.pattern v) w
  /-- A loop has too many items. -/
  | giveUp {l : Loop} {it : Nat} {previous : Option (Bindings × Environment)} {s t : Store}
      (h : l.Turns ev target s it 0 previous t) : Does (l.moment s) .giveUp t
  /-- The subject of a match is evaluated. -/
  | subject {x : Expression} {arms : List (Case × Routine)} {env : Environment}
      {filename : String} {s : Store} : Does ⟨.dispatch x arms, env, filename, s⟩ (.evaluate x) s
  /-- It is matched, if it does not match the arms before. -/
  | arm {x : Expression} {before after : List (Case × Routine)} {c : Case} {body : Routine}
      {v : Value} {env : Environment} {filename : String} {s t u : Store}
      (h : (x.evaluate ev env.flatten filename).Gives s v t)
      (hskips : Skips ev env filename v before t u) :
      Does ⟨.dispatch x (before ++ (c, body) :: after), env, filename, s⟩ (.captures c v) u
  /-- Something is no instruction. -/
  | unsupported {text : String} {env : Environment} {filename : String} {s : Store} :
      Does ⟨.unsupported text, env, filename, s⟩ (.unsupported text) s

/-- **The bodies that an instruction enters**: where each is run, and what for. -/
inductive Enters : Moment → Option Layer → Stretch → Prop
  /-- The body of a condition that holds. -/
  | yes {x : Expression} {yes : Routine} {no : Option Routine} {v : Value} {env : Environment}
      {filename : String} {s t : Store} (h : (x.evaluate ev env.flatten filename).Gives s v t)
      (htruth : t.truth v = true) :
      Enters ⟨.branch x yes no, env, filename, s⟩ none (yes.stretch env t)
  /-- The body of a condition that does not hold. -/
  | no {x : Expression} {yes no : Routine} {v : Value} {env : Environment} {filename : String}
      {s t : Store} (h : (x.evaluate ev env.flatten filename).Gives s v t)
      (htruth : t.truth v = false) :
      Enters ⟨.branch x yes (some no), env, filename, s⟩ none (no.stretch env t)
  /-- The join of a loop, once another item has matched. It is run for the item before. -/
  | join {l : Loop} {join : Routine} {it fuel : Nat} {captured b : Bindings} {env : Environment}
      {v : Value} {s t u w : Store} (hjoin : l.join = some join)
      (h : l.Turns ev target s it (fuel + 1) (some (captured, env)) t)
      (hnext : (ev.next it).Gives t (some v) u)
      (hcaptures : (l.pattern.captures ev v l.env.flatten l.filename).Gives u (some b) w) :
      Enters (l.moment s) (some (.item captured)) (join.stretch env w)
  /-- The body of a loop. -/
  | body {l : Loop} {it fuel : Nat} {previous : Option (Bindings × Environment)} {v : Value}
      {b : Bindings} {s t u w x : Store} (h : l.Turns ev target s it (fuel + 1) previous t)
      (hnext : (ev.next it).Gives t (some v) u)
      (hcaptures : (l.pattern.captures ev v l.env.flatten l.filename).Gives u (some b) w)
      (hjoin : (l.between ev target previous).Gives w () x) :
      Enters (l.moment s) (some (.item b)) (l.body.stretch (l.env.child b) x)
  /-- The body of the first arm that the subject matches. -/
  | arm {x : Expression} {before after : List (Case × Routine)} {c : Case} {body : Routine}
      {v : Value} {b : Bindings} {env : Environment} {filename : String} {s t u w : Store}
      (h : (x.evaluate ev env.flatten filename).Gives s v t)
      (hskips : Skips ev env filename v before t u)
      (hcaptures : (c.captures ev v env.flatten filename).Gives u (some b) w) :
      Enters ⟨.dispatch x (before ++ (c, body) :: after), env, filename, s⟩ (some (.arm b))
        (body.stretch (env.child b) w)
  /-- The body under a name for the receiver. -/
  | scope {name : Option String} {body : Routine} {env : Environment} {filename : String}
      {s : Store} : Enters ⟨.rebind name body, env, filename, s⟩ (some (.scope name))
        (body.stretch (env.child ((Layer.scope name).bindings target)) s)

end Moment

/-- **The moments of a stretch**: those of its instructions before which nothing fails. -/
inductive Stretch.Meets : Stretch → Moment → Prop
  /-- The instructions before are executed first. -/
  | mk {before after : List Instruction} {i : Instruction} {env : Environment} {filename : String}
      {s t : Store} (h : (executeAll ev target env filename before).Gives s () t) :
      Meets ⟨before ++ i :: after, env, filename, s⟩ ⟨i, env, filename, t⟩

/-- **The moments that a run gets to**, with the layers around them, the outermost first. -/
inductive Moment.Reached (start : Stretch) : List Layer → Moment → Prop
  /-- Those of the routine itself. -/
  | first {m : Moment} (h : start.Meets ev target m) : Reached start [] m
  /-- Those of a body that is entered. -/
  | next {layers : List Layer} {layer : Option Layer} {m m' : Moment} {st : Stretch}
      (h : Reached start layers m) (henters : m.Enters ev target layer st)
      (hmeets : st.Meets ev target m') : Reached start (layers ++ layer.toList) m'

end Run

end TokenTemplate
