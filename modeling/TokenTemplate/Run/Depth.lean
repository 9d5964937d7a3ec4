import TokenTemplate.Evaluation.Call
import TokenTemplate.Evaluation.Expression
import TokenTemplate.Run.Routine

/-!
# Evaluators of a given depth

The rules for expressions, calls, iterators and routines are each written for one level, in terms of an
evaluator for the levels below. Here they are tied together: `TokenTemplate.Evaluator.ofDepth` follows
the rules down to a given depth, below which everything fails, as a payload that never ends does. How many
calls can be open inside each other is bounded apart, since an expression is as deep as its text is long
but calls are what a payload goes astray with.
-/

namespace TokenTemplate

namespace Evaluator

/-- The evaluator for which every payload is too deep. -/
def atEnd : Evaluator where
  eval _ _ := Action.failWith .recursion
  call _ _ _ := Action.failWith .recursion
  next _ := Action.failWith .recursion
  populate _ _ _ := Action.failWith .recursion

/-- **The evaluator that goes a number of levels down**, through at most `calls` calls and items that are
computed inside each other. -/
def ofDepth : (depth calls : Nat) → Evaluator
  | 0, _ => atEnd
  | _ + 1, 0 => atEnd
  | depth + 1, calls + 1 =>
    { eval := fun sc e => (ofDepth depth (calls + 1)).evalExpr sc e
      call := fun f args named => (ofDepth depth calls).callValue f args named
      next := fun id => (ofDepth depth calls).nextItem id
      populate := fun t id b => t.run (ofDepth depth calls) id b }

/-- How deep payloads can be nested in each other when they run. -/
def depthLimit : Nat :=
  12000

/-- How many calls can be open inside each other. -/
def callLimit : Nat :=
  985

/-- The evaluator of all runs. -/
def standard : Evaluator :=
  ofDepth depthLimit callLimit

end Evaluator

end TokenTemplate
