import TokenTemplate.Value.Basic

/-!
# Environments

What names stand for while a routine runs: rows of bindings, the innermost first. Payloads see all
of them at once, `TokenTemplate.Environment.flatten`, where inner bindings hide outer ones.
-/

namespace TokenTemplate

/-- Rows of bindings, the innermost first. -/
abbrev Environment :=
  List Bindings

namespace Environment

/-- Binds a name in the innermost row. -/
def define (env : Environment) (n : String) (v : Value) : Environment :=
  match env with
  | [] => [[(n, v)]]
  | b :: outer => b.set n v :: outer

/-- What a name is bound to: in the innermost row that has it. -/
def get? (env : Environment) (n : String) : Option Value :=
  match env with
  | [] => none
  | b :: outer => (b.lookup n).or (get? outer n)

/-- An environment with a row of its own inside another one. -/
def child (env : Environment) (b : Bindings) : Environment :=
  b :: env

/-- **All bindings that can be seen.** -/
def flatten : Environment → Bindings
  | [] => []
  | b :: outer => (flatten outer).update b

end Environment

end TokenTemplate
