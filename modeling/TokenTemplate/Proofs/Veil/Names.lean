import TokenTemplate.Payload.Located
import TokenTemplate.Routine.Basic

/-!
# The names that payloads look up

A payload can only get hold of what it has a name for. Here it is said which names a payload looks up,
without running it: `TokenTemplate.Payload.Expr.KeepsTo` is a relation between an expression and the
names that are free for it to use. A name of an enclosing function or comprehension is always its own
business, whatever it means further out.

Two names are never free, since they lead to all others: `locals`, unless it is called right where the
names of a function are meant, and `__builtins__`.
-/

namespace TokenTemplate.Payload

/-! ### Names -/

/-- The names that lead to all others. -/
def openingNames : List String :=
  ["locals", "__builtins__"]

/-- **A name can be looked up** where some names are free, inside some functions with names of their
own. -/
def MayUse (free : String → Prop) (own : Option (List String)) (n : String) : Prop :=
  n ∈ own.getD [] ∨ free n ∧ n ∉ openingNames

/-- The names of a function or comprehension, and of those around it. -/
def within (own : Option (List String)) (names : List String) : Option (List String) :=
  some (names ++ own.getD [])

variable (free : String → Prop)

/-! ### Expressions -/

mutual

/-- **An expression looks up no names but those that are free**, and those of the functions around it. -/
inductive Expr.KeepsTo : Option (List String) → Expr → Prop
  | constant {own : Option (List String)} {c : Constant} : Expr.KeepsTo own (.constant c)
  | name {own : Option (List String)} {n : String} (h : MayUse free own n) : Expr.KeepsTo own (.name n)
  | tuple {own : Option (List String)} {items : List Expr} (h : ∀ e ∈ items, Expr.KeepsTo own e) :
      Expr.KeepsTo own (.tuple items)
  | list {own : Option (List String)} {items : List Expr} (h : ∀ e ∈ items, Expr.KeepsTo own e) :
      Expr.KeepsTo own (.list items)
  | set {own : Option (List String)} {items : List Expr} (h : ∀ e ∈ items, Expr.KeepsTo own e) :
      Expr.KeepsTo own (.set items)
  | dict {own : Option (List String)} {entries : List Entry}
      (hkey : ∀ k v, .pair k v ∈ entries → Expr.KeepsTo own k)
      (hvalue : ∀ k v, .pair k v ∈ entries → Expr.KeepsTo own v)
      (hspread : ∀ e, .spread e ∈ entries → Expr.KeepsTo own e) : Expr.KeepsTo own (.dict entries)
  | starred {own : Option (List String)} {e : Expr} (h : Expr.KeepsTo own e) : Expr.KeepsTo own (.starred e)
  | unary {own : Option (List String)} {op : UnaryOp} {e : Expr} (h : Expr.KeepsTo own e) :
      Expr.KeepsTo own (.unary op e)
  | binary {own : Option (List String)} {op : BinaryOp} {l r : Expr} (hl : Expr.KeepsTo own l)
      (hr : Expr.KeepsTo own r) : Expr.KeepsTo own (.binary op l r)
  | both {own : Option (List String)} {l r : Expr} (hl : Expr.KeepsTo own l) (hr : Expr.KeepsTo own r) :
      Expr.KeepsTo own (.both l r)
  | either {own : Option (List String)} {l r : Expr} (hl : Expr.KeepsTo own l) (hr : Expr.KeepsTo own r) :
      Expr.KeepsTo own (.either l r)
  | compare {own : Option (List String)} {first : Expr} {rest : List (CompareOp × Expr)}
      (hfirst : Expr.KeepsTo own first) (hrest : ∀ op e, (op, e) ∈ rest → Expr.KeepsTo own e) :
      Expr.KeepsTo own (.compare first rest)
  | conditional {own : Option (List String)} {test yes no : Expr} (htest : Expr.KeepsTo own test)
      (hyes : Expr.KeepsTo own yes) (hno : Expr.KeepsTo own no) : Expr.KeepsTo own (.conditional test yes no)
  | assign {own : Option (List String)} {n : String} {e : Expr} (h : Expr.KeepsTo own e) :
      Expr.KeepsTo own (.assign n e)
  | attribute {own : Option (List String)} {e : Expr} {n : String} (h : Expr.KeepsTo own e) :
      Expr.KeepsTo own (.attribute e n)
  | index {own : Option (List String)} {e i : Expr} (he : Expr.KeepsTo own e) (hi : Expr.KeepsTo own i) :
      Expr.KeepsTo own (.index e i)
  | slice {own : Option (List String)} {low high step : Option Expr}
      (hlow : ∀ e, low = some e → Expr.KeepsTo own e) (hhigh : ∀ e, high = some e → Expr.KeepsTo own e)
      (hstep : ∀ e, step = some e → Expr.KeepsTo own e) : Expr.KeepsTo own (.slice low high step)
  | call {own : Option (List String)} {f : Expr} {arguments : List Argument} (hf : Expr.KeepsTo own f)
      (hpositional : ∀ e, .positional e ∈ arguments → Expr.KeepsTo own e)
      (hkeyword : ∀ n e, .keyword n e ∈ arguments → Expr.KeepsTo own e)
      (hspread : ∀ e, .spread e ∈ arguments → Expr.KeepsTo own e) : Expr.KeepsTo own (.call f arguments)
  /-- The names of a function and their values, as the function itself asks for them. -/
  | locals {names : List String} (h : "locals" ∈ names ∨ free "locals") :
      Expr.KeepsTo (some names) (.call (.name "locals") [])
  | lambda {own : Option (List String)} {parameters : List Parameter} {body : Expr}
      {names : List String}
      (hdefault : ∀ n kind e, .mk n kind (some e) ∈ parameters → Expr.KeepsTo own e)
      (hbody : Expr.KeepsTo (within own names) body) : Expr.KeepsTo own (.lambda parameters body names)
  /-- The source of the first clause is evaluated outside. -/
  | comprehension {own : Option (List String)} {form : Form} {element : Expr}
      {clauses : List Clause} {names : List String}
      (hfirst : ∀ t e cs, clauses.head? = some (.mk t e cs) → Expr.KeepsTo own e)
      (hsource : ∀ t e cs, .mk t e cs ∈ clauses.tail → Expr.KeepsTo (within own names) e)
      (htarget : ∀ t e cs, .mk t e cs ∈ clauses → t.KeepsTo (within own names))
      (hcondition : ∀ t e cs, .mk t e cs ∈ clauses → ∀ c ∈ cs, Expr.KeepsTo (within own names) c)
      (hkey : ∀ k, form = .dict k → Expr.KeepsTo (within own names) k)
      (helement : Expr.KeepsTo (within own names) element) :
      Expr.KeepsTo own (.comprehension form element clauses names)

/-- The same for the parts of a target. -/
inductive Target.KeepsTo : Option (List String) → Target → Prop
  | name {own : Option (List String)} {n : String} : Target.KeepsTo own (.name n)
  | attribute {own : Option (List String)} {e : Expr} {n : String} (h : e.KeepsTo own) :
      Target.KeepsTo own (.attribute e n)
  | index {own : Option (List String)} {e i : Expr} (he : e.KeepsTo own) (hi : i.KeepsTo own) :
      Target.KeepsTo own (.index e i)
  | parts {own : Option (List String)} {targets : List Target} (h : ∀ t ∈ targets, Target.KeepsTo own t) :
      Target.KeepsTo own (.parts targets)
  | starred {own : Option (List String)} {t : Target} (h : Target.KeepsTo own t) : Target.KeepsTo own (.starred t)

end

/-! ### Patterns and statements -/

/-- A pattern looks up no names but those that are free, and those of the functions around it. -/
inductive Pattern.KeepsTo (own : Option (List String)) : Pattern → Prop
  | literal {c : Constant} : KeepsTo own (.literal c)
  | capture {n : String} : KeepsTo own (.capture n)
  | wildcard : KeepsTo own .wildcard
  | value {root : String} {path : List String} (h : MayUse free own root) :
      KeepsTo own (.value root path)
  | sequence {parts : List Pattern} (h : ∀ p ∈ parts, KeepsTo own p) : KeepsTo own (.sequence parts)
  | starred {n : Option String} : KeepsTo own (.starred n)
  | mapping {entries : List (Key × Pattern)} {rest : Option String}
      (hkey : ∀ root path p, (.value root path, p) ∈ entries → MayUse free own root)
      (hvalue : ∀ k p, (k, p) ∈ entries → KeepsTo own p) : KeepsTo own (.mapping entries rest)
  | typed {root : String} {path : List String} {parts : List Pattern}
      {attributes : List (String × Pattern)} (hroot : MayUse free own root)
      (hpart : ∀ p ∈ parts, KeepsTo own p)
      (hattribute : ∀ n p, (n, p) ∈ attributes → KeepsTo own p) :
      KeepsTo own (.typed root path parts attributes)
  | alternatives {ps : List Pattern} (h : ∀ p ∈ ps, KeepsTo own p) : KeepsTo own (.alternatives ps)
  | named {p : Pattern} {n : String} (h : KeepsTo own p) : KeepsTo own (.named p n)

/-- A statement looks up no names but those that are free, and those of the functions around it. -/
inductive Statement.KeepsTo (own : Option (List String)) : Statement → Prop
  | expression {e : Expr} (h : e.KeepsTo free own) : KeepsTo own (.expression e)
  | assign {targets : List Target} {e : Expr} (htarget : ∀ t ∈ targets, t.KeepsTo free own)
      (h : e.KeepsTo free own) : KeepsTo own (.assign targets e)
  | delete {targets : List Target} (h : ∀ t ∈ targets, t.KeepsTo free own) :
      KeepsTo own (.delete targets)
  | pass : KeepsTo own .pass
  | leave : KeepsTo own .leave
  | again : KeepsTo own .again
  | result {e : Option Expr} (h : ∀ x, e = some x → x.KeepsTo free own) : KeepsTo own (.result e)
  | branch {test : Expr} {yes no : List Statement} (htest : test.KeepsTo free own)
      (hyes : ∀ s ∈ yes, KeepsTo own s) (hno : ∀ s ∈ no, KeepsTo own s) :
      KeepsTo own (.branch test yes no)
  | loop {test : Expr} {body last : List Statement} (htest : test.KeepsTo free own)
      (hbody : ∀ s ∈ body, KeepsTo own s) (hlast : ∀ s ∈ last, KeepsTo own s) :
      KeepsTo own (.loop test body last)
  | iterate {target : Target} {source : Expr} {body last : List Statement}
      (htarget : target.KeepsTo free own) (hsource : source.KeepsTo free own)
      (hbody : ∀ s ∈ body, KeepsTo own s) (hlast : ∀ s ∈ last, KeepsTo own s) :
      KeepsTo own (.iterate target source body last)
  | cases {subject : Expr} {arms : List (Pattern × Option Expr × List Statement)}
      (hsubject : subject.KeepsTo free own) (hpattern : ∀ p g body, (p, g, body) ∈ arms → p.KeepsTo free own)
      (hguard : ∀ p g body, (p, some g, body) ∈ arms → g.KeepsTo free own)
      (hbody : ∀ p g body, (p, g, body) ∈ arms → ∀ s ∈ body, KeepsTo own s) :
      KeepsTo own (.cases subject arms)

end TokenTemplate.Payload
