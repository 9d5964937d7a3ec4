import TokenTemplate.Payload.Reader

/-!
# The grammar of expressions

Expressions are read by a ladder of rules, one for each strength of binding. A rule that comes back to
a weaker one, as everything inside brackets does, goes through a `TokenTemplate.Payload.Grammar`: a
record of the rules to use one level further in. `TokenTemplate.Payload.grammar` builds such records up
to a given depth, and the number of tokens is always depth enough.

What is more than syntax is settled here as well: which expressions can be assigned to, in which order
arguments may come, and which names a scope owns.
-/

namespace TokenTemplate.Payload

open Reader

/-- The rules to use one level further in. -/
structure Grammar where
  /-- Any expression but an unbracketed assignment. -/
  expression : Reader Expr
  /-- An alternative of conjunctions. -/
  disjunction : Reader Expr
  /-- A negation, or a comparison. -/
  inversion : Reader Expr
  /-- An operand of a comparison. -/
  operand : Reader Expr
  /-- An operand with a sign, or a power. -/
  factor : Reader Expr
  /-- An atom with what is applied to it. -/
  primary : Reader Expr

namespace Grammar

/-! ### Operators -/

/-- Operands with operators of one strength between them, the leftmost first. -/
def leftChain (ops : List (Token × BinaryOp)) (operand : Reader Expr) : Reader Expr := do
  let first ← operand
  extend (takesOneOf ops) (fun l op => return .binary op l (← operand)) (← remaining) first

/-- The operators between operands of a comparison, the weakest first. -/
def operators : List (List (Token × BinaryOp)) :=
  [[(mark "|", .or)], [(mark "^", .xor)], [(mark "&", .and)],
    [(mark "<<", .shiftLeft), (mark ">>", .shiftRight)],
    [(mark "+", .add), (mark "-", .sub)],
    [(mark "*", .mul), (mark "/", .div), (mark "//", .floorDiv), (mark "%", .mod), (mark "@", .matMul)]]

/-- The signs in front of an operand. -/
def signs : List (Token × UnaryOp) :=
  [(mark "+", .plus), (mark "-", .minus), (mark "~", .invert)]

/-- A comparison of two tokens or one. -/
def comparisonOp : Reader (Option CompareOp) := do
  match ← peek 0, ← peek 1 with
  | some (.word "not"), some (.word "in") =>
    skip 2
    return some .notMember
  | some (.word "is"), some (.word "not") =>
    skip 2
    return some .notSame
  | _, _ =>
    takesOneOf [(mark "==", .equal), (mark "!=", .notEqual), (mark "<=", .lessEqual),
      (mark "<", .less), (mark ">=", .greaterEqual), (mark ">", .greater), (keyword "in", .member),
      (keyword "is", .same)]

/-! ### What stands inside brackets -/

/-- An expression or an assignment. -/
def named (g : Grammar) : Reader Expr := do
  match ← seesNameAnd ":=" with
  | some n =>
    skip 2
    let e ← g.expression
    assigned n
    return .assign n e
  | none => g.expression

/-- An item of a display, which may be starred. -/
def item (g : Grammar) : Reader Expr := do
  if ← takes (mark "*") then return .starred (← g.operand) else g.named

mutual

/-- The target that an expression can be read as. -/
def target? : Expr → Option Target
  | .name n => if n = fixedName then none else some (.name n)
  | .attribute e n => if n = fixedName then none else some (.attribute e n)
  | .index e i => some (.index e i)
  | .tuple items => (targets? items).map .parts
  | .list items => (targets? items).map .parts
  | .starred e => (target? e).map .starred
  | _ => none

/-- The targets that expressions can be read as, of which at most one may be starred. -/
def targets? : List Expr → Option (List Target)
  | [] => some []
  | e :: es =>
    if e.isStarred && es.any Expr.isStarred then none
    else do return (← target? e) :: (← targets? es)

end

mutual

/-- The names that a target binds. -/
def targetNames : Target → List String
  | .name n => [n]
  | .parts ts => allTargetNames ts
  | .starred t => targetNames t
  | _ => []

/-- The names that targets bind. -/
def allTargetNames : List Target → List String
  | [] => []
  | t :: ts => targetNames t ++ allTargetNames ts

end

/-- The target of a clause: one that is not starred, or several with commas between them. -/
def target (g : Grammar) : Reader Target := do
  let part : Reader Expr := do
    if ← takes (mark "*") then return .starred (← g.primary) else g.primary
  let (es, comma) ← commaList (· == keyword "in") part ((← remaining) + 1)
  match es with
  | [] => failure
  | [e] =>
    if comma then .parts <$> (targets? [e] : Option _)
    else if e.isStarred then failure
    else (target? e : Option _)
  | es => .parts <$> (targets? es : Option _)

/-- A clause of a comprehension, if one begins here. -/
def clause (g : Grammar) : Reader (Option Clause) := do
  if ← takes (keyword "for") then
    let t ← g.target
    needs (keyword "in")
    let before := (← get).assignments
    let source ← g.disjunction
    if (← get).assignments ≠ before then failure
    let conditions ← extend (takesOneOf [(keyword "if", ())])
      (fun cs _ => return cs ++ [← g.disjunction]) (← remaining) []
    return some (.mk t source conditions)
  else return none

/-- The names that a clause binds. -/
def clauseNames : Clause → List String
  | .mk t _ _ => targetNames t

/-- The clauses of a comprehension, of which there is at least one; `before` names were bound when its
element began. None of the loop names may be assigned in it. -/
def comprehension (g : Grammar) (form : Form) (element : Expr) (before : Nat) : Reader Expr := do
  let clauses ← extend g.clause (fun cs c => return cs ++ [c]) (← remaining) []
  let own := clauses.flatMap clauseNames
  if clauses.isEmpty || (← boundSince before).any own.contains then failure
  return .comprehension form element clauses own

/-- What follows the first item of a display: clauses if it can have them, or more items. -/
def display (g : Grammar) (closer : String) (form : Form) (before : Nat) (first : Expr)
    (plain : List Expr → Bool → Reader Expr) : Reader Expr := do
  if !first.isStarred && (← sees (keyword "for")) then
    let e ← g.comprehension form first before
    needs (mark closer)
    return e
  else if ← takes (mark ",") then
    let (rest, _) ← closedList closer g.item
    plain (first :: rest) true
  else
    needs (mark closer)
    plain [first] false

/-- What stands in round brackets, after the first one. -/
def parenthesised (g : Grammar) : Reader Expr := do
  if ← takes (mark ")") then return .tuple []
  else
    let before ← boundCount
    let first ← g.item
    g.display ")" .generator before first fun items comma =>
      if comma then return .tuple items
      else if first.isStarred then failure
      else return first

/-- What stands in square brackets, after the first one. -/
def bracketed (g : Grammar) : Reader Expr := do
  if ← takes (mark "]") then return .list []
  else
    let before ← boundCount
    let first ← g.item
    g.display "]" .list before first fun items _ => return .list items

/-- An entry of a dictionary. -/
def entry (g : Grammar) : Reader Entry := do
  if ← takes (mark "**") then return .spread (← g.operand)
  else
    let k ← g.expression
    needs (mark ":")
    return .pair k (← g.expression)

/-- The entries of a dictionary after the first one. -/
def moreEntries (g : Grammar) (first : Entry) : Reader Expr := do
  if ← takes (mark ",") then
    let (rest, _) ← closedList "\x7d" g.entry
    return .dict (first :: rest)
  else
    needs (mark "\x7d")
    return .dict [first]

/-- What stands in curly brackets, after the first one. -/
def braced (g : Grammar) : Reader Expr := do
  if ← takes (mark "\x7d") then return .dict []
  else if ← takes (mark "**") then g.moreEntries (.spread (← g.operand))
  else
    let before ← boundCount
    let single := (← seesNameAnd ":=").isNone
    let first ← g.item
    let isKey := single && !first.isStarred && (← sees (mark ":"))
    if isKey then
      skip 1
      let value ← g.expression
      if ← sees (keyword "for") then
        let e ← g.comprehension (.dict first) value before
        needs (mark "\x7d")
        return e
      else g.moreEntries (.pair first value)
    else g.display "\x7d" .set before first fun items _ => return .set items

/-! ### Arguments and indices -/

/-- What kind of arguments may still come. -/
inductive ArgumentPhase
  /-- All of them. -/
  | any
  /-- None by position but starred ones. -/
  | keywords
  /-- None by position. -/
  | spreads
  deriving DecidableEq

/-- An argument, with what may still come after it and the names that have been given. A generator
without brackets of its own has to be the only argument. -/
def argument (g : Grammar) (only : Bool) (phase : ArgumentPhase) (names : List String) :
    Reader (Argument × ArgumentPhase × List String) := do
  if ← takes (mark "*") then
    if phase = .spreads then failure
    return (.positional (.starred (← g.expression)), phase, names)
  else if ← takes (mark "**") then return (.spread (← g.expression), .spreads, names)
  else
    match ← seesNameAnd "=" with
    | some n =>
      if names.contains n then failure
      skip 2
      let e ← g.expression
      return (.keyword n e, if phase = .any then .keywords else phase, n :: names)
    | none =>
      if phase ≠ .any then failure
      let before ← boundCount
      let e ← g.named
      if only && (← sees (keyword "for")) then
        let e ← g.comprehension .generator e before
        if !(← sees (mark ")")) then failure
        return (.positional e, phase, names)
      else return (.positional e, phase, names)

/-- The arguments of a call, up to and with the closing bracket; `names` have been given. -/
def argumentsFrom (g : Grammar) : (fuel : Nat) → (first : Bool) → ArgumentPhase →
    (names : List String) → Reader (List Argument)
  | 0, _, _, _ => failure
  | fuel + 1, first, phase, names => do
    if ← takes (mark ")") then return []
    else
      let (a, phase, names) ← g.argument first phase names
      if ← takes (mark ",") then return a :: (← argumentsFrom g fuel false phase names)
      else
        needs (mark ")")
        return [a]

/-- Whether an argument is given by position. -/
def isPositional : Argument → Bool
  | .positional _ => true
  | _ => false

/-- **The arguments of a call**, after the first bracket. Those by position are evaluated first, so
they are put first. -/
def arguments (g : Grammar) : Reader (List Argument) := do
  let args ← g.argumentsFrom ((← remaining) + 1) true .any []
  return args.filter isPositional ++ args.filter (!isPositional ·)

/-- A position, a range of positions, or a starred item, as an index. -/
def position (g : Grammar) : Reader Expr := do
  if ← takes (mark "*") then return .starred (← g.expression)
  else if (← seesNameAnd ":=").isSome then g.named
  else
    let bound : Reader (Option Expr) := do
      match ← peek 0 with
      | some (.mark ":") | some (.mark ",") | some (.mark "]") => return none
      | _ => return some (← g.expression)
    let low ← bound
    if ← takes (mark ":") then
      let high ← bound
      let step ← (do if ← takes (mark ":") then bound else return none : Reader (Option Expr))
      return .slice low high step
    else
      match low with
      | some e => return e
      | none => failure

/-- An index, after the first bracket: one position, or a tuple of them. -/
def subscript (g : Grammar) : Reader Expr := do
  match ← closedList "]" g.position with
  | ([], _) => failure
  | ([e], comma) => return if comma || e.isStarred then .tuple [e] else e
  | (es, _) => return .tuple es

/-! ### The ladder -/

/-- Something with brackets or quotes of its own, a number, or a name. -/
def atom (g : Grammar) : Reader Expr := do
  match ← peek 0 with
  | none => failure
  | some t =>
    skip 1
    match t with
    | .word "True" => return .constant (.bool true)
    | .word "False" => return .constant (.bool false)
    | .word "None" => return .constant .none
    | .word w => if keywords.contains w then failure else return .name w
    | .number c => return .constant c
    | .text s => return .constant (.text (s ++ (← textRun (← remaining))))
    | .mark "..." => return .constant .ellipsis
    | .mark "(" => g.parenthesised
    | .mark "[" => g.bracketed
    | .mark "\x7b" => g.braced
    | _ => failure

/-- What can be applied to a value. -/
inductive Suffix
  /-- An attribute. -/
  | attribute
  /-- A call. -/
  | call
  /-- An index. -/
  | index

/-- An atom with attributes, calls and indices. -/
def primaryRule (g : Grammar) : Reader Expr := do
  let first ← g.atom
  extend (takesOneOf [(mark ".", Suffix.attribute), (mark "(", .call), (mark "[", .index)])
    (fun e s => do
      match s with
      | .attribute => return .attribute e (← name)
      | .call => return .call e (← g.arguments)
      | .index => return .index e (← g.subscript))
    (← remaining) first

/-- A sign and its operand, or a power, which binds more strongly on its left. -/
def factorRule (g : Grammar) : Reader Expr := do
  match ← takesOneOf signs with
  | some op => return .unary op (← g.factor)
  | none =>
    let base ← g.primaryRule
    if ← takes (mark "**") then return .binary .pow base (← g.factor) else return base

/-- An operand of a comparison. -/
def operandRule (g : Grammar) : Reader Expr :=
  operators.foldr leftChain g.factorRule

/-- Operands with comparisons between them. -/
def comparison (g : Grammar) : Reader Expr := do
  let first ← g.operandRule
  let rest ← extend comparisonOp (fun cs op => return cs ++ [(op, ← g.operandRule)]) (← remaining) []
  return if rest.isEmpty then first else .compare first rest

/-- A negation, or a comparison. -/
def inversionRule (g : Grammar) : Reader Expr := do
  if ← takes (keyword "not") then return .unary .not (← g.inversion) else g.comparison

/-- Negations with `and` between them. -/
def conjunction (g : Grammar) : Reader Expr := do
  let first ← g.inversionRule
  extend (takesOneOf [(keyword "and", ())]) (fun l _ => return .both l (← g.inversionRule))
    (← remaining) first

/-- Conjunctions with `or` between them. -/
def disjunctionRule (g : Grammar) : Reader Expr := do
  let first ← g.conjunction
  extend (takesOneOf [(keyword "or", ())]) (fun l _ => return .either l (← g.conjunction))
    (← remaining) first

/-! ### Functions -/

/-- A parameter as it is written, or a mark between parameters. -/
inductive ParameterItem
  /-- Those before are found by position only. -/
  | slash
  /-- Those after are found by name only. -/
  | star
  /-- A parameter that takes positions. -/
  | rest (n : String)
  /-- A parameter that takes names. -/
  | keywordRest (n : String)
  /-- Any other parameter. -/
  | plain (n : String) (default : Option Expr)

/-- An item of a list of parameters. -/
def parameterItem (g : Grammar) : Reader ParameterItem := do
  if ← takes (mark "/") then return .slash
  else if ← takes (mark "**") then return .keywordRest (← binder)
  else if ← takes (mark "*") then
    if ((← peek 0).bind nameOf?).isSome then return .rest (← binder) else return .star
  else
    let n ← binder
    if ← takes (mark "=") then return .plain n (some (← g.expression)) else return .plain n none

/-- How far a list of parameters has got. -/
structure ParameterProgress where
  /-- The parameters, the last one first. -/
  done : List Parameter := []
  /-- Whether a slash has been met. -/
  slash : Bool := false
  /-- Whether a star has been met. -/
  star : Bool := false
  /-- Whether a parameter by name has to follow. -/
  pending : Bool := false
  /-- Whether a parameter with a default has been met before any star. -/
  defaults : Bool := false
  /-- Whether nothing more may follow. -/
  closed : Bool := false

/-- The same parameter, found by position only. -/
def byPosition : Parameter → Parameter
  | .mk n _ d => .mk n .positional d

/-- Takes in one more item of a list of parameters. -/
def ParameterProgress.add? (p : ParameterProgress) : ParameterItem → Option ParameterProgress
  | .slash =>
    if p.closed || p.slash || p.star || p.done.isEmpty then none
    else some { p with done := p.done.map byPosition, slash := true }
  | .star => if p.closed || p.star then none else some { p with star := true, pending := true }
  | .rest n =>
    if p.closed || p.star then none
    else some { p with done := .mk n .rest none :: p.done, star := true }
  | .keywordRest n =>
    if p.closed || p.pending then none
    else some { p with done := .mk n .keywordRest none :: p.done, closed := true }
  | .plain n d =>
    if p.closed then none
    else if p.star then some { p with done := .mk n .keyword d :: p.done, pending := false }
    else if p.defaults && d.isNone then none
    else some { p with done := .mk n .either d :: p.done, defaults := p.defaults || d.isSome }

/-- The name of a parameter. -/
def parameterName : Parameter → String
  | .mk n _ _ => n

/-- The parameters that some items make up; none if they are out of order or share a name. -/
def parameters? (items : List ParameterItem) : Option (List Parameter) := do
  let p ← items.foldlM ParameterProgress.add? {}
  if p.pending || !(p.done.map parameterName).Nodup then none else some p.done.reverse

/-- A function, after its keyword. -/
def lambdaRule (g : Grammar) : Reader Expr := do
  let (items, _) ← commaList (· == mark ":") g.parameterItem ((← remaining) + 1)
  let parameters ← (parameters? items : Option _)
  needs (mark ":")
  let (body, own) ← inScope g.expression
  return .lambda parameters body (parameters.map parameterName ++ own)

/-- Any expression but an unbracketed assignment. -/
def expressionRule (g : Grammar) : Reader Expr := do
  if ← takes (keyword "lambda") then g.lambdaRule
  else
    let e ← g.disjunctionRule
    if ← takes (keyword "if") then
      let test ← g.disjunctionRule
      needs (keyword "else")
      return .conditional test e (← g.expression)
    else return e

/-- The rules one level further out. -/
def next (g : Grammar) : Grammar where
  expression := g.expressionRule
  disjunction := g.disjunctionRule
  inversion := g.inversionRule
  operand := g.operandRule
  factor := g.factorRule
  primary := g.primaryRule

end Grammar

/-- **The rules for texts of some depth**: at depth zero nothing can be read. -/
def grammar : (depth : Nat) → Grammar
  | 0 => ⟨failure, failure, failure, failure, failure, failure⟩
  | depth + 1 => (grammar depth).next

/-- One expression, or several with commas between them, which make a tuple. -/
def expressions (g : Grammar) : Reader Expr := do
  match ← commaList (fun _ => false) g.expression ((← remaining) + 1) with
  | ([], _) => failure
  | ([e], false) => return e
  | (es, _) => return .tuple es

/-- **The expression that a row of tokens is.** -/
def expressionOf? (ts : List Token) : Option Expr :=
  (Reader.whole? (expressions (grammar (ts.length + 1))) ts).map (·.1)

end TokenTemplate.Payload
