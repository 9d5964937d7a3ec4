import TokenTemplate.Payload.PatternGrammar

/-!
# Statements

A pattern is read as a part of a small program, and what the program says is what counts. So here are the
statements that a program is made of, `TokenTemplate.Payload.Statement`, and how they are read,
`TokenTemplate.Payload.programOf?`: a line of statements, or a head with a block of lines that are further in.

As with expressions, what can be told without running a program is settled here: a loop can only be left
from inside, only the last case of several may match everything, and the names of the program are those that
something in it binds.
-/

namespace TokenTemplate.Payload

/-- A statement. -/
inductive Statement
  /-- Evaluates an expression. -/
  | expression (e : Expr)
  /-- Evaluates an expression and assigns its value. -/
  | assign (targets : List Target) (e : Expr)
  /-- Takes away names or parts of values. -/
  | delete (targets : List Target)
  /-- Does nothing. -/
  | pass
  /-- Leaves a loop. -/
  | leave
  /-- Begins the next turn of a loop. -/
  | again
  /-- Ends the program with a value. -/
  | result (e : Option Expr)
  /-- One of two blocks, as a condition decides. -/
  | branch (test : Expr) (yes no : List Statement)
  /-- A block again and again, as long as a condition holds; then another one. -/
  | loop (test : Expr) (body last : List Statement)
  /-- A block for each item of a value; then another one. -/
  | iterate (target : Target) (source : Expr) (body last : List Statement)
  /-- The block of the first case that a value matches. -/
  | cases (subject : Expr) (arms : List (Pattern × Option Expr × List Statement))

/-- A program, with the names that are its own. -/
structure Program where
  /-- What it does. -/
  statements : List Statement
  /-- The names that it binds. -/
  own : List String

namespace Statement

open Reader

/-! ### Lines of statements -/

/-- Whether a row of items ends at a token. -/
def endsItems (t : Token) : Bool :=
  t == .lineEnd || t == mark ";" || t == mark "=" || t == mark ":"

/-- One expression, or several with commas between them, which may be starred and make a tuple. -/
def expressions (g : Grammar) : Reader Expr := do
  let item : Reader Expr := do
    if ← takes (mark "*") then return .starred (← g.operand) else g.expression
  match ← commaList endsItems item ((← remaining) + 1) with
  | ([], _) => failure
  | ([e], false) => if e.isStarred then failure else return e
  | (es, _) => return .tuple es

/-- Binds the names of a target. -/
def bindTarget (t : Target) : Reader Unit :=
  (Grammar.targetNames t).forM Reader.bind

/-- The target that an expression can be read as, with its names bound. -/
def targetOf (e : Expr) : Reader Target := do
  let t ← (Grammar.target? e : Option Target)
  bindTarget t
  return t

/-- The values after the first one of a chain of assignments. -/
def assigned (g : Grammar) : (fuel : Nat) → Reader (List Expr)
  | 0 => return []
  | fuel + 1 => do
    if ← takes (mark "=") then
      let e ← expressions g
      return e :: (← assigned g fuel)
    else return []

/-- A statement that has no block. -/
def simple (g : Grammar) (inLoop : Bool) : Reader Statement := do
  if ← takes (keyword "pass") then return .pass
  else if ← takes (keyword "break") then
    if inLoop then return .leave else failure
  else if ← takes (keyword "continue") then
    if inLoop then return .again else failure
  else if ← takes (keyword "return") then
    if (← peek 0).all endsItems then return .result none else return .result (some (← expressions g))
  else if ← takes (keyword "del") then
    let (es, _) ← commaList endsItems g.primary ((← remaining) + 1)
    if es.isEmpty then failure
    return .delete (← es.mapM targetOf)
  else
    let e ← expressions g
    match (← assigned g (← remaining)).reverse with
    | [] => return .expression e
    | value :: targets => return .assign (← (e :: targets.reverse).mapM targetOf) value

/-- The statements of a line, to its end. -/
def line (g : Grammar) (inLoop : Bool) : (fuel : Nat) → Reader (List Statement)
  | 0 => failure
  | fuel + 1 => do
    let s ← simple g inLoop
    if ← takes (mark ";") then
      if ← takes .lineEnd then return [s] else return s :: (← line g inLoop fuel)
    else
      needs .lineEnd
      return [s]

/-! ### Blocks -/

/-- Whether a line is a head: it ends with a colon, and lines that are further in follow. -/
def isHead (ts : List Token) : Bool :=
  match ts.dropWhile (· != .lineEnd) with
  | _ :: .indent :: _ => (ts.takeWhile (· != .lineEnd)).getLast? == some (mark ":")
  | _ => false

/-- A block: what is left of the line, or lines that are further in. -/
def block (g : Grammar) (statements : Bool → Reader (List Statement)) (inLoop : Bool) :
    Reader (List Statement) := do
  if ← takes .lineEnd then
    needs .indent
    statements inLoop
  else line g inLoop ((← remaining) + 1)

/-- The block that a keyword begins, if it comes next. -/
def blockAfter (g : Grammar) (statements : Bool → Reader (List Statement)) (inLoop : Bool)
    (w : String) : Reader (List Statement) := do
  if ← takes (keyword w) then
    needs (mark ":")
    block g statements inLoop
  else return []

/-- A condition with its block and what follows if it does not hold. -/
def conditional (g : Grammar) (statements : Bool → Reader (List Statement)) (inLoop : Bool) :
    (fuel : Nat) → Reader Statement
  | 0 => failure
  | fuel + 1 => do
    let test ← g.named
    needs (mark ":")
    let yes ← block g statements inLoop
    if ← takes (keyword "elif") then
      return .branch test yes [← conditional g statements inLoop fuel]
    else return .branch test yes (← blockAfter g statements inLoop "else")

/-- The cases of a block, to its end. -/
def arms (depth : Nat) (g : Grammar) (statements : Bool → Reader (List Statement)) (inLoop : Bool) :
    (fuel : Nat) → Reader (List (Pattern × Option Expr × List Statement))
  | 0 => failure
  | fuel + 1 => do
    if !(← takes (keyword "case")) then failure
    let (p, guard) ← caseHead depth
    let body ← block g statements inLoop
    if ← takes .dedent then return [(p, guard, body)]
    else
      if guard.isNone && p.isIrrefutable then failure
      return (p, guard, body) :: (← arms depth g statements inLoop fuel)

/-- The statements of a line, or a statement with a block. -/
def compound (depth : Nat) (g : Grammar) (statements : Bool → Reader (List Statement))
    (inLoop : Bool) : Reader (List Statement) := do
  if ← takes (keyword "if") then
    return [← conditional g statements inLoop ((← remaining) + 1)]
  else if ← takes (keyword "while") then
    let test ← g.named
    needs (mark ":")
    let body ← block g statements true
    return [.loop test body (← blockAfter g statements inLoop "else")]
  else if ← takes (keyword "for") then
    let target ← g.target
    bindTarget target
    needs (keyword "in")
    let source ← expressions g
    needs (mark ":")
    let body ← block g statements true
    return [.iterate target source body (← blockAfter g statements inLoop "else")]
  else
    let isMatch := (← sees (keyword "match")) && isHead (← get).rest
    if isMatch then
      skip 1
      let subject ← expressions g
      needs (mark ":")
      needs .lineEnd
      needs .indent
      return [.cases subject (← arms depth g statements inLoop ((← remaining) + 1))]
    else line g inLoop ((← remaining) + 1)

/-- The statements of a block up to its end, or up to the end of the program, of at most `fuel` blocks
inside each other and lines after each other. -/
def statements (depth : Nat) : (fuel : Nat) → (inLoop : Bool) → Reader (List Statement)
  | 0, _ => failure
  | fuel + 1, inLoop => do
    let first ← compound depth (grammar depth) (statements depth fuel) inLoop
    if ← takes .dedent then return first
    else if (← remaining) = 0 then return first
    else return first ++ (← statements depth fuel inLoop)

end Statement

/-- **The program that a row of tokens is.** -/
def programOf? (ts : List Token) : Option Program :=
  (Reader.whole? (Statement.statements (ts.length + 1) (ts.length + 1) false) ts).map fun r =>
    ⟨r.1, r.2.bound.reverse.eraseDups⟩

end TokenTemplate.Payload
