import TokenTemplate.Payload.Token

/-!
# Readers

A reader takes tokens from the front of a row and either makes something of them or fails. There is no
going back: which way to go is decided by at most three tokens that lie ahead.

Besides the tokens a reader keeps the names that the scope being read has bound so far, since several
rules are about them: a pattern binds a name once, and a comprehension cannot reassign its own loop
names. It also counts assignments, because there must be none in the source of a clause.
-/

namespace TokenTemplate.Payload

/-- What a reader has got to. -/
structure ReadState where
  /-- The tokens that are still to come. -/
  rest : List Token
  /-- The names that the scope being read has bound so far, the last one first. -/
  bound : List String
  /-- How many assignments have been read. -/
  assignments : Nat

/-- A reader of tokens. -/
abbrev Reader (α : Type) :=
  StateT ReadState Option α

namespace Reader

variable {α : Type}

/-! ### Single tokens -/

/-- The token after `n` others. -/
def peek (n : Nat) : Reader (Option Token) := do
  return (← get).rest[n]?

/-- Drops some tokens. -/
def skip (n : Nat) : Reader Unit :=
  modify fun s => { s with rest := s.rest.drop n }

/-- Whether a token comes next. -/
def sees (t : Token) : Reader Bool := do
  return (← peek 0) == some t

/-- Takes a token if it comes next. -/
def takes (t : Token) : Reader Bool := do
  if ← sees t then
    skip 1
    return true
  else return false

/-- Takes a token, which has to come next. -/
def needs (t : Token) : Reader Unit := do
  if !(← takes t) then failure

/-- A mark as a token. -/
abbrev mark (m : String) : Token :=
  .mark m

/-- A keyword as a token. -/
abbrev keyword (w : String) : Token :=
  .word w

/-- The words that are no names. -/
def keywords : List String :=
  ["False", "None", "True", "and", "as", "assert", "async", "await", "break", "class", "continue", "def",
    "del", "elif", "else", "except", "finally", "for", "from", "global", "if", "import", "in", "is",
    "lambda", "nonlocal", "not", "or", "pass", "raise", "return", "try", "while", "with", "yield"]

/-- The name that a token is. -/
def nameOf? : Token → Option String
  | .word w => if keywords.contains w then none else some w
  | _ => none

/-- The name that a token is, if it can be bound. -/
def binderOf? (t : Token) : Option String :=
  (nameOf? t).filter (· != fixedName)

/-- Takes a name. -/
def name : Reader String := do
  match (← peek 0).bind nameOf? with
  | some n =>
    skip 1
    return n
  | none => failure

/-- Takes a name that can be bound. -/
def binder : Reader String := do
  let n ← name
  if n = fixedName then failure else return n

/-- Whether a name that can be bound and a mark come next; the name. -/
def seesNameAnd (m : String) : Reader (Option String) := do
  match ← peek 0, ← peek 1 with
  | some t, some u => return if u = mark m then binderOf? t else none
  | _, _ => return none

/-- Adjacent string literals, which are one. -/
def textRun : (fuel : Nat) → Reader String
  | 0 => return ""
  | fuel + 1 => do
    match ← peek 0 with
    | some (.text s) =>
      skip 1
      return s ++ (← textRun fuel)
    | _ => return ""

/-! ### Repetition -/

/-- How many tokens are still to come. -/
def remaining : Reader Nat := do
  return (← get).rest.length

/-- Items with commas between them, up to a token at which none begins; tells whether there was a comma.
The last item may be followed by a comma. -/
def commaList (ends : Token → Bool) (item : Reader α) : (fuel : Nat) → Reader (List α × Bool)
  | 0 => failure
  | fuel + 1 => do
    if (← peek 0).all ends then return ([], false)
    else
      let x ← item
      if ← takes (mark ",") then
        let (xs, _) ← commaList ends item fuel
        return (x :: xs, true)
      else return ([x], false)

/-- Items with commas between them, up to and with a closing mark. -/
def closedList (closer : String) (item : Reader α) : Reader (List α × Bool) := do
  let r ← commaList (· == mark closer) item ((← remaining) + 1)
  needs (mark closer)
  return r

/-- An item again and again, as long as `more` finds something to go on with. -/
def extend {β : Type} (more : Reader (Option β)) (step : α → β → Reader α) :
    (fuel : Nat) → α → Reader α
  | 0, x => return x
  | fuel + 1, x => do
    match ← more with
    | none => return x
    | some y => extend more step fuel (← step x y)

/-- Takes the first of some tokens that comes next. -/
def takesOneOf {β : Type} (table : List (Token × β)) : Reader (Option β) := do
  match ← peek 0 with
  | some t =>
    match table.lookup t with
    | some y =>
      skip 1
      return some y
    | none => return none
  | none => return none

/-! ### Names of the scope -/

/-- Binds a name in the scope being read. -/
def bind (n : String) : Reader Unit :=
  modify fun s => { s with bound := n :: s.bound }

/-- Binds a name that can be bound and is not bound yet. -/
def bindOnce (n : String) : Reader Unit := do
  if n = fixedName || (← get).bound.contains n then failure
  bind n

/-- Counts an assignment and binds its name. -/
def assigned (n : String) : Reader Unit := do
  modify fun s => { s with assignments := s.assignments + 1 }
  bind n

/-- The names that were bound since there were `before` of them. -/
def boundSince (before : Nat) : Reader (List String) := do
  let names := (← get).bound
  return names.take (names.length - before)

/-- How many names are bound. -/
def boundCount : Reader Nat := do
  return (← get).bound.length

/-- Reads in a scope of its own; gives the names that were bound in it. -/
def inScope (body : Reader α) : Reader (α × List String) := do
  let outer := (← get).bound
  modify fun s => { s with bound := [] }
  let x ← body
  let own := (← get).bound
  modify fun s => { s with bound := outer }
  return (x, own)

/-- A whole row of tokens. -/
def whole? (r : Reader α) (ts : List Token) : Option (α × ReadState) :=
  match r.run ⟨ts, [], 0⟩ with
  | some (x, s) => if s.rest.isEmpty then some (x, s) else none
  | none => none

end Reader

end TokenTemplate.Payload
