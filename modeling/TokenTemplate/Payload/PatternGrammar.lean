import TokenTemplate.Payload.Grammar

/-!
# The grammar of patterns

Patterns are read like expressions, `TokenTemplate.Payload.patternRule`, with the names that they bind
kept in the order of reading: a name is bound once, and the alternatives of one pattern bind the same
names. An alternative that matches everything has to be the last one, a mapping pattern does not name a
literal key twice, and a sequence has at most one starred part.

A case has a pattern and, perhaps, a guard, which is an expression that may bind names of its own.
-/

namespace TokenTemplate.Payload

open Reader

namespace PatternGrammar

/-! ### Literals -/

/-- A constant with the opposite sign, if it is a number. -/
def negated? : Constant → Option Constant
  | .int n => some (.int (-n))
  | .float x => some (.float (-x))
  | _ => none

/-- A number, perhaps with a minus sign, that no further sign follows. -/
def signedNumber : Reader Constant := do
  let negative ← takes (mark "-")
  match ← peek 0 with
  | some (.number c) =>
    skip 1
    if (← sees (mark "+")) || (← sees (mark "-")) then failure
    if negative then (negated? c : Option _) else return c
  | _ => failure

/-- The literal that begins here, if one does. -/
def literal : Reader (Option Constant) := do
  match ← peek 0 with
  | some (.word "None") =>
    skip 1
    return some .none
  | some (.word "True") =>
    skip 1
    return some (.bool true)
  | some (.word "False") =>
    skip 1
    return some (.bool false)
  | some (.text _) => return some (.text (← textRun (← remaining)))
  | some (.number _) | some (.mark "-") => return some (← signedNumber)
  | _ => return none

/-- The number that a constant equals, as a key. -/
def quantity? : Constant → Option Number.Quantity
  | .bool b => some (.whole (if b then 1 else 0))
  | .int n => some (.whole n)
  | .float x => some (.real x)
  | _ => none

/-- Whether two literals are the same key. -/
def sameKey (a b : Constant) : Bool :=
  match quantity? a, quantity? b with
  | some p, some q => p.compare? q == some .eq
  | _, _ => a == b

/-- Whether some literals are different keys. -/
def distinctKeys : List Constant → Bool
  | [] => true
  | c :: cs => !cs.any (sameKey c) && distinctKeys cs

/-! ### Parts -/

/-- A name that a pattern binds; the wildcard is none. -/
def captureName : Reader String := do
  let n ← name
  if n = "_" then failure
  bindOnce n
  return n

/-- The attributes after a name. -/
def path : Reader (List String) := do
  extend (takesOneOf [(mark ".", ())]) (fun ns _ => return ns ++ [← name]) (← remaining) []

/-- A part of a sequence, which may be starred. -/
def part (pattern : Reader Pattern) : Reader Pattern := do
  if ← takes (mark "*") then
    if ← takes (.word "_") then return .starred none else return .starred (some (← captureName))
  else pattern

/-- Whether a part is starred. -/
def isStarred : Pattern → Bool
  | .starred _ => true
  | _ => false

/-- A sequence of parts, of which at most one is starred. -/
def sequence (parts : List Pattern) : Reader Pattern := do
  if 1 < (parts.filter isStarred).length then failure
  return .sequence parts

/-- Parts with commas between them: a sequence, or one pattern alone. -/
def openSequence (parts : List Pattern) (comma : Bool) : Reader Pattern := do
  match parts, comma with
  | [p], false => if isStarred p then failure else return p
  | _, _ => sequence parts

/-- A key of a mapping pattern. -/
def key : Reader Key := do
  match ← literal with
  | some c => return .literal c
  | none =>
    let root ← name
    match ← path with
    | [] => failure
    | ns => return .value root ns

/-- An entry of a mapping pattern, or the name for what is left. -/
def mappingItem (pattern : Reader Pattern) : Reader ((Key × Pattern) ⊕ String) := do
  if ← takes (mark "**") then return .inr (← captureName)
  else
    let k ← key
    needs (mark ":")
    return .inl (k, ← pattern)

/-- The literal that a key is. -/
def literalKey? : Key → Option Constant
  | .literal c => some c
  | .value .. => none

/-- The mapping pattern of some items: what is left comes last. -/
def mapping (items : List ((Key × Pattern) ⊕ String)) : Reader Pattern := do
  let entries := items.filterMap Sum.getLeft?
  if (items.dropLast.any Sum.isRight) || !distinctKeys ((entries.map (·.1)).filterMap literalKey?) then
    failure
  return .mapping entries (items.getLast?.bind Sum.getRight?)

/-- A part of an instance: by position, or the value of an attribute. -/
def instanceItem (pattern : Reader Pattern) : Reader (Pattern ⊕ (String × Pattern)) := do
  match ← seesNameAnd "=" with
  | some n =>
    skip 2
    return .inr (n, ← pattern)
  | none => return .inl (← pattern)

/-- The pattern for an instance of a type: parts by position come first, and no attribute twice. -/
def typed (root : String) (path : List String) (items : List (Pattern ⊕ (String × Pattern))) :
    Reader Pattern := do
  let parts := items.filterMap Sum.getLeft?
  let attributes := items.filterMap Sum.getRight?
  if (items.drop parts.length).any Sum.isLeft || !(attributes.map (·.1)).Nodup then failure
  return .typed root path parts attributes

/-! ### The ladder -/

/-- A pattern that begins with a name. -/
def namedPattern (pattern : Reader Pattern) : Reader Pattern := do
  let n ← name
  if n = "_" then return .wildcard
  let ns ← path
  if ← takes (mark "(") then
    let (items, _) ← closedList ")" (instanceItem pattern)
    typed n ns items
  else if ns.isEmpty then
    if ← sees (mark "=") then failure
    bindOnce n
    return .capture n
  else return .value n ns

/-- A pattern with brackets of its own, a literal, or one that begins with a name. -/
def closed (pattern : Reader Pattern) : Reader Pattern := do
  if ← takes (mark "(") then
    let (parts, comma) ← closedList ")" (part pattern)
    openSequence parts comma
  else if ← takes (mark "[") then
    let (parts, _) ← closedList "]" (part pattern)
    sequence parts
  else if ← takes (mark "\x7b") then
    let (items, _) ← closedList "\x7d" (mappingItem pattern)
    mapping items
  else
    match ← literal with
    | some c => return .literal c
    | none => namedPattern pattern

/-- Whether two lists have the same members. -/
def sameMembers (ms ns : List String) : Bool :=
  ms.all ns.contains && ns.all ms.contains

/-- Alternatives, which bind the same names and of which only the last one matches everything. -/
def alternatives (pattern : Reader Pattern) : Reader Pattern := do
  let before := (← get).bound
  let first ← closed pattern
  let names ← boundSince before.length
  let rest ← extend (takesOneOf [(mark "|", ())])
    (fun ps _ => do
      modify fun s => { s with bound := before }
      let p ← closed pattern
      if !sameMembers names (← boundSince before.length) then failure
      return ps ++ [p])
    (← remaining) []
  if rest.isEmpty then return first
  else
    if ((first :: rest).dropLast.any Pattern.isIrrefutable) then failure
    modify fun s => { s with bound := names ++ before }
    return .alternatives (first :: rest)

/-- A pattern, perhaps with a name for what it matches. -/
def pattern : (depth : Nat) → Reader Pattern
  | 0 => failure
  | depth + 1 => do
    let p ← alternatives (pattern depth)
    if ← takes (keyword "as") then
      let n ← captureName
      if (← sees (mark ".")) || (← sees (mark "(")) || (← sees (mark "=")) then failure
      return .named p n
    else return p

end PatternGrammar

/-- **The head of a case**, after its keyword: a pattern, which may be an open sequence, a guard if there
is one, and a colon. What other cases bind does not matter to the pattern. -/
def caseHead (depth : Nat) : Reader (Pattern × Option Expr) := do
  let outer := (← get).bound
  modify fun s => { s with bound := [] }
  let (parts, comma) ← commaList (fun t => t == mark ":" || t == keyword "if")
    (PatternGrammar.part (PatternGrammar.pattern depth)) ((← remaining) + 1)
  if parts.isEmpty then failure
  let p ← PatternGrammar.openSequence parts comma
  modify fun s => { s with bound := s.bound ++ outer }
  let guard ← (do
    if ← takes (keyword "if") then return some (← (grammar depth).named) else return none :
    Reader (Option Expr))
  needs (mark ":")
  return (p, guard)

end TokenTemplate.Payload
