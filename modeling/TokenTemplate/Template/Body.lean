import TokenTemplate.Routine.Encoder
import TokenTemplate.Template.Construct

/-!
# Compiling bodies

A body is a region that is compiled to a routine of its own: the whole template, a branch, the body or
the join of a loop, an arm, or what is under a name for the receiver. Construct by construct it is
handed to an encoder, `TokenTemplate.Body.compile`. A group in a body is compiled in place, with the
same encoder; only the bodies of control constructs get a new one.

Every group and every body is one level deeper than what it stands in, and the depth is limited. So the
recursion is on the number of levels that are left, `TokenTemplate.levels`, and running out of them is
itself the error that a template nests too deeply.
-/

namespace TokenTemplate

/-! ### Outcomes -/

/-- Why a template is not compiled. -/
inductive CompileError
  /-- The template is malformed. -/
  | malformed (e : SyntaxError)
  /-- The elements of a body do not fit together. -/
  | encoder (p : EncoderProblem)

/-- What compiling gives. -/
abbrev Compiled (α : Type) :=
  Except CompileError α

/-- An outcome of reading tokens as an outcome of compiling. -/
def Compiled.ofReading {α : Type} (x : Except SyntaxError α) : Compiled α :=
  x.mapError .malformed

instance : MonadLift (Except SyntaxError) (Except CompileError) :=
  ⟨Compiled.ofReading⟩

/-- Hands an element to an encoder. -/
def Encoder.write (e : Encoder) (span : Span) (cursor : Cursor) (node : Node) : Compiled Encoder :=
  match e.encode span cursor node with
  | (e, none) => .ok e
  | (_, some p) => .error (.encoder p)

/-! ### What a control construct is made of -/

/-- Compiles a body one level further in. Edges are given where the white space next to the delimiters
counts, and a body may be one that ends at a comma. -/
abbrev Bodies :=
  (edges : Option Span) → (untilComma : Bool) → Region → Compiled (Routine × Region)

namespace Construct

/-- The text that a string token stands for. -/
def decode (r : Region) (l : Leaf) : Compiled String :=
  match Payload.tokens? l.text.toList with
  | some [.text s] => .ok s
  | _ => .error (.malformed (r.errorAt (.invalidString l.text) l.span))

/-- The expression that some tokens make up, where the region has got to after them. -/
def expression (r : Region) (tokens : List Tree) : Compiled Expression :=
  if tokens.isEmpty then .error (.malformed (r.error .expectedExpression))
  else Expression.ofSource r.settings (r.textOf tokens) (Region.spanOf tokens r.span)

/-- A body in curly brackets, and the region after it. -/
def bracedBody (bodies : Bodies) (r : Region) : Compiled (Routine × Region) := do
  let (inside, r) ← r.expectGroup .brace
  let (body, _) ← bodies none false inside
  return (body, r)

/-- A body after an arrow, which takes all that is left. -/
def arrowBody (bodies : Bodies) (r : Region) : Compiled (Routine × Region) := do
  let (_, r) ← r.expectArrow
  bodies none false r

/-- A choice: a condition and a body after an arrow, or one or two bodies in curly brackets. -/
def condition (bodies : Bodies) (r : Region) : Compiled (Node × Region) := do
  let (_, r) ← r.expectWord "if"
  let (tokens, r) := r.takeUntil .arrowOrBrace
  let test ← expression r tokens
  if r.peekArrow 0 then
    let (yes, r) ← arrowBody bodies r
    return (.condition test yes none, r)
  else
    let (yes, r) ← bracedBody bodies r
    if r.peekIs (Tree.isWord "else") 0 then
      let (_, r) ← r.next
      let (no, r) ← bracedBody bodies r
      return (.condition test yes (some no), r)
    else return (.condition test yes none, r)

/-- What goes between the items of a loop: the inside of round brackets, where the white space next to
the brackets counts. -/
def join (bodies : Bodies) (r : Region) : Compiled (Option Routine × Region) := do
  if r.peekIs (Tree.isWord "join") 0 then
    let (_, r) ← r.next
    let (inside, r) ← r.expectGroup .parenthesis
    let (body, _) ← bodies (some inside.span) false inside
    return (some body, r)
  else return (none, r)

/-- A loop: a pattern, a source, perhaps a join, and a body. -/
def loop (bodies : Bodies) (r : Region) : Compiled (Node × Region) := do
  let (_, r) ← r.expectWord "for"
  let (tokens, r) := r.takeUntil .wordIn
  let span := Region.spanOf tokens r.currentSpan
  let (_, r) ← r.expectWord "in"
  let pattern ← Case.ofSource r.settings (r.textOf tokens) span none
  let (tokens, r) := r.takeUntil .loopBody
  let source ← expression r tokens
  let (between, r) ← join bodies r
  let (body, r) ← if r.peekArrow 0 then arrowBody bodies r else bracedBody bodies r
  return (.loop pattern source body between, r)

/-- The pattern of an arm, and its guard if it has one. -/
def armPattern (r : Region) : Compiled (Case × Region) := do
  let (tokens, r) := r.takeUntil .guardOrArrow
  let span := Region.spanOf tokens r.currentSpan
  if r.peekIs (Tree.isWord "if") 0 then
    let (_, r) ← r.next
    let (guard, r) := r.takeUntil .arrow
    let pattern ← Case.ofSource r.settings (r.textOf tokens) (Region.spanOf (tokens ++ guard) span)
      (some (r.textOf guard))
    return (pattern, r)
  else
    let pattern ← Case.ofSource r.settings (r.textOf tokens) span none
    return (pattern, r)

/-- An arm: its body stands in curly brackets or reaches to the next comma, which is dropped. -/
def arm (bodies : Bodies) (r : Region) : Compiled (Arm × Region) := do
  let (pattern, r) ← armPattern r
  let (_, r) ← r.expectArrow
  let (body, r) ←
    if r.peekIs (Tree.isGroup .brace) 0 then bracedBody bodies r else bodies none true r
  let r := if r.peekIs (Tree.isPunct ',') 0 then r.goOn (r.tokens.drop 1) else r
  return (⟨pattern, body⟩, r)

/-- The arms of a match, of at most as many tokens as given. -/
def arms (bodies : Bodies) : (fuel : Nat) → Region → Compiled (List Arm)
  | 0, _ => .ok []
  | fuel + 1, r => do
    if r.tokens.isEmpty then return []
    else
      let (a, r) ← arm bodies r
      return a :: (← arms bodies fuel r)

/-- A match: a subject, and arms in curly brackets that end it. -/
def dispatch (bodies : Bodies) (r : Region) : Compiled (Node × Region) := do
  let (_, r) ← r.expectWord "match"
  let (tokens, r) := r.takeUntil .finalBrace
  let subject ← expression r tokens
  let (inside, r) ← r.expectGroup .brace
  return (.dispatch subject (← arms bodies inside.tokens.length inside), r)

/-- A body under a name for the receiver, which may be left out by an underscore. -/
def scope (bodies : Bodies) (r : Region) : Compiled (Node × Region) := do
  let (_, r) ← r.expectWord "ref"
  let (l, r) ← r.expectName
  let name := if l.text = "_" then none else some l.text
  let (body, r) ←
    if r.peekIs (Tree.isGroup .brace) 0 then bracedBody bodies r else arrowBody bodies r
  return (.scope name body, r)

/-- What stands in the brackets after a sigil: a control construct, by its first word, a string literal
alone, or an expression. -/
def payloadNode (bodies : Bodies) (r : Region) : Compiled (Node × Region) :=
  match r.tokens with
  | [.leaf l] =>
    if l.kind = .string then return (.literal (← decode r l), r.goOn []) else other
  | _ => other
where
  /-- Anything but a string literal alone. -/
  other : Compiled (Node × Region) :=
    if r.peekIs (Tree.isWord "if") 0 then condition bodies r
    else if r.peekIs (Tree.isWord "for") 0 then loop bodies r
    else if r.peekIs (Tree.isWord "match") 0 then dispatch bodies r
    else if r.peekIs (Tree.isWord "ref") 0 then scope bodies r
    else do
      let (tokens, r) := r.takeUntil .never
      return (.expression (← expression r tokens), r)

end Construct

/-! ### Bodies -/

/-- Compiles a region with a given encoder; it may be one that ends at a comma. -/
abbrev Inside :=
  (untilComma : Bool) → Encoder → Region → Compiled (Encoder × Region)

/-- How a body is compiled. -/
structure Body where
  /-- The name of the receiver. -/
  receiver : String := "t"
  /-- The choices of the caller. -/
  settings : Settings := {}
  /-- Where the body begins, if white space before its first element counts. -/
  before : Option Position := none
  /-- Where the body ends, if white space after its last element counts. -/
  after : Option Position := none
  /-- Whether the body ends at the first comma. -/
  untilComma : Bool := false
  /-- How deep the body lies. -/
  depth : Int := 0
  deriving Inhabited

namespace Body

/-- The same body between delimiters next to which white space counts. -/
def within (b : Body) (span : Span) : Body :=
  { b with before := some span.start.right, after := some span.stop.left }

/-- The encoder of a body. -/
def encoder (b : Body) : Encoder where
  receiver := b.receiver
  before := b.before
  after := b.after
  filename := b.settings.filename

/-- Compiles a body with an encoder of its own. -/
def compileWith (b : Body) (inside : Inside) (r : Region) : Compiled (Routine × Region) := do
  let (e, r) ← inside b.untilComma b.encoder r
  match e.finish.2 with
  | .ok routine => return (routine, r)
  | .error p => throw (.encoder p)

/-- The bodies one level further in. -/
def bodies (b : Body) (inside : Inside) : Bodies :=
  fun edges untilComma r =>
    let plain : Body := { receiver := b.receiver, settings := b.settings, untilComma }
    (edges.elim plain plain.within).compileWith inside r

/-- Hands a construct to an encoder. Groups may nest `room` levels deep in it; `inside` compiles what
is one level further in. -/
def place (b : Body) (inside : Inside) (room : Nat) (e : Encoder) (r : Region) :
    Construct → Compiled Encoder
  | .escape first second =>
    e.write (first.join second) (first.cursor.join second.cursor) (.token (String.singleton sigil))
  | .block start block => do
    let segments ← Segment.ofRegion (room - 1) block
    e.write block.span (start.cursor.join block.span.cursor)
      (.interpolation (segments.any Segment.isSite) segments)
  | .directive start mark stop w =>
    e.write (start.join mark) (start.cursor.join stop.cursor) (.directive w)
  | .name start l => e.write (start.join l.span) (start.cursor.join l.span.cursor) (.name l.text)
  | .payload start scope => do
    let (node, rest) ← Construct.payloadNode (b.bodies inside) scope
    rest.expectEnd
    e.write (start.join scope.span) (start.cursor.join scope.span.cursor) node
  | .group d group => do
    let cursor := group.span.cursor
    let e ← e.write group.span cursor.firstCharacter (.opening d)
    let (e, _) ← inside false e group
    e.write group.span cursor.lastCharacter (.closing d)
  | .leaf l => do
    let node ← if l.kind = .string then Node.quoted <$> Construct.decode r l else pure (.token l.text)
    e.write l.span l.span.cursor node

/-- Hands the constructs that some tokens begin to an encoder, one after another. -/
def placeAll (b : Body) (inside : Inside) (room : Nat) (untilComma : Bool) (e : Encoder) (r : Region)
    (tokens : List Tree) : Compiled (Encoder × Region) :=
  match tokens with
  | [] => .ok (e, r.goOn [])
  | t :: ts =>
    if untilComma && t.isPunct ',' then .ok (e, r.goOn (t :: ts))
    else match _h : Construct.sight r t ts with
      | .error err => .error (.malformed err)
      | .ok (c, r) => do placeAll b inside room untilComma (← b.place inside room e r c) r r.tokens
termination_by tokens.length
decreasing_by
  have := Construct.sight_length_le _h
  simp only [List.length_cons] at *
  omega

end Body

/-- **Compiles what may nest a number of levels deep**; with none left, every region is too deep. -/
def levels (b : Body) : (room : Nat) → Inside
  | 0 => fun _ _ r => .error (.malformed (r.errorAt (.tooDeep b.settings.maxDepth) r.span))
  | room + 1 => fun untilComma e r => b.placeAll (levels b room) room untilComma e r r.tokens

/-- **Compiles a body**: the routine, and what is left of the region. -/
def Body.compile (b : Body) (r : Region) : Compiled (Routine × Region) :=
  b.compileWith (levels b (b.settings.maxDepth - b.depth + 1).toNat) r

/-- **Compiles a template.** -/
def Routine.ofSource (settings : Settings) (receiver : String) (source : String) :
    Compiled Routine := do
  let r ← Region.ofSource settings source.toList
  let (routine, _) ← Body.compile { receiver, settings } r
  return routine

end TokenTemplate
