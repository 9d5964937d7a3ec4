import TokenTemplate.Token.Assembly

/-!
# Regions

A region is what is read next: a whole template, or the inside of a group, with the tokens that are
still to come. `TokenTemplate.Region` is a value, and taking a token from it gives another region; so
the inside of a group is read without moving the region around it.

Looking ahead is by number of tokens. What is wanted but not there is a
`TokenTemplate.SyntaxError` at `TokenTemplate.Region.currentSpan`: at the next token, or at the end of the
region, which for the inside of a group is its closing delimiter.

Payloads are cut out of the source from their first to their last token,
`TokenTemplate.Region.textOf`, so that their own spacing survives.
-/

namespace TokenTemplate

/-- A piece of the template, read up to some place. -/
structure Region where
  /-- The whole source. -/
  source : List Char
  /-- The choices of the caller. -/
  settings : Settings
  /-- Where the whole region stands, delimiters included. -/
  span : Span
  /-- Whether the span ends with a closing delimiter. -/
  enclosed : Bool
  /-- The tokens that are still to come. -/
  tokens : List Tree
  deriving Inhabited

namespace Region

/-! ### Regions of a template -/

/-- The whole of a template. -/
def ofSource (settings : Settings) (source : List Char) : Except SyntaxError Region := do
  let tokens ← Tree.ofSource settings source
  return ⟨source, settings, .ofSource source, false, tokens⟩

/-- The inside of a group. -/
def inside (r : Region) (children : List Tree) (span : Span) : Region :=
  ⟨r.source, r.settings, span, true, children⟩

/-- The same region with other tokens to come. -/
def goOn (r : Region) (tokens : List Tree) : Region :=
  { r with tokens := tokens }

/-! ### Where a region has got to -/

/-- The end of the region: its closing delimiter, or the place after the last character. -/
def endSpan (r : Region) : Span :=
  if r.enclosed then ⟨r.span.stop.left, r.span.stop, r.span.stopPos - 1, r.span.stopPos⟩
  else .point r.span.stop r.span.stopPos

/-- The next token, or the end of the region. -/
def currentSpan (r : Region) : Span :=
  match r.tokens with
  | t :: _ => t.span
  | [] => r.endSpan

/-- A complaint about a given piece of text. -/
def errorAt (r : Region) (problem : SyntaxProblem) (span : Span) : SyntaxError :=
  ⟨problem, span, r.settings.filename⟩

/-- A complaint about what comes next. -/
def error (r : Region) (problem : SyntaxProblem) : SyntaxError :=
  r.errorAt problem r.currentSpan

/-! ### Looking ahead -/

/-- The token that comes after `n` others. -/
def peek (r : Region) (n : Nat) : Option Tree :=
  r.tokens[n]?

/-- Whether the token after `n` others has a property. -/
def peekIs (r : Region) (p : Tree → Bool) (n : Nat) : Bool :=
  (r.peek n).any p

/-- Whether the token after `n` others ends where the next one begins. -/
def adjacent (r : Region) (n : Nat) : Bool :=
  match r.peek n, r.peek (n + 1) with
  | some t, some u => t.touches u
  | _, _ => false

/-- Whether an arrow comes after `n` tokens: an equals sign and, touching it, a greater sign. -/
def peekArrow (r : Region) (n : Nat) : Bool :=
  r.peekIs (Tree.isPunct '=') n && r.peekIs (Tree.isPunct '>') (n + 1) && r.adjacent n

/-! ### Taking tokens -/

/-- The next token, and the region after it. -/
def next (r : Region) : Except SyntaxError (Tree × Region) :=
  match r.tokens with
  | t :: ts => .ok (t, r.goOn ts)
  | [] => .error (r.error .unexpectedEnd)

/-- The next token if it has a property, else a complaint. -/
def expect (r : Region) (p : Tree → Bool) (problem : SyntaxProblem) :
    Except SyntaxError (Tree × Region) :=
  match r.tokens with
  | t :: ts => if p t then .ok (t, r.goOn ts) else .error (r.error problem)
  | [] => .error (r.error problem)

/-- A punctuation character. -/
def expectPunct (r : Region) (c : Char) : Except SyntaxError (Tree × Region) :=
  r.expect (Tree.isPunct c) (.expectedText (String.singleton c))

/-- A given word. -/
def expectWord (r : Region) (w : String) : Except SyntaxError (Tree × Region) :=
  r.expect (Tree.isWord w) (.expectedText w)

/-- Any word. -/
def expectName (r : Region) : Except SyntaxError (Leaf × Region) :=
  match r.tokens with
  | .leaf l :: ts =>
    if l.kind = .name then .ok (l, r.goOn ts) else .error (r.error .expectedIdentifier)
  | _ => .error (r.error .expectedIdentifier)

/-- A group with given delimiters: its inside, and the region after it. -/
def expectGroup (r : Region) (d : Delimiter) : Except SyntaxError (Region × Region) :=
  match r.tokens with
  | .group d' children span :: ts =>
    if d' = d then .ok (r.inside children span, r.goOn ts)
    else .error (r.error (.expectedGroup d))
  | _ => .error (r.error (.expectedGroup d))

/-- An arrow: the piece that it covers, and the region after it. -/
def expectArrow (r : Region) : Except SyntaxError (Span × Region) :=
  match r.tokens with
  | t :: u :: ts =>
    if r.peekArrow 0 then .ok (t.span.join u.span, r.goOn ts)
    else .error (r.error (.expectedText "=>"))
  | _ => .error (r.error (.expectedText "=>"))

/-- Nothing more. -/
def expectEnd (r : Region) : Except SyntaxError Unit :=
  if r.tokens.isEmpty then .ok () else .error (r.error .trailingTokens)

/-! ### Payloads -/

/-- The piece of source from the first to the last of some tokens. -/
def textOf (r : Region) (tokens : List Tree) : String :=
  match tokens.head?, tokens.getLast? with
  | some t, some u =>
    String.ofList ((r.source.take u.span.stopPos).drop t.span.startPos)
  | _, _ => ""

/-- Where some tokens stand; `fallback` if there are none. -/
def spanOf (tokens : List Tree) (fallback : Span) : Span :=
  match tokens.head?, tokens.getLast? with
  | some t, some u => t.span.join u.span
  | _, _ => fallback

/-- Where a payload ends: a condition on the token before, if any was taken, and on the region from
there. -/
abbrev Stop :=
  Option Tree → Region → Bool

/-- Takes tokens up to where a payload ends; `last` is the token before, if any was taken. -/
def splitFrom (r : Region) (stop : Stop) (last : Option Tree) :
    List Tree → List Tree × List Tree
  | [] => ([], [])
  | t :: ts =>
    if stop last (r.goOn (t :: ts)) then ([], t :: ts)
    else
      let (taken, rest) := splitFrom r stop (some t) ts
      (t :: taken, rest)

/-- **The tokens of a payload**, and the region after it. -/
def takeUntil (r : Region) (stop : Stop) : List Tree × Region :=
  let (taken, rest) := splitFrom r stop none r.tokens
  (taken, r.goOn rest)

/-! ### Where payloads end -/

namespace Stop

/-- At no place. -/
def never : Stop :=
  fun _ _ => false

/-- At an arrow. -/
def arrow : Stop :=
  fun _ r => r.peekArrow 0

/-- At an arrow or a group in curly brackets. -/
def arrowOrBrace : Stop :=
  fun _ r => r.peekArrow 0 || r.peekIs (Tree.isGroup .brace) 0

/-- At the word `in`. -/
def wordIn : Stop :=
  fun _ r => r.peekIs (Tree.isWord "in") 0

/-- At what follows a loop source: an arrow, a group in curly brackets, or the word `join` before a
group in round brackets, unless it opens the source or follows a point. -/
def loopBody : Stop :=
  fun last r =>
    arrowOrBrace last r ||
      (r.peekIs (Tree.isWord "join") 0 && r.peekIs (Tree.isGroup .parenthesis) 1 &&
        last.any fun t => !t.isPunct '.')

/-- At a group in curly brackets with nothing after it. -/
def finalBrace : Stop :=
  fun _ r => r.peekIs (Tree.isGroup .brace) 0 && r.tokens.length == 1

/-- At the word `if` or an arrow. -/
def guardOrArrow : Stop :=
  fun _ r => r.peekIs (Tree.isWord "if") 0 || r.peekArrow 0

end Stop

end Region

end TokenTemplate
