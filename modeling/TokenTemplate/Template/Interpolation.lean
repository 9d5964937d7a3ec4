import TokenTemplate.Region
import TokenTemplate.Routine.Basic

/-!
# Interpolated texts

The inside of an interpolation block is a text with sites to evaluate. It is read in two steps. First
its tokens become a row of pieces, `TokenTemplate.Piece.ofRegion`, each with the place that it takes in
the source: a text for a token, for a delimiter or for an escaped sigil, and an expression for a site.
Then the gaps between the pieces are filled from the source, `TokenTemplate.Segment.ofPieces`, where a
gap with a line break in it counts as one blank. Texts that meet become one segment, and none is empty.
-/

namespace TokenTemplate

/-- The character that control constructs begin with. -/
def sigil : Char :=
  '#'

/-! ### Pieces -/

/-- What a piece of a block stands for. -/
inductive PieceContent
  /-- A text, as it is. -/
  | text (s : String)
  /-- A site to evaluate. -/
  | site (e : Expression)

/-- A piece of a block. -/
structure Piece where
  /-- Where it begins. -/
  start : Nat
  /-- Where it ends. -/
  stop : Nat
  /-- What it stands for. -/
  content : PieceContent

namespace Piece

/-- What begins at the front of a block. -/
inductive Sighting
  /-- One piece. -/
  | piece (p : Piece)
  /-- A group with its delimiters and its inside. -/
  | group (d : Delimiter) (inside : Region)

/-- The site that two tokens make up, with the text that it is to evaluate. -/
def site (r : Region) (source : String) (first last : Span) : Except SyntaxError Sighting := do
  let span := first.join last
  let e ← Expression.ofSource r.settings source span
  return .piece ⟨first.startPos, last.stopPos, .site e⟩

/-- A token that is not the beginning of anything. -/
def plain (r : Region) : Tree → Sighting
  | .leaf l => .piece ⟨l.span.startPos, l.span.stopPos, .text l.text⟩
  | .group d children span => .group d (r.inside children span)

/-- What the first token of a block begins, and the tokens after it. Two sigils that touch are one;
directives and blocks are refused; a sigil before a name or a group in round brackets is a site. -/
def sight (r : Region) (t : Tree) (ts : List Tree) : Except SyntaxError (Sighting × List Tree) := do
  match ts with
  | u :: rest =>
    if !t.isPunct sigil then return (plain r t, ts)
    else if u.isPunct sigil && t.touches u then
      return (.piece ⟨t.span.startPos, u.span.stopPos, .text (String.singleton sigil)⟩, rest)
    else if u.isPunct '<' && t.touches u then throw (r.errorAt .directiveInString t.span)
    else match u with
      | .leaf l =>
        if l.kind ≠ .name then return (plain r t, ts)
        else if l.text = "_" && (rest.head?).any (Tree.isGroup .parenthesis) then
          throw (r.errorAt .nestedString t.span)
        else return (← site r l.text t.span l.span, rest)
      | .group .parenthesis children span =>
        if children.isEmpty then throw (r.errorAt .expectedExpression span)
        else return (← site r ((r.inside children span).textOf children) t.span span, rest)
      | .group .. => return (plain r t, ts)
  | [] => return (plain r t, ts)

theorem sight_length_le {r : Region} {t : Tree} {ts : List Tree} {s : Sighting × List Tree}
    (h : sight r t ts = .ok s) : s.2.length ≤ ts.length := by
  unfold sight at h
  split at h
  · next u rest =>
    repeat' split at h
    all_goals first
      | (obtain rfl := Except.ok.inj h; simp)
      | (simp only [bind, Except.bind, pure, Except.pure] at h
         split at h
         · simp at h
         · obtain rfl := Except.ok.inj h
           simp)
      | exact absurd h (by simp [throw, throwThe, MonadExceptOf.throw])
  · obtain rfl := Except.ok.inj h
    simp

/-- The pieces of some tokens; `inner` gives those inside a group. -/
def ofTokens (inner : Region → Except SyntaxError (List Piece)) (r : Region) (tokens : List Tree) :
    Except SyntaxError (List Piece) :=
  match tokens with
  | [] => .ok []
  | t :: ts =>
    match _h : sight r t ts with
    | .error e => .error e
    | .ok (.piece p, rest) => do return p :: (← ofTokens inner r rest)
    | .ok (.group d inside, rest) => do
      let span := inside.span
      let before : Piece := ⟨span.startPos, span.startPos + 1, .text d.opening⟩
      let after : Piece := ⟨span.stopPos - 1, span.stopPos, .text d.closing⟩
      let within ← inner inside
      return before :: (within ++ after :: (← ofTokens inner r rest))
termination_by tokens.length
decreasing_by
  all_goals
    have := sight_length_le _h
    simp only [List.length_cons] at *
    omega

/-- **The pieces of a block** whose groups may nest `room` levels deep, in source order. -/
def ofRegion : (room : Nat) → Region → Except SyntaxError (List Piece)
  | 0, r =>
    ofTokens (fun g => .error (g.errorAt (.tooDeep g.settings.maxDepth) g.span)) r r.tokens
  | room + 1, r => ofTokens (ofRegion room) r r.tokens

end Piece

/-! ### Segments -/

namespace Segment

/-- The text of a gap: as it is, unless it holds a line break. -/
def gap (source : List Char) (start stop : Nat) : String :=
  let between := (source.take stop).drop start
  if between.contains '\n' then " " else String.ofList between

/-- A text before some segments. -/
def addText (text : String) : List Segment → List Segment
  | .literal more :: rest => .literal (text ++ more) :: rest
  | rest => if text.isEmpty then rest else .literal text :: rest

/-- The segments that pieces make up, with the gaps between them. -/
def ofPieces (source : List Char) : List Piece → List Segment
  | [] => []
  | p :: ps =>
    let rest := match ps with
      | [] => []
      | q :: _ => addText (gap source p.stop q.start) (ofPieces source ps)
    match p.content with
    | .text s => addText s rest
    | .site e => .site e :: rest

/-- Whether a segment has to be evaluated. -/
def isSite : Segment → Bool
  | .literal _ => false
  | .site _ => true

/-- **The segments of an interpolation block** whose groups may nest `room` levels deep. -/
def ofRegion (room : Nat) (r : Region) : Except SyntaxError (List Segment) := do
  return ofPieces r.source (← Piece.ofRegion room r)

/-- The segments of an interpolation block that lies at some depth. -/
def ofBlock (depth : Int) (r : Region) : Except SyntaxError (List Segment) :=
  ofRegion (r.settings.maxDepth - depth).toNat r

end Segment

end TokenTemplate
