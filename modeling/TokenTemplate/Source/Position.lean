/-!
# Positions, spans and cursors

Where a piece of template text stands. A `TokenTemplate.Position` is a line and a column, both
counted from one, and positions are ordered line first. A `TokenTemplate.Span` is a half-open piece
of text: two positions, and the two offsets that cut the same piece out of the source. A
`TokenTemplate.Cursor` forgets the offsets; it is what spacing decisions look at, since the distance
between two tokens on the page is a matter of lines and columns only.

Lines and columns are integers, because a span may be handed in from outside, where nothing keeps
its numbers positive; offsets are natural numbers.

Two spans are joined by position: `TokenTemplate.Span.join` takes the offset of each end from the span
that the end was taken from, so a join of two pieces of one source is again a piece of that source.
-/

namespace TokenTemplate

/-! ### Positions -/

/-- A place on the page. -/
structure Position where
  /-- The line, counted from one. -/
  line : Int
  /-- The column, counted from one in code points. -/
  column : Int
  deriving DecidableEq, Repr, Inhabited

namespace Position

/-- **The page order**: the earlier line first, and on one line the smaller column. -/
def before (p q : Position) : Bool :=
  p.line < q.line || (p.line == q.line && p.column < q.column)

/-- Not after: before, or the same place. -/
def upTo (p q : Position) : Bool :=
  p.before q || p == q

/-- The earlier of two positions; of equal ones the first. -/
def earlier (p q : Position) : Position :=
  if q.before p then q else p

/-- The later of two positions; of equal ones the first. -/
def later (p q : Position) : Position :=
  if p.before q then q else p

/-- One column to the right. -/
def right (p : Position) : Position :=
  ⟨p.line, p.column + 1⟩

/-- One column to the left, never past the first. -/
def left (p : Position) : Position :=
  ⟨p.line, max (p.column - 1) 1⟩

/-- The first place of a text. -/
def origin : Position :=
  ⟨1, 1⟩

/-- The place after a character: only a line feed begins a new line. -/
def advance (p : Position) (c : Char) : Position :=
  if c = '\n' then ⟨p.line + 1, 1⟩ else p.right

theorem before_iff {p q : Position} :
    p.before q = true ↔ p.line < q.line ∨ (p.line = q.line ∧ p.column < q.column) := by
  simp [before]

theorem before_irrefl (p : Position) : p.before p = false := by
  simp [before]

theorem before_trans {p q r : Position} (h : p.before q = true) (h' : q.before r = true) :
    p.before r = true := by
  rw [before_iff] at *
  omega

/-- Two places are equal or one of them is before the other. -/
theorem before_total (p q : Position) : p.before q = true ∨ p = q ∨ q.before p = true := by
  obtain ⟨l, c⟩ := p
  obtain ⟨l', c'⟩ := q
  simp only [before_iff, Position.mk.injEq]
  omega

end Position

/-! ### Spans -/

/-- A half-open piece of text: the end is the place just after the last character. -/
structure Span where
  /-- The place of the first character. -/
  start : Position
  /-- The place just after the last character. -/
  stop : Position
  /-- The offset of the first character. -/
  startPos : Nat
  /-- The offset just after the last character. -/
  stopPos : Nat
  deriving DecidableEq, Repr, Inhabited

namespace Span

/-- The empty piece at a place. -/
def point (here : Position) (pos : Nat) : Span :=
  ⟨here, here, pos, pos⟩

/-- **The piece that covers two pieces**: it begins where the earlier one begins and ends where the
later one ends. -/
def join (a b : Span) : Span :=
  let first := if a.start.upTo b.start then a else b
  let last := if b.stop.upTo a.stop then a else b
  ⟨first.start, last.stop, first.startPos, last.stopPos⟩

end Span

/-! ### Cursors -/

/-- The two ends that spacing decisions compare. -/
structure Cursor where
  /-- The place of the first character. -/
  start : Position
  /-- The place just after the last character. -/
  stop : Position
  deriving DecidableEq, Repr, Inhabited

namespace Cursor

/-- The cursor that covers two cursors. -/
def join (a b : Cursor) : Cursor :=
  ⟨a.start.earlier b.start, a.stop.later b.stop⟩

/-- The cursor of the first character alone. -/
def firstCharacter (c : Cursor) : Cursor :=
  ⟨c.start, c.start.right⟩

/-- The cursor of the last character alone. -/
def lastCharacter (c : Cursor) : Cursor :=
  ⟨c.stop.left, c.stop⟩

end Cursor

/-- The ends of a span. -/
def Span.cursor (s : Span) : Cursor :=
  ⟨s.start, s.stop⟩

end TokenTemplate
