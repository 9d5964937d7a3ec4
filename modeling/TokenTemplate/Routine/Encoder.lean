import TokenTemplate.Routine.Basic
import TokenTemplate.Text.Quoted

/-!
# Encoding

A routine is written element by element: each `TokenTemplate.Node` of a template comes with its cursor,
and is lowered to instructions by itself. The white space between two elements is decided by the end of
one cursor and the start of the next, `TokenTemplate.spacing?`, and by nothing else.

Opening and closing delimiters are elements too. They have to match, and what goes wrong with them,
`TokenTemplate.EncoderProblem`, is no fault of a template: a template that compiles never causes it.
-/

namespace TokenTemplate

/-! ### Elements -/

/-- One arm of a match: a case and its body. -/
structure Arm where
  /-- What the subject has to match. -/
  pattern : Case
  /-- What is run then. -/
  body : Routine

/-- What an element of a template is. -/
inductive Node
  /-- A token, as it is. -/
  | token (text : String)
  /-- The text of a string literal that stands by itself. -/
  | quoted (text : String)
  /-- The text of a string literal in a splice. -/
  | literal (text : String)
  /-- The first delimiter of a group. -/
  | opening (d : Delimiter)
  /-- The second delimiter of a group. -/
  | closing (d : Delimiter)
  /-- The splice of a name. -/
  | name (n : String)
  /-- The splice of an expression. -/
  | expression (e : Expression)
  /-- An interpolated text; it may be known that no part of it is evaluated. -/
  | interpolation (evaluated : Bool) (segments : List Segment)
  /-- A directive. -/
  | directive (w : Whitespace)
  /-- A choice between two bodies. -/
  | condition (test : Expression) (yes : Routine) (no : Option Routine)
  /-- A loop. -/
  | loop (pattern : Case) (source : Expression) (body : Routine) (join : Option Routine)
  /-- A choice between several bodies. -/
  | dispatch (subject : Expression) (arms : List Arm)
  /-- A body with a name for the receiver. -/
  | scope (name : Option String) (body : Routine)
  /-- Something that is no element. -/
  | unsupported (text : String)

/-- An element with the place where it stands. -/
structure Element where
  /-- The piece of the template. -/
  span : Span
  /-- The ends that spacing looks at. -/
  cursor : Cursor
  /-- What it is. -/
  node : Node

/-! ### Problems -/

/-- What can be wrong with a row of elements. -/
inductive EncoderProblem
  /-- A closing delimiter where no group is open. -/
  | notOpen (closing : Delimiter)
  /-- A closing delimiter that does not match the innermost open group. -/
  | mismatch (closing opened : Delimiter)
  /-- A group that is still open at the end. -/
  | unclosed (opened : Delimiter)
  /-- Something that is no element. -/
  | unsupported (text : String)
  deriving DecidableEq, Repr

/-- The wording of a problem. -/
def EncoderProblem.message : EncoderProblem → String
  | notOpen d => s!"closing {Text.quoted d.closing} without an open delimiter"
  | mismatch d o => s!"closing {Text.quoted d.closing} does not match open {Text.quoted o.opening}"
  | unclosed d => s!"unclosed delimiter {Text.quoted d.opening} at end of program"
  | unsupported text => s!"unsupported node {Text.quoted text}"

/-! ### Spacing -/

/-- **The white space between two places**: none if they touch or the second is not further on, a
blank on one line, a line break to the next line, and an empty line for anything further down. -/
def spacing? (last next : Position) : Option Whitespace :=
  if next.line = last.line then
    if last.column < next.column then some .space else none
  else if next.line = last.line + 1 then some .push
  else if last.line < next.line then some .line
  else none

/-! ### The encoder -/

/-- A routine that is being written. -/
structure Encoder where
  /-- The name of the receiver. -/
  receiver : String
  /-- Where the elements begin, if white space before the first one counts. -/
  before : Option Position := none
  /-- Where the elements end, if white space after the last one counts. -/
  after : Option Position := none
  /-- The name of the template. -/
  filename : String := "<template>"
  /-- The elements so far. -/
  elements : List Element := []
  /-- The instructions so far. -/
  instructions : List Instruction := []
  /-- The end of the last element. -/
  last : Option Position := none
  /-- The groups that are open, the innermost first. -/
  opened : List Delimiter := []

namespace Encoder

/-- Writes an instruction. -/
def emit (e : Encoder) (i : Instruction) : Encoder :=
  { e with instructions := e.instructions ++ [i] }

/-- Writes the white space up to a place, counted from the last element or, before the first one, from
where the elements begin. -/
def space (e : Encoder) (next : Position) : Encoder :=
  match (e.last.or e.before).bind (spacing? · next) with
  | some w => e.emit (.layout w)
  | none => e

/-- Writes an element without the white space before it. -/
def lower (e : Encoder) (span : Span) : Node → Encoder × Option EncoderProblem
  | .token text => (e.emit (.append text), none)
  | .quoted text => (e.emit (.append text), none)
  | .literal text => (e.emit (.append text), none)
  | .opening d =>
    let e := { e with opened := d :: e.opened }.emit (.append d.opening)
    (if d = .brace then e.emit (.layout .indent) else e, none)
  | .closing d =>
    match e.opened with
    | [] => (e, some (.notOpen d))
    | o :: opened =>
      let e := { e with opened := opened }
      if o = d then
        let e := if d = .brace then e.emit (.layout .unindent) else e
        (e.emit (.append d.closing), none)
      else (e, some (.mismatch d o))
  | .name n => (e.emit (.spliceName n span), none)
  | .expression x => (e.emit (.splice x), none)
  | .interpolation true segments => (e.emit (.interpolate segments), none)
  | .interpolation false segments =>
    let texts := segments.map fun
      | .literal text => text
      | .site _ => ""
    (e.emit (.append (String.join texts)), none)
  | .directive w => (e.emit (.layout w), none)
  | .condition test yes no => (e.emit (.branch test yes no), none)
  | .loop pattern source body join => (e.emit (.iterate pattern source body join), none)
  | .dispatch subject arms =>
    (e.emit (.dispatch subject (arms.map fun a => (a.pattern, a.body))), none)
  | .scope name body => (e.emit (.rebind name body), none)
  | .unsupported text => (e, some (.unsupported text))

/-- **Writes an element** with the white space before it. -/
def encode (e : Encoder) (span : Span) (cursor : Cursor) (node : Node) :
    Encoder × Option EncoderProblem :=
  let e := e.space cursor.start
  let e := { e with last := some cursor.stop, elements := e.elements ++ [Element.mk span cursor node] }
  e.lower span node

/-- **Ends the routine**, with the white space after the last element. -/
def finish (e : Encoder) : Encoder × Except EncoderProblem Routine :=
  let e := e.after.elim e e.space
  match e.opened with
  | [] => (e, .ok ⟨e.receiver, e.instructions, e.filename⟩)
  | d :: _ => (e, .error (.unclosed d))

end Encoder

end TokenTemplate
