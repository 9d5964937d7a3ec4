import TokenTemplate.Source.Position
import TokenTemplate.Text.Line

/-!
# Messages about a text

A `TokenTemplate.Diagnostic` is a message with, if possible, the span that it is about. It is shown as
one line that names the place, `TokenTemplate.Diagnostic.headline`, and, where the source is at hand, as
an excerpt: the line that the span begins on with carets under the span,
`TokenTemplate.Diagnostic.excerpt?`. Both are indented by four blanks.
-/

namespace TokenTemplate

/-- A message about a place of a text. -/
structure Diagnostic where
  /-- What is to be said. -/
  message : String
  /-- The piece of text that it is about. -/
  span : Option Span := none
  /-- The name of the text. -/
  filename : String := "<template>"
  /-- How serious it is. -/
  severity : String := "error"
  /-- Further remarks. -/
  notes : List String := []
  deriving Repr, Inhabited

namespace Diagnostic

/-- The name of the text and, if the span is known, the line and column where it begins. -/
def location (d : Diagnostic) : String :=
  match d.span with
  | none => d.filename
  | some s => s!"{d.filename}:{s.start.line}:{s.start.column}"

/-- The place and the message. -/
def headline (d : Diagnostic) : String :=
  d.location ++ ": " ++ d.message

/-- The carets under a span, as many as it has columns on its first line and at least one. -/
def carets (s : Span) : String :=
  let width := if s.stop.line = s.start.line then max (s.stop.column - s.start.column) 1 else 1
  String.ofList (List.replicate (s.start.column - 1).toNat ' ' ++ List.replicate width.toNat '^')

/-- **The line that a span begins on**, and carets under the span; nothing if the text has no such
line. -/
def excerpt? (source : String) (s : Span) : Option (List String) :=
  let lines := Text.lines source
  if 1 ≤ s.start.line then
    (lines[(s.start.line - 1).toNat]?).map fun line => ["    " ++ line, "    " ++ carets s]
  else none

/-- The whole message, with an excerpt of the source if that is given. -/
def render (d : Diagnostic) (source : Option String) : String :=
  let head := s!"{d.location}: {d.severity}: {d.message}"
  let excerpt := match source, d.span with
    | some text, some s => (excerpt? text s).getD []
    | _, _ => []
  "\n".intercalate (head :: excerpt ++ d.notes.map ("note: " ++ ·))

end Diagnostic

end TokenTemplate
