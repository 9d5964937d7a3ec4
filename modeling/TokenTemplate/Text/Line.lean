/-!
# Lines of a text

Messages show a line of the source, and they cut the source at every line boundary that the
Unicode standard knows, `TokenTemplate.Text.isLineBreak`, where a carriage return and a line feed
together are one boundary. A boundary ends a line: nothing after the last one is no line.

This is not how positions are counted, which only know the line feed.
-/

namespace TokenTemplate.Text

/-- A character that ends a line. -/
def isLineBreak (c : Char) : Bool :=
  c == '\n' || c == '\r' || c == '\x0b' || c == '\x0c' || c == '\x1c' || c == '\x1d' ||
    c == '\x1e' || c == '\u0085' || c == '\u2028' || c == '\u2029'

/-- The lines of a text, where `line` was read before it and is kept backwards. -/
def linesFrom (line : List Char) : List Char → List (List Char)
  | [] => if line.isEmpty then [] else [line.reverse]
  | '\r' :: '\n' :: cs => line.reverse :: linesFrom [] cs
  | c :: cs => if isLineBreak c then line.reverse :: linesFrom [] cs else linesFrom (c :: line) cs

/-- **The lines of a text**, without what ends them. -/
def lines (s : String) : List String :=
  (linesFrom [] s.toList).map String.ofList

end TokenTemplate.Text
