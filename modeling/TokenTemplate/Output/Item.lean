/-!
# Output items

What a receiver holds: pieces of text, and marks for white space that are turned into characters only
when the whole output is laid out. The names of the marks are also the names of the directives that
write them.
-/

namespace TokenTemplate

/-- A mark for white space. -/
inductive Whitespace
  /-- A blank between two texts on one line. -/
  | space
  /-- The end of a line. -/
  | push
  /-- The end of a line, and an empty line. -/
  | line
  /-- One level of indentation more. -/
  | indent
  /-- One level of indentation less. -/
  | unindent
  deriving DecidableEq, Repr, Inhabited

namespace Whitespace

/-- All marks, in the order in which messages name them. -/
def all : List Whitespace :=
  [space, push, line, indent, unindent]

/-- The name of a mark. -/
def name : Whitespace → String
  | space => "space"
  | push => "push"
  | line => "line"
  | indent => "indent"
  | unindent => "unindent"

/-- The mark of a given name. -/
def ofName? (n : String) : Option Whitespace :=
  all.find? (·.name == n)

end Whitespace

/-- A piece of text, or a mark for white space. -/
inductive Item
  /-- A piece of text. -/
  | text (s : String)
  /-- A mark for white space. -/
  | space (w : Whitespace)
  deriving DecidableEq, Repr, Inhabited

/-- Whether an item is a text. -/
def Item.isText : Item → Bool
  | text _ => true
  | space _ => false

end TokenTemplate
