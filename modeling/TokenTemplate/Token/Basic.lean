import TokenTemplate.Source.Position

/-!
# Token trees

A template is read as a tree of tokens: leaves, which carry their text, and groups between a pair of
delimiters. Nothing after this stage looks at characters; all of it is said in terms of
`TokenTemplate.Tree` and of where its parts stand.

The reading back of a tree as a flat row of pieces is `TokenTemplate.Tree.pieces`: the texts of the
leaves, and for a group its two delimiters around the pieces of its children.
-/

namespace TokenTemplate

/-! ### Delimiters -/

/-- The three kinds of group. -/
inductive Delimiter
  /-- Round brackets. -/
  | parenthesis
  /-- Curly brackets. -/
  | brace
  /-- Square brackets. -/
  | bracket
  deriving DecidableEq, Repr, Inhabited

namespace Delimiter

/-- The character that opens a group. -/
def openChar : Delimiter → Char
  | parenthesis => '('
  | brace => '{'
  | bracket => '['

/-- The character that closes a group. -/
def closeChar : Delimiter → Char
  | parenthesis => ')'
  | brace => '}'
  | bracket => ']'

/-- The opening delimiter as a text. -/
def opening (d : Delimiter) : String :=
  String.singleton d.openChar

/-- The closing delimiter as a text. -/
def closing (d : Delimiter) : String :=
  String.singleton d.closeChar

/-- The group that a character opens. -/
def ofOpen? : Char → Option Delimiter
  | '(' => some parenthesis
  | '{' => some brace
  | '[' => some bracket
  | _ => none

/-- The group that a character closes. -/
def ofClose? : Char → Option Delimiter
  | ')' => some parenthesis
  | '}' => some brace
  | ']' => some bracket
  | _ => none

theorem ofOpen?_eq_some_iff {c : Char} {d : Delimiter} : ofOpen? c = some d ↔ c = d.openChar := by
  constructor
  · intro h
    unfold ofOpen? at h
    split at h <;> simp_all <;> subst h <;> rfl
  · rintro rfl
    cases d <;> rfl

theorem ofClose?_eq_some_iff {c : Char} {d : Delimiter} :
    ofClose? c = some d ↔ c = d.closeChar := by
  constructor
  · intro h
    unfold ofClose? at h
    split at h <;> simp_all <;> subst h <;> rfl
  · rintro rfl
    cases d <;> rfl

end Delimiter

/-! ### Trees -/

/-- The kinds of leaf. -/
inductive LeafKind
  /-- A word that begins with no digit. -/
  | name
  /-- A word that begins with a digit, with at most one point. -/
  | number
  /-- A text between double quotes. -/
  | string
  /-- One character or escape between single quotes. -/
  | char
  /-- Any other single character. -/
  | punct
  deriving DecidableEq, Repr, Inhabited

/-- A token without parts. -/
structure Leaf where
  /-- What sort of token it is. -/
  kind : LeafKind
  /-- Its characters, as they stand in the source. -/
  text : String
  /-- Where it stands. -/
  span : Span
  deriving DecidableEq, Repr, Inhabited

/-- A leaf, or a group with what stands inside. -/
inductive Tree
  /-- A token without parts. -/
  | leaf (leaf : Leaf)
  /-- A pair of delimiters and the tokens between them; the span runs from the first delimiter to the
  second. -/
  | group (delimiter : Delimiter) (children : List Tree) (span : Span)
  deriving Repr, Inhabited

namespace Tree

/-- Where a token stands. -/
def span : Tree → Span
  | leaf l => l.span
  | group _ _ s => s

/-- A leaf of one kind. -/
def isKind (k : LeafKind) : Tree → Bool
  | leaf l => l.kind == k
  | group .. => false

/-- A punctuation character. -/
def isPunct (c : Char) : Tree → Bool
  | leaf l => l.kind == .punct && l.text == String.singleton c
  | group .. => false

/-- A given word. -/
def isWord (w : String) : Tree → Bool
  | leaf l => l.kind == .name && l.text == w
  | group .. => false

/-- A group with given delimiters. -/
def isGroup (d : Delimiter) : Tree → Bool
  | leaf _ => false
  | group d' _ _ => d' == d

/-- Whether a token begins exactly where another one ends. -/
def touches (t u : Tree) : Bool :=
  t.span.stop == u.span.start

mutual

/-- The pieces of a token, in source order: what stands there, and where it begins. -/
def pieces : Tree → List (String × Nat)
  | leaf l => [(l.text, l.span.startPos)]
  | group d children s =>
    (d.opening, s.startPos) :: (allPieces children ++ [(d.closing, s.stopPos - 1)])

/-- The pieces of a row of tokens. -/
def allPieces : List Tree → List (String × Nat)
  | [] => []
  | t :: ts => pieces t ++ allPieces ts

end

mutual

/-- The first group, in the order of opening delimiters, that lies deeper than `room` more levels. -/
def tooDeep? (room : Int) : Tree → Option Span
  | leaf _ => none
  | group _ children s => if room < 1 then some s else anyTooDeep? (room - 1) children

/-- The first such group in a row of tokens. -/
def anyTooDeep? (room : Int) : List Tree → Option Span
  | [] => none
  | t :: ts => (tooDeep? room t).or (anyTooDeep? room ts)

end

end Tree

end TokenTemplate
