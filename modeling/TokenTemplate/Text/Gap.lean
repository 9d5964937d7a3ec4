import TokenTemplate.Number.Numeral

/-!
# Texts with gaps

A text can have gaps that are filled with values later on. A gap begins with a per cent sign and says what is
to be filled in and how: perhaps a key, in round brackets, then flags, a width and a precision, and at last a
letter. `TokenTemplate.Text.pieces` takes a text apart; whatever the text is, this succeeds, and a gap that
ends too early is a gap without a letter. `TokenTemplate.Text.Gap.padded` lays out what is filled in.
-/

namespace TokenTemplate.Text

/-! ### Gaps -/

/-- What a gap says about a value to be looked up. -/
inductive GapKey
  /-- Nothing: the next value is taken. -/
  | absent
  /-- The key that it has. -/
  | named (key : List Char)
  /-- A key that does not end. -/
  | unfinished
  deriving DecidableEq, Repr, Inhabited

/-- A width or a precision. -/
inductive Extent
  /-- None. -/
  | absent
  /-- A number. -/
  | fixed (n : Nat)
  /-- The next value. -/
  | given
  deriving DecidableEq, Repr, Inhabited

/-- A gap. -/
structure Gap where
  /-- Where its value is looked up. -/
  key : GapKey
  /-- Its flags. -/
  flags : List Char
  /-- How wide it is at least. -/
  width : Extent
  /-- How many digits, or at most how many characters, it has. -/
  precision : Extent
  /-- What it is filled with; nothing if the text ends before that. -/
  letter : Option Char
  deriving DecidableEq, Repr, Inhabited

/-- A piece of a text with gaps. -/
inductive Piece
  /-- A character that stands for itself. -/
  | char (c : Char)
  /-- A gap. -/
  | gap (g : Gap)
  deriving DecidableEq, Repr, Inhabited

/-! ### Reading -/

/-- The key up to the bracket that closes it, and what comes after that, where `inner` brackets more have to
be closed before. -/
def closeKey? : (inner : Nat) → List Char → Option (List Char × List Char)
  | _, [] => none
  | 0, ')' :: cs => some ([], cs)
  | inner + 1, ')' :: cs => (closeKey? inner cs).map fun p => (')' :: p.1, p.2)
  | inner, '(' :: cs => (closeKey? (inner + 1) cs).map fun p => ('(' :: p.1, p.2)
  | inner, c :: cs => (closeKey? inner cs).map fun p => (c :: p.1, p.2)

/-- The key that a gap begins with, and what comes after it. -/
def gapKey : List Char → GapKey × List Char
  | '(' :: cs =>
    match closeKey? 0 cs with
    | some (key, rest) => (.named key, rest)
    | none => (.unfinished, [])
  | cs => (.absent, cs)

/-- Whether a character is a flag. -/
def isFlag (c : Char) : Bool :=
  c == '-' || c == '+' || c == ' ' || c == '#' || c == '0'

/-- The extent that a text begins with, and what comes after it. -/
def extent : List Char → Extent × List Char
  | '*' :: cs => (.given, cs)
  | cs =>
    match cs.takeWhile Char.isDigit with
    | [] => (.absent, cs)
    | ds => (.fixed (Number.natOfDigits ds), cs.dropWhile Char.isDigit)

/-- The precision that a text begins with, and what comes after it. A point alone means none at all. -/
def gapPrecision : List Char → Extent × List Char
  | '.' :: cs =>
    match extent cs with
    | (.absent, rest) => (.fixed 0, rest)
    | found => found
  | cs => (.absent, cs)

/-- A text without a mark for a size of numbers, which means nothing. -/
def dropSizeMark : List Char → List Char
  | [] => []
  | c :: cs => if c = 'h' ∨ c = 'l' ∨ c = 'L' then cs else c :: cs

/-- The gap that begins after a per cent sign, and what comes after it. -/
def gap (cs : List Char) : Gap × List Char :=
  let (key, cs) := gapKey cs
  let flags := cs.takeWhile isFlag
  let (width, cs) := extent (cs.dropWhile isFlag)
  let (precision, cs) := gapPrecision cs
  let cs := dropSizeMark cs
  (⟨key, flags, width, precision, cs.head?⟩, cs.drop 1)

/-- The pieces of a text, at most `fuel` of them. -/
def piecesFrom : (fuel : Nat) → List Char → List Piece
  | 0, _ => []
  | _ + 1, [] => []
  | fuel + 1, '%' :: '%' :: cs => .char '%' :: piecesFrom fuel cs
  | fuel + 1, '%' :: cs =>
    let (g, rest) := gap cs
    .gap g :: piecesFrom fuel rest
  | fuel + 1, c :: cs => .char c :: piecesFrom fuel cs

/-- **The pieces of a text**, of which there are no more than characters. -/
def pieces (cs : List Char) : List Piece :=
  piecesFrom cs.length cs

/-! ### Layout -/

/-- What is known of a gap when it is filled. -/
structure Gap.Layout where
  /-- Its flags. -/
  flags : List Char
  /-- How wide it is at least. -/
  width : Nat
  /-- How many digits, or at most how many characters, it has. -/
  precision : Option Nat

namespace Gap.Layout

/-- **What is filled in, made as wide as the gap.** The lead, a sign for instance, stays in front of zeros and
behind blanks. -/
def padded (l : Layout) (zeros : Bool) (lead body : List Char) : List Char :=
  let missing := l.width - (lead.length + body.length)
  if l.flags.contains '-' then lead ++ body ++ List.replicate missing ' '
  else if zeros then lead ++ List.replicate missing '0' ++ body
  else List.replicate missing ' ' ++ lead ++ body

/-- A text in a gap. -/
def text (l : Layout) (cs : List Char) : List Char :=
  l.padded false [] (match l.precision with
    | some n => cs.take n
    | none => cs)

/-- A number in a gap, with its sign and with what its digits begin with. -/
def number (l : Layout) (negative : Bool) (mark digits : List Char) : List Char :=
  let sign :=
    if negative then ['-']
    else if l.flags.contains '+' then ['+']
    else if l.flags.contains ' ' then [' ']
    else []
  l.padded (l.flags.contains '0') (sign ++ mark) digits

/-- Digits of a whole number, as many as are asked for. -/
def filledUp (l : Layout) (digits : List Char) : List Char :=
  List.replicate (l.precision.getD 0 - digits.length) '0' ++ digits

end Gap.Layout

end TokenTemplate.Text
