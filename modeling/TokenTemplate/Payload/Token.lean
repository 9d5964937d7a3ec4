import TokenTemplate.Number.Numeral
import TokenTemplate.Payload.Syntax
import TokenTemplate.Text.Escape
import TokenTemplate.Unicode.Identifier

/-!
# Payload tokens

A payload is read as a row of words, literals and marks, `TokenTemplate.Payload.Token`. Inside brackets line
breaks count as blanks; where no bracket is open a line break ends the row. Brackets have to match, and
at most two hundred may be open at one time. An expression has to be a single row,
`TokenTemplate.Payload.tokens?`. A program has many, and how far they are indented is told by tokens between
them, `TokenTemplate.Payload.programTokens?`.

Numbers are more delicate than they look: `TokenTemplate.Payload.numeral?` lets digits be grouped by
single underscores, refuses a whole number that begins with a useless zero, and refuses a number that
runs into a word, unless that word begins like an operator or a clause.
-/

namespace TokenTemplate.Payload

/-- A token of a payload. -/
inductive Token
  /-- A name or a keyword. -/
  | word (w : String)
  /-- A number. -/
  | number (c : Constant)
  /-- A string literal, as what it stands for. -/
  | text (s : String)
  /-- An operator or a delimiter. -/
  | mark (m : String)
  /-- The end of a line of a program. -/
  | lineEnd
  /-- The lines from here on are further in. -/
  | indent
  /-- The lines from here on are as far in as those before the last such change. -/
  | dedent
  deriving DecidableEq, Repr, Inhabited

/-! ### Numbers -/

/-- Digits of some kind, single underscores between them left out, and the rest; fails at an underscore
that no digit follows. -/
def digitRun? (p : Char → Bool) : List Char → Option (List Char × List Char)
  | [] => some ([], [])
  | '_' :: d :: cs => if p d then (digitRun? p cs).map fun r => (d :: r.1, r.2) else none
  | c :: cs =>
    if c = '_' then none
    else if p c then (digitRun? p cs).map fun r => (c :: r.1, r.2)
    else some ([], c :: cs)

/-- Whether a number may end before a text: no word begins there, or one that may follow a number. -/
def endsNumber (cs : List Char) : Bool :=
  ["and", "else", "for", "if", "in", "is", "or", "not"].any (·.toList.isPrefixOf cs) ||
    match cs with
    | [] => true
    | c :: _ => !(c.isAlphanum || c == '_' || 128 ≤ c.toNat)

/-- A numeral in a base other than ten, after its mark. -/
def basedNumeral? (base : Nat) (cs : List Char) : Option (Constant × List Char) := do
  let (ds, rest) ← digitRun? (fun c => (Text.digitValue? base c).isSome) cs
  if ds.isEmpty || !endsNumber rest then none
  else return (.int (← Text.numberOf? base ds), rest)

/-- An exponent with its mark, and the rest; no exponent if no digit follows the mark. -/
def exponentPart? (cs : List Char) : Option (List Char × List Char) :=
  match cs with
  | mark :: more =>
    if mark = 'e' ∨ mark = 'E' then
      let (sign, ds) := match more with
        | '-' :: ds => (['-'], ds)
        | '+' :: ds => (['+'], ds)
        | ds => ([], ds)
      if (ds.head?).any Char.isDigit then
        (digitRun? Char.isDigit ds).map fun r => ('e' :: sign ++ r.1, r.2)
      else if sign.isEmpty then some ([], cs)
      else none
    else some ([], cs)
  | [] => some ([], [])

/-- What follows the whole part of a decimal numeral, with the numeral that results. -/
def decimalTail? (whole rest : List Char) : Option (Constant × List Char) := do
  let (fraction, rest) ← match rest with
    | '.' :: more =>
      if (more.head?).any Char.isDigit then
        (digitRun? Char.isDigit more).map fun r => ('.' :: r.1, r.2)
      else some (['.'], more)
    | _ => some ([], rest)
  let (exponent, rest) ← exponentPart? rest
  if !endsNumber rest then none
  else if fraction.isEmpty && exponent.isEmpty then
    let isRefused := if whole.head? == some '0' then whole.any (· != '0') else 4300 < whole.length
    if isRefused then none else return (.int (Number.natOfDigits whole), rest)
  else
    return (.float (← Number.ofDecimal? false (whole ++ fraction ++ exponent)), rest)

/-- **A number and the rest**, at a digit or at a point that a digit follows. -/
def numeral? (cs : List Char) : Option (Constant × List Char) :=
  match cs with
  | '0' :: mark :: rest =>
    if mark = 'x' ∨ mark = 'X' then basedNumeral? 16 rest
    else if mark = 'o' ∨ mark = 'O' then basedNumeral? 8 rest
    else if mark = 'b' ∨ mark = 'B' then basedNumeral? 2 rest
    else (digitRun? Char.isDigit cs).bind fun r => decimalTail? r.1 r.2
  | '.' :: _ => decimalTail? [] cs
  | _ => (digitRun? Char.isDigit cs).bind fun r => decimalTail? r.1 r.2

/-! ### String literals -/

/-- The inside of a string literal that ends at a quote on the same line, and the rest; a backslash
takes the next character with it. -/
def shortBody? (q : Char) : List Char → Option (List Char × List Char)
  | [] => none
  | '\\' :: c :: cs => (shortBody? q cs).map fun r => ('\\' :: c :: r.1, r.2)
  | c :: cs =>
    if c = q then some ([], cs)
    else if c = '\n' ∨ c = '\\' then none
    else (shortBody? q cs).map fun r => (c :: r.1, r.2)

/-- The inside of a string literal that ends at three quotes, and the rest. -/
def longBody? (q : Char) : List Char → Option (List Char × List Char)
  | [] => none
  | '\\' :: c :: cs => (longBody? q cs).map fun r => ('\\' :: c :: r.1, r.2)
  | a :: b :: c :: cs =>
    if a = q ∧ b = q ∧ c = q then some ([], cs)
    else if a = '\\' then none
    else (longBody? q (b :: c :: cs)).map fun r => (a :: r.1, r.2)
  | _ => none

/-- The inside of a string literal after its first quote, and the rest. -/
def body? (q : Char) (cs : List Char) : Option (List Char × List Char) :=
  match cs with
  | a :: b :: rest => if a = q ∧ b = q then longBody? q rest else shortBody? q cs
  | _ => shortBody? q cs

/-- **A string literal and the rest**, after its first quote; in a raw one no escape is replaced. -/
def stringLiteral? (raw : Bool) (q : Char) (cs : List Char) : Option (String × List Char) := do
  let (body, rest) ← body? q cs
  let value ← if raw then some body else Text.unescape body
  return (String.ofList value, rest)

/-! ### Words and marks -/

/-- A character that words are made of, until they are looked at as a whole. -/
def isWordLike (c : Char) : Bool :=
  c.isAlphanum || c == '_' || 128 ≤ c.toNat

/-- Whether a run of such characters is a name. -/
def isName : List Char → Bool
  | [] => false
  | c :: cs => Unicode.isIdentifierStart c && cs.all Unicode.isIdentifierContinue

/-- The marks of more than one character, the longer ones first. -/
def longMarks : List String :=
  ["**=", "//=", ">>=", "<<=", "...", "**", "//", ">>", "<<", "<=", ">=", "==", "!=", "->", "+=", "-=",
    "*=", "/=", "%=", "&=", "|=", "^=", "@=", ":="]

/-- The marks of one character. -/
def shortMarks : List Char :=
  ['(', ')', '[', ']', '\x7b', '\x7d', ',', ':', '.', ';', '+', '-', '*', '/', '|', '&', '<', '>', '=', '%',
    '~', '^', '@']

/-- A mark and the rest. -/
def markToken? (cs : List Char) : Option (Token × List Char) :=
  match longMarks.find? fun m => m.toList.isPrefixOf cs with
  | some m => some (.mark m, cs.drop m.length)
  | none =>
    match cs with
    | c :: rest => if shortMarks.contains c then some (.mark (String.singleton c), rest) else none
    | [] => none

/-- **The token that begins a text**, and the rest. -/
def token? (cs : List Char) : Option (Token × List Char) :=
  match cs with
  | [] => none
  | c :: rest =>
    if c = '"' ∨ c = '\'' then (stringLiteral? false c rest).map fun r => (.text r.1, r.2)
    else if c.isDigit || (c == '.' && (rest.head?).any Char.isDigit) then
      (numeral? cs).map fun r => (.number r.1, r.2)
    else if isWordLike c then
      let w := cs.takeWhile isWordLike
      let rest := cs.dropWhile isWordLike
      match rest with
      | q :: more =>
        if (q = '"' ∨ q = '\'') ∧ (w = ['r'] ∨ w = ['R'] ∨ w = ['u'] ∨ w = ['U']) then
          (stringLiteral? (w = ['r'] ∨ w = ['R']) q more).map fun r => (.text r.1, r.2)
        else if isName w then some (.word (String.ofList w), rest) else none
      | [] => if isName w then some (.word (String.ofList w), rest) else none
    else markToken? cs

/-! ### The row of tokens -/

/-- The mark that closes what a mark opens. -/
def closerOf? : Token → Option String
  | .mark "(" => some ")"
  | .mark "[" => some "]"
  | .mark "\x7b" => some "\x7d"
  | _ => none

/-- Whether a token closes a bracket. -/
def isCloser (t : Token) : Bool :=
  t == .mark ")" || t == .mark "]" || t == .mark "\x7d"

/-- How many brackets may be open at one time. -/
def maxOpen : Nat :=
  200

/-- The tokens of a text of at most `fuel` characters up to a line break where no bracket is open, and
what follows the line break if there is one; `closers` are still to come. -/
def rowFrom? : (fuel : Nat) → (closers : List String) → List Char →
    Option (List Token × Option (List Char))
  | _, closers, [] => if closers.isEmpty then some ([], none) else none
  | 0, _, _ => none
  | fuel + 1, closers, c :: cs =>
    if c = ' ' ∨ c = '\t' ∨ c = '\x0c' then rowFrom? fuel closers cs
    else if c = '\n' then
      if closers.isEmpty then some ([], some cs) else rowFrom? fuel closers cs
    else if c = '#' then rowFrom? fuel closers (cs.dropWhile (· != '\n'))
    else if c = '\\' then
      match cs with
      | '\n' :: cs => rowFrom? fuel closers cs
      | _ => none
    else do
      let (t, rest) ← token? (c :: cs)
      let closers ← match closerOf? t with
        | some closer => if closers.length < maxOpen then some (closer :: closers) else none
        | none =>
          if isCloser t then
            match closers with
            | closer :: closers => if t = .mark closer then some closers else none
            | [] => none
          else some closers
      let (ts, rest) ← rowFrom? fuel closers rest
      return (t :: ts, rest)

/-- **The tokens of a text**; none if it is no single row of tokens with matching brackets. -/
def tokens? (cs : List Char) : Option (List Token) :=
  let text := Text.unifyBreaks cs
  match rowFrom? text.length [] text with
  | some (ts, none) => some ts
  | _ => none

/-! ### Lines of a program -/

/-- How far a line is indented: in columns, of which a tabulator fills up to eight, and in characters. -/
structure Indentation where
  /-- The columns. -/
  columns : Nat
  /-- The characters. -/
  chars : Nat
  deriving DecidableEq, Repr, Inhabited

/-- How far the line is indented that a text begins with, and the rest. A form feed begins anew. -/
def indentation (n : Indentation) : List Char → Indentation × List Char
  | [] => (n, [])
  | c :: cs =>
    if c = ' ' then indentation ⟨n.columns + 1, n.chars + 1⟩ cs
    else if c = '\t' then indentation ⟨(n.columns / 8 + 1) * 8, n.chars + 1⟩ cs
    else if c = '\x0c' then indentation ⟨0, 0⟩ cs
    else (n, c :: cs)

/-- The tokens between lines for a line that is indented in some way, inside blocks
that are indented as `around` says, the innermost first; and how they are from there on. -/
def changeIndentation? (n : Indentation) :
    (around : List Indentation) → Option (List Token × List Indentation)
  | [] => none
  | m :: outer =>
    if n.columns = m.columns then if n.chars = m.chars then some ([], m :: outer) else none
    else if m.columns < n.columns then
      if m.chars < n.chars then some ([.indent], n :: m :: outer) else none
    else leave outer
where
  /-- The same for a line that ends at least one block. -/
  leave : List Indentation → Option (List Token × List Indentation)
    | [] => none
    | m :: outer =>
      if n.columns = m.columns then
        if n.chars = m.chars then some ([.dedent], m :: outer) else none
      else if n.columns < m.columns then (leave outer).map fun r => (.dedent :: r.1, r.2)
      else none

/-- The tokens of the lines of a text of at most `fuel` lines, inside some blocks; those that are still
open in the end are closed, but for the outermost `kept`. -/
def programFrom? (kept : Nat) : (fuel : Nat) → (around : List Indentation) → List Char →
    Option (List Token)
  | 0, _, _ => none
  | fuel + 1, around, cs =>
    let (n, cs) := indentation ⟨0, 0⟩ cs
    match cs with
    | [] => some (List.replicate (around.length - kept) .dedent)
    | c :: rest =>
      if c = '\n' then programFrom? kept fuel around rest
      else if c = '#' then
        programFrom? kept fuel around ((rest.dropWhile (· != '\n')).drop 1)
      else do
        let (change, around) ← changeIndentation? n around
        let (ts, rest) ← rowFrom? cs.length [] cs
        return change ++ ts ++ .lineEnd :: (← programFrom? kept fuel around (rest.getD []))

/-- **The tokens of a program** whose lines are indented by some number of blanks at least. -/
def programTokens? (blanks : Nat) (cs : List Char) : Option (List Token) :=
  let text := Text.unifyBreaks cs
  programFrom? 2 (text.length + 2) [⟨blanks, blanks⟩, ⟨0, 0⟩] text

end TokenTemplate.Payload
