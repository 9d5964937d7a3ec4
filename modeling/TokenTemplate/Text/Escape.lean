import TokenTemplate.Unicode.Name

/-!
# Escapes

Reading the inside of a string literal, `TokenTemplate.Text.unescape`: a backslash and what follows it
stand for another character. A backslash before a line break stands for nothing, and one before a
character that begins no escape stands for itself. An escape with too few digits, or with a number or
a name that is not that of a character, makes the literal invalid.

A line break may be written with a carriage return: `TokenTemplate.Text.unifyBreaks` comes first.
-/

namespace TokenTemplate.Text

/-- Every carriage return, alone or before a line feed, becomes a line feed. -/
def unifyBreaks : List Char → List Char
  | [] => []
  | '\r' :: '\n' :: cs => '\n' :: unifyBreaks cs
  | c :: cs => (if c = '\r' then '\n' else c) :: unifyBreaks cs

/-- The value of a digit in a base of at most thirty-six. -/
def digitValue? (base : Nat) (c : Char) : Option Nat :=
  let v? :=
    if c.isDigit then some (c.toNat - 48)
    else if 'a' ≤ c ∧ c ≤ 'z' then some (c.toNat - 87)
    else if 'A' ≤ c ∧ c ≤ 'Z' then some (c.toNat - 55)
    else none
  v?.filter (· < base)

/-- The number that digits of a base stand for; all of them must be digits. -/
def numberOf? (base : Nat) (cs : List Char) : Option Nat :=
  cs.foldlM (fun n c => (digitValue? base c).map (n * base + ·)) 0

/-- The character of a code point, if it is one. -/
def charOf? (n : Nat) : Option Char :=
  if h : n.isValidChar then some (Char.ofNatAux n h) else none

/-- The character that hexadecimal digits stand for. -/
def hexChar? (cs : List Char) : Option Char :=
  (numberOf? 16 cs).bind charOf?

/-- The character that an escape of one letter stands for. -/
def letterEscape? (c : Char) : Option Char :=
  match c with
  | '\\' => some '\\'
  | '\'' => some '\''
  | '"' => some '"'
  | 'a' => some '\x07'
  | 'b' => some '\x08'
  | 'f' => some '\x0c'
  | 'n' => some '\n'
  | 'r' => some '\r'
  | 't' => some '\t'
  | 'v' => some '\x0b'
  | _ => none

/-- The character of a name in curly brackets. -/
def namedChar? (name : List Char) : Option Char :=
  (Unicode.codeOfName? name).bind charOf?

/-- A digit of an octal escape. -/
def isOctal (c : Char) : Bool :=
  '0' ≤ c && c ≤ '7'

/-- The value of an octal digit. -/
def octal (c : Char) : Nat :=
  c.toNat - 48

mutual

/-- **What the inside of a string literal stands for.** An octal escape takes up to three digits, the
others a fixed number. -/
def unescape : List Char → Option (List Char)
  | [] => some []
  | '\\' :: '\n' :: cs => unescape cs
  | '\\' :: 'x' :: a :: b :: cs =>
    return (← hexChar? [a, b]) :: (← unescape cs)
  | '\\' :: 'u' :: a :: b :: c :: d :: cs =>
    return (← hexChar? [a, b, c, d]) :: (← unescape cs)
  | '\\' :: 'U' :: a :: b :: c :: d :: e :: f :: g :: h :: cs =>
    return (← hexChar? [a, b, c, d, e, f, g, h]) :: (← unescape cs)
  | '\\' :: 'N' :: '\x7b' :: cs =>
    unescapeName [] cs
  | '\\' :: a :: cs =>
    if a = 'x' ∨ a = 'u' ∨ a = 'U' ∨ a = 'N' then none
    else match letterEscape? a with
      | some c => return c :: (← unescape cs)
      | none =>
        if isOctal a then
          match cs with
          | b :: ds =>
            if isOctal b then
              match ds with
              | c :: es =>
                if isOctal c then
                  return Char.ofNat (octal a * 64 + octal b * 8 + octal c) :: (← unescape es)
                else return Char.ofNat (octal a * 8 + octal b) :: (← unescape (c :: es))
              | [] => some [Char.ofNat (octal a * 8 + octal b)]
            else return Char.ofNat (octal a) :: (← unescape (b :: ds))
          | [] => some [Char.ofNat (octal a)]
        else return '\\' :: a :: (← unescape cs)
  | '\\' :: [] => none
  | c :: cs => return c :: (← unescape cs)

/-- The same inside the name of a character, of which some is known, from its end. -/
def unescapeName (name : List Char) : List Char → Option (List Char)
  | [] => none
  | c :: cs =>
    if c = '\x7d' then return (← namedChar? name.reverse) :: (← unescape cs)
    else unescapeName (c :: name) cs

end

end TokenTemplate.Text
