import TokenTemplate.Unicode.Ranges

/-!
# White space

The characters that separate words in general text. This class is wider than the five characters
that may stand between the tokens of a template, see `TokenTemplate.Lexeme.isGap`.
-/

namespace TokenTemplate.Unicode

/-- The white space characters, ASCII included. -/
def blankRanges : Ranges :=
  [(0x9, 0xd), (0x1c, 0x20), (0x85, 0x85), (0xa0, 0xa0), (0x1680, 0x1680), (0x2000, 0x200a),
   (0x2028, 0x2029), (0x202f, 0x202f), (0x205f, 0x205f), (0x3000, 0x3000)]

/-- A white space character. -/
def isBlank (c : Char) : Bool :=
  blankRanges.has c.toNat

/-- Without the white space at both ends. -/
def trim (s : String) : String :=
  String.ofList ((s.toList.dropWhile isBlank).reverse.dropWhile isBlank).reverse

end TokenTemplate.Unicode
