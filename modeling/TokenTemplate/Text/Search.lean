import TokenTemplate.Unicode.Blank

/-!
# Searching in texts

Where one text stands in another, and what can be made of that: parts between separators, one text in
the place of another, and how often a text occurs. Occurrences are found from left to right and do not
overlap. All of it works on the characters of a text.
-/

namespace TokenTemplate.Text

/-- Where a text first begins in another one. -/
def indexOf? (sub : List Char) : List Char → Option Nat
  | [] => if sub.isEmpty then some 0 else none
  | c :: cs => if sub.isPrefixOf (c :: cs) then some 0 else (indexOf? sub cs).map (· + 1)

/-- The parts between the first occurrences of a separator, at most `cuts` of them. -/
def splitParts (sep : List Char) : (cuts : Nat) → List Char → List (List Char)
  | 0, cs => [cs]
  | cuts + 1, cs =>
    match indexOf? sep cs with
    | some i => cs.take i :: splitParts sep cuts (cs.drop (i + sep.length))
    | none => [cs]

/-- **The parts between separators**; there may be a limit on the number of cuts. -/
def split (sep : List Char) (limit : Option Nat) (cs : List Char) : List (List Char) :=
  splitParts sep (limit.getD (cs.length + 1)) cs

/-- The words of a text, cut at most `cuts` times; what is left after the last cut stays as it is. -/
def splitWords : (cuts : Nat) → List Char → List (List Char)
  | 0, cs =>
    let rest := cs.dropWhile Unicode.isBlank
    if rest.isEmpty then [] else [rest]
  | cuts + 1, cs =>
    let rest := cs.dropWhile Unicode.isBlank
    if rest.isEmpty then []
    else
      rest.takeWhile (!Unicode.isBlank ·) ::
        splitWords cuts (rest.dropWhile (!Unicode.isBlank ·))

/-- **The words of a text**; there may be a limit on the number of cuts. -/
def words (limit : Option Nat) (cs : List Char) : List (List Char) :=
  splitWords (limit.getD (cs.length + 1)) cs

/-- A text before each of the first characters of another one, `times` times at most. -/
def interleave (piece : List Char) : (times : Nat) → List Char → List Char
  | 0, cs => cs
  | _ + 1, [] => piece
  | times + 1, c :: cs => piece ++ c :: interleave piece times cs

/-- **One text in the place of another**; there may be a limit on the number of times. An empty text
occurs between any two characters and at both ends. -/
def replace (old new : List Char) (limit : Option Nat) (cs : List Char) : List Char :=
  if old.isEmpty then interleave new (limit.getD (cs.length + 1)) cs
  else new.intercalate (split old limit cs)

/-- **How often a text occurs.** -/
def occurrences (sub cs : List Char) : Nat :=
  if sub.isEmpty then cs.length + 1 else (split sub none cs).length - 1

/-- A text without certain characters at its beginning. -/
def stripLeft (p : Char → Bool) (cs : List Char) : List Char :=
  cs.dropWhile p

/-- A text without certain characters at its end. -/
def stripRight (p : Char → Bool) (cs : List Char) : List Char :=
  (cs.reverse.dropWhile p).reverse

end TokenTemplate.Text
