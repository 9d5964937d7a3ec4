import TokenTemplate.Unicode.Name.Alias
import TokenTemplate.Unicode.Name.Asian
import TokenTemplate.Unicode.Name.EastAsian
import TokenTemplate.Unicode.Name.European
import TokenTemplate.Unicode.Name.Extended
import TokenTemplate.Unicode.Name.Historic
import TokenTemplate.Unicode.Name.Ideographic
import TokenTemplate.Unicode.Name.Indic
import TokenTemplate.Unicode.Name.MiddleEastern
import TokenTemplate.Unicode.Name.Notational
import TokenTemplate.Unicode.Name.Pictographs
import TokenTemplate.Unicode.Name.Symbols
import TokenTemplate.Unicode.Ranges

/-!
# Characters by name

The character of a name of the standard, `TokenTemplate.Unicode.codeOfName?`. Most names are in tables; those of
Hangul syllables and of ideographs follow a rule. Small letters are as good as capital ones, except
where a rule names a syllable or a unified ideograph.
-/

namespace TokenTemplate.Unicode

/-- All runs of names. -/
def nameRuns : List NameRun :=
  europeanNames ++ symbolsNames ++ extendedNames ++ eastAsianNames ++ middleEasternNames ++
    indicNames ++ asianNames ++ historicNames ++ ideographicNames ++ notationalNames ++
    pictographsNames

/-! ### Hangul syllables -/

/-- The consonants that begin a syllable. -/
def leadingJamo : List String :=
  ["G", "GG", "N", "D", "DD", "R", "M", "B", "BB", "S", "SS", "", "J", "JJ", "C", "K", "T", "P", "H"]

/-- The vowels. -/
def vowelJamo : List String :=
  ["A", "AE", "YA", "YAE", "EO", "E", "YEO", "YE", "O", "WA", "WAE", "OE", "YO", "U", "WEO", "WE", "WI",
    "YU", "EU", "YI", "I"]

/-- The consonants that end a syllable. -/
def trailingJamo : List String :=
  ["", "G", "GG", "GS", "N", "NJ", "NH", "D", "L", "LG", "LM", "LB", "LS", "LT", "LP", "LH", "M", "B",
    "BS", "S", "SS", "NG", "J", "C", "K", "T", "P", "H"]

/-- The longest of some texts that a text begins with, by its place among them, and the rest. -/
def longestJamo? (jamo : List String) (cs : List Char) : Option (Nat × List Char) :=
  (jamo.zipIdx.foldl (fun (best : Option (Nat × Nat)) p =>
    let n := p.1.length
    if p.1.toList.isPrefixOf cs && best.all (·.1 < n) then some (n, p.2) else best) none).map
    fun b => (b.2, cs.drop b.1)

/-- The code point of a Hangul syllable, by the part of its name that is its own. -/
def hangulSyllable? (cs : List Char) : Option Nat := do
  let (l, cs) ← longestJamo? leadingJamo cs
  let (v, cs) ← longestJamo? vowelJamo cs
  let (t, cs) ← longestJamo? trailingJamo cs
  if cs.isEmpty then some (0xAC00 + (l * 21 + v) * 28 + t) else none

/-! ### Names with a code point -/

/-- The ideographs that are named by their code points alone. -/
def unifiedIdeographRanges : Ranges :=
  [(0x3400, 0x4dbf), (0x4e00, 0x9fff), (0x20000, 0x2a6df), (0x2a700, 0x2b738), (0x2b740, 0x2b81d),
    (0x2b820, 0x2cea1), (0x2ceb0, 0x2ebe0), (0x30000, 0x3134a)]

/-- Other characters that are named by their code points. -/
def codedNames : List (String × Ranges) :=
  [("CJK COMPATIBILITY IDEOGRAPH-", [(0xf900, 0xfa6d), (0xfa70, 0xfad9), (0x2f800, 0x2fa1d)]),
    ("KHITAN SMALL SCRIPT CHARACTER-", [(0x18b00, 0x18cd5)]),
    ("NUSHU CHARACTER-", [(0x1b170, 0x1b2fb)])]

/-- The number that four or five hexadecimal digits in capital letters stand for. -/
def codePoint? (cs : List Char) : Option Nat :=
  if cs.length = 4 ∨ cs.length = 5 then
    cs.foldlM (fun n c =>
      if c.isDigit then some (n * 16 + (c.toNat - 48))
      else if 'A' ≤ c ∧ c ≤ 'F' then some (n * 16 + (c.toNat - 55))
      else none) 0
  else none

/-- The code point that follows a text in a name, if it is in some ranges. -/
def codedName? (start : String) (ranges : Ranges) (cs : List Char) : Option Nat :=
  if start.toList.isPrefixOf cs then
    (codePoint? (cs.drop start.length)).filter ranges.has
  else none

/-! ### All names -/

/-- The code point of a name in capital letters that a table or a code point gives. -/
def tabledName? (cs : List Char) : Option Nat :=
  let coded (p : String × Ranges) : Option Nat :=
    if cs[p.1.length]? = some '0' then none else codedName? p.1 p.2 cs
  (nameAliases.lookup (String.ofList cs)).or
    ((codedNames.findSome? coded).or
      (nameRuns.findSome? (NameRun.find? · cs.reverse)))

/-- **The code point of a name.** -/
def codeOfName? (cs : List Char) : Option Nat :=
  let hangul := "HANGUL SYLLABLE "
  let ideograph := "CJK UNIFIED IDEOGRAPH-"
  if hangul.toList.isPrefixOf cs then hangulSyllable? (cs.drop hangul.length)
  else if ideograph.toList.isPrefixOf cs then codedName? ideograph unifiedIdeographRanges cs
  else tabledName? (cs.map Char.toUpper)

end TokenTemplate.Unicode
