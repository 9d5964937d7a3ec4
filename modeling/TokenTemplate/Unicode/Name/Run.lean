/-!
# Runs of names

Names of neighbouring characters mostly begin alike, so a run of them is written in short: each name as
a mark, which says how many letters it shares with the name before it, and the letters that follow.
Names have capital letters, digits, blanks and hyphens only, so a mark also ends the name before it.
The writing is in rows, each of whole names.
`TokenTemplate.Unicode.NameRun.find?` looks a name up without writing the run out.
-/

namespace TokenTemplate.Unicode

/-- The names of neighbouring characters, in short, with the code point of the first one. -/
abbrev NameRun :=
  Nat × List String

/-- The number that a mark stands for: small letters count from zero on, other signs go on. -/
def sharedLetters? (c : Char) : Option Nat :=
  if 'a' ≤ c ∧ c ≤ 'z' then some (c.toNat - 97)
  else
    match "!$%&*+,./:;<=>?@^_|~".toList.idxOf c with
    | i => if i < 20 then some (26 + i) else none

/-- Looks for a name among those that are still to be written out; `name` is the one being written out,
for the code point `code`, and both names are given from their ends. -/
def searchRun (target : List Char) : List Char → (code : Nat) → (name : List Char) → Option Nat
  | [], code, name => if name = target then some code else none
  | c :: cs, code, name =>
    match sharedLetters? c with
    | none => searchRun target cs code (c :: name)
    | some k =>
      if name = target then some code
      else searchRun target cs (code + 1) (name.drop (name.length - k))

/-- The code point of a name, given from its end, among those of a run; the run's first mark begins
its first name. -/
def NameRun.find? (run : NameRun) (target : List Char) : Option Nat :=
  searchRun target ((run.2.flatMap String.toList).drop 1) run.1 []

end TokenTemplate.Unicode
