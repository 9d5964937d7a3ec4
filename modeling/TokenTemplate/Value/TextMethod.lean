import TokenTemplate.Text.Search
import TokenTemplate.Unicode.Casing
import TokenTemplate.Unicode.Digit
import TokenTemplate.Value.Sequence

/-!
# Methods of texts

What the methods of texts give, `TokenTemplate.Store.textMethod`, but for the one that joins other texts.
Searches can be confined to a part of the text, given like the ends of a slice.
-/

namespace TokenTemplate

/-- The text that an argument is. -/
def textIn (v : Value) : Except Fault String :=
  match v with
  | .text t _ => .ok t
  | _ => .error (.ofKind .type)

/-- The characters of an argument, which has to be a text. -/
def charsOf (v : Value) : Except Fault (List Char) :=
  (textIn v).map String.toList

/-- A limit on a number of times: none if it is negative. -/
def limitOf (v : Value) : Except Fault (Option Nat) := do
  let n ← wholeOf v
  if !isPosition n then throw (.ofKind .overflow)
  return if n < 0 then none else some n.toNat

/-- The part of a text that a search is confined to, with the place where it begins; nothing if it
begins after it ends. -/
def searchPart (cs : List Char) (ends : List Value) : Except Fault (Option (Nat × List Char)) := do
  let (first, last) ← match ends with
    | [] => .ok (Value.none, Value.none)
    | [a] => .ok (a, Value.none)
    | [a, b] => .ok (a, b)
    | _ => .error (.ofKind .type)
  let length : Int := cs.length
  let low := (← sliceBound? first).getD 0
  let high := (← sliceBound? last).getD length
  let low := max 0 (if low < 0 then low + length else low)
  let high := min length (max 0 (if high < 0 then high + length else high))
  if high < low then return none
  else return some (low.toNat, (cs.drop low.toNat).take (high - low).toNat)

/-- The characters that are to be stripped. -/
def strippedChars (arguments : List Value) : Except Fault (Char → Bool) :=
  match arguments with
  | [] => .ok Unicode.isBlank
  | [.none] => .ok Unicode.isBlank
  | [.text t _] => .ok fun c => t.toList.contains c
  | _ => .error (.ofKind .type)

/-- Whether one of some texts passes a test. -/
def Store.anyText (s : Store) (test : List Char → Bool) (v : Value) : Except Fault Bool :=
  match s.objectOf? v with
  | some (.tuple items) => do return (← items.mapM charsOf).any test
  | _ => do return test (← charsOf v)

/-- A text as a value. -/
def madeText (cs : List Char) : Made :=
  .value (.ofText (String.ofList cs))

/-- What is left of a text: the text itself if that is all of it. -/
def keptText (self : Value) (cs kept : List Char) : Made :=
  if kept = cs then .value self else madeText kept

/-- The parts of a text: the text itself if there is only one. -/
def keptParts (self : Value) (cs : List Char) (parts : List (List Char)) : Made :=
  if parts = [cs] then .object (.list #[self]) else .texts parts

/-- **What a method of a text gives.** -/
def Store.textMethod (s : Store) (m : TextMethod) (self : Value) (arguments : List Value) :
    Except Fault Made := do
  let cs ← charsOf self
  match m, arguments with
  | .upper, [] => return madeText (Unicode.upperText cs)
  | .lower, [] => return madeText (Unicode.lowerText cs)
  | .title, [] => return madeText (Unicode.titleText cs)
  | .capitalize, [] => return madeText (Unicode.capitalText cs)
  | .isDigit, [] => return .value (.bool (!cs.isEmpty && cs.all Unicode.isDigit))
  | .strip, arguments =>
    let p ← strippedChars arguments
    return keptText self cs (Text.stripRight p (Text.stripLeft p cs))
  | .stripLeft, arguments => return keptText self cs (Text.stripLeft (← strippedChars arguments) cs)
  | .stripRight, arguments => return keptText self cs (Text.stripRight (← strippedChars arguments) cs)
  | .split, arguments =>
    let (sep, limit) ← match arguments with
      | [] => .ok (Value.none, Option.none)
      | [a] => .ok (a, Option.none)
      | [a, b] => (limitOf b).map fun n => (a, n)
      | _ => .error (.ofKind .type)
    match sep with
    | .none => return keptParts self cs (Text.words limit cs)
    | sep =>
      let sep ← charsOf sep
      if sep.isEmpty then throw (.ofKind .value)
      return keptParts self cs (Text.split sep limit cs)
  | .replace, old :: new :: rest =>
    let old ← charsOf old
    let new ← charsOf new
    let limit ← match rest with
      | [] => .ok none
      | [n] => limitOf n
      | _ => .error (.ofKind .type)
    return keptText self cs (Text.replace old new limit cs)
  | .startsWith, v :: ends =>
    let part ← searchPart cs ends
    return .value (.bool (← s.anyText (fun sub => part.any fun p => sub.isPrefixOf p.2) v))
  | .endsWith, v :: ends =>
    let part ← searchPart cs ends
    return .value (.bool (← s.anyText (fun sub => part.any fun p => sub.isSuffixOf p.2) v))
  | .find, v :: ends =>
    let sub ← charsOf v
    match ← searchPart cs ends with
    | none => return .value (.ofInt (-1))
    | some (low, part) =>
      match Text.indexOf? sub part with
      | some i => return .value (.ofInt (low + i))
      | none => return .value (.ofInt (-1))
  | .count, v :: ends =>
    let sub ← charsOf v
    match ← searchPart cs ends with
    | none => return .value (.ofInt 0)
    | some (_, part) => return .value (.ofInt (Text.occurrences sub part))
  | _, _ => throw (.ofKind .type)

end TokenTemplate
