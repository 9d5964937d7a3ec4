import TokenTemplate.Number.Rounded
import TokenTemplate.Text.Gap
import TokenTemplate.Value.Sequence

/-!
# Filling gaps

The operator for remainders has another meaning for texts: it fills the gaps of the text on its left with
the value on its right, `TokenTemplate.Store.fill`. A tuple gives one value to each gap, and no value may be
left; of a dictionary gaps can look up keys. Any other value fills a single gap.
-/

namespace TokenTemplate

/-- The values that gaps are filled with. -/
structure Supply where
  /-- The value whose keys can be looked up. -/
  mapping : Option Value
  /-- The values that are taken one after another. -/
  values : List Value

namespace Supply

/-- The next value, and the supply without it. -/
def next (u : Supply) : Except Fault (Value × Supply) :=
  match u.values with
  | v :: rest => .ok (v, { u with values := rest })
  | [] => .error (.ofKind .type)

/-- The next value, which has to be a whole number, and the supply without it. -/
def nextWhole (u : Supply) : Except Fault (Int × Supply) := do
  let (v, u) ← u.next
  match v.whole? with
  | some n => return (n, u)
  | none => throw (.ofKind .type)

end Supply

/-- A number of a given size at most. -/
def boundedExtent (limit n : Nat) : Except Fault Nat :=
  if n < limit then .ok n else .error (.ofKind .value)

/-- A character on its own or by its number. -/
def characterOf (v : Value) : Except Fault Char :=
  match v with
  | .text t _ =>
    match t.toList with
    | [c] => .ok c
    | _ => .error (.ofKind .type)
  | v =>
    match v.whole? with
    | none => .error (.ofKind .type)
    | some n =>
      if h : 0 ≤ n ∧ n.toNat.isValidChar then .ok (Char.ofNatAux n.toNat h.2)
      else .error (.ofKind .overflow)

/-- A text in which every character beyond the first hundred and twenty-eight is escaped. -/
def plainText (cs : List Char) : List Char :=
  cs.flatMap fun c =>
    let n := c.toNat
    if n < 0x80 then [c]
    else if n < 0x100 then '\\' :: 'x' :: Text.hexDigits 2 n
    else if n < 0x10000 then '\\' :: 'u' :: Text.hexDigits 4 n
    else '\\' :: 'U' :: Text.hexDigits 8 n

/-- The whole number that a number is without its fraction. -/
def wholeNumberOf (v : Value) : Except Fault Int :=
  match v.quantity? with
  | some (.whole n) => .ok n
  | some (.real x) => wholePart x
  | none => .error (.ofKind .type)

/-- A whole number in a gap, with digits of a base and what they begin with. -/
def wholeInGap (l : Text.Gap.Layout) (mark : String) (base : Nat) (n : Int) : List Char :=
  l.number (n < 0) (if l.flags.contains '#' then mark.toList else [])
    (l.filledUp (Nat.toDigits base n.natAbs))

/-- A floating-point number in a gap. -/
def realInGap (l : Text.Gap.Layout) (form : Number.Form) (v : Value) : Except Fault (List Char) := do
  match v.quantity? with
  | none => throw (.ofKind .type)
  | some q =>
    let x ← realOf q
    return l.number (Number.isNegative x && !Number.isUndefined x) []
      (Number.rounded form (l.flags.contains '#') (l.precision.getD 6) x)

namespace Store

/-- **A value in a gap**, as a letter says. -/
def inGap (s : Store) (l : Text.Gap.Layout) (letter : Char) (v : Value) : Except Fault (List Char) := do
  match letter with
  | 's' => return l.text (← s.textOf v).toList
  | 'r' => return l.text (← s.shown v).toList
  | 'a' => return l.text (plainText (← s.shown v).toList)
  | 'c' => return { l with precision := none }.text [← characterOf v]
  | 'd' | 'i' | 'u' =>
    let n ← wholeNumberOf v
    let _ ← writtenInt n
    return wholeInGap l "" 10 n
  | 'o' => return wholeInGap l "0o" 8 (← wholeOf v)
  | 'x' => return wholeInGap l "0x" 16 (← wholeOf v)
  | 'X' => return (wholeInGap l "0x" 16 (← wholeOf v)).map Char.toUpper
  | 'f' => realInGap l .fixed v
  | 'F' => return (← realInGap l .fixed v).map Char.toUpper
  | 'e' => realInGap l .scientific v
  | 'E' => return (← realInGap l .scientific v).map Char.toUpper
  | 'g' => realInGap l .general v
  | 'G' => return (← realInGap l .general v).map Char.toUpper
  | _ => throw (.ofKind .value)

/-- The supply after a gap has looked up its key. -/
def lookUp (s : Store) (u : Supply) (key : Text.GapKey) : Except Fault Supply := do
  match key, u.mapping with
  | .absent, _ => return u
  | _, none => throw (.ofKind .type)
  | .unfinished, _ => throw (.ofKind .value)
  | .named key, some m =>
    match m, s.objectOf? m with
    | .object id, some (.dict _) =>
      let key := .ofText (String.ofList key)
      match ← s.lookup? id key with
      | some v => return { u with values := [v] }
      | none => throw (← s.keyError key)
    | _, _ => throw (.ofKind .type)

/-- A gap that is filled, and what is left of the supply. -/
def fillGap (s : Store) (g : Text.Gap) (u : Supply) : Except Fault (List Char × Supply) := do
  let u ← s.lookUp u g.key
  let (flags, width, u) ← match g.width with
    | .absent => .ok (g.flags, 0, u)
    | .fixed n => do .ok (g.flags, ← boundedExtent lengthLimit n, u)
    | .given => do
      let (n, u) ← u.nextWhole
      if !isPosition n then throw (.ofKind .overflow)
      .ok (if n < 0 then '-' :: g.flags else g.flags, n.natAbs, u)
  let (precision, u) ← match g.precision with
    | .absent => .ok (none, u)
    | .fixed n => do .ok (some (← boundedExtent (Nat.pow 2 31) n), u)
    | .given => do
      let (n, u) ← u.nextWhole
      if n < -Int.pow 2 31 || Int.pow 2 31 ≤ n then throw (.ofKind .overflow)
      .ok (some n.toNat, u)
  let (filled, u) ← match g.letter with
    | none => throw (.ofKind .value)
    | some letter => do
      let (v, u) ← u.next
      if storageLimit ≤ width then throw (.ofKind .memory)
      .ok (← s.inGap ⟨flags, width, precision⟩ letter v, u)
  if u.mapping.isSome && !u.values.isEmpty then throw (.ofKind .type)
  return (filled, u)

/-- Pieces with their gaps filled. Every value that is not looked up has to be used. -/
def fillPieces (s : Store) : Supply → List Text.Piece → Except Fault (List Char)
  | u, [] => if u.mapping.isNone && !u.values.isEmpty then .error (.ofKind .type) else .ok []
  | u, .char c :: rest => do return c :: (← fillPieces s u rest)
  | u, .gap g :: rest => do
    let (filled, u) ← s.fillGap g u
    return filled ++ (← fillPieces s u rest)

/-- What a value gives to gaps. A value that has elements may be left over, whatever it is. -/
def supply (s : Store) (v : Value) : Supply :=
  match v, s.objectOf? v with
  | .range .., _ => ⟨some v, [v]⟩
  | _, some (.tuple items) => ⟨none, items⟩
  | _, some (.list _) | _, some (.dict _) | _, some (.union _) => ⟨some v, [v]⟩
  | _, _ => ⟨none, [v]⟩

/-- **A text with its gaps filled.** -/
def fill (s : Store) (t : String) (v : Value) : Except Fault String := do
  return String.ofList (← s.fillPieces (s.supply v) (Text.pieces t.toList))

end Store

end TokenTemplate
