import TokenTemplate.Number.Nearest

/-!
# Numbers in decimal

A floating-point number is written with the fewest decimal digits that read back as the same number
and, of those, with the nearest ones: `TokenTemplate.Number.shortest`. The layout of these digits is
`TokenTemplate.Number.written`: positional for decimal exponents from −4 to 15, always with a point, and
otherwise with one digit before the point and an exponent of at least two digits.

Reading is `TokenTemplate.Number.ofDecimal?`, which rounds to the nearest number.
-/

namespace TokenTemplate.Number

/-! ### The fewest digits -/

/-- The interval of the numbers that round to `m * 2 ^ e`, as three quotients over one denominator:
its lower end, the number itself, and its upper end. -/
def neighbourhood (m : Nat) (e : Int) : (Nat × Nat × Nat) × Nat :=
  let below := if m = Nat.pow 2 52 ∧ -1074 < e then 1 else 2
  let up := Nat.pow 2 (e - 2).toNat
  (((4 * m - below) * up, 4 * m * up, (4 * m + 2) * up), Nat.pow 2 (2 - e).toNat)

/-- Whether ten to a power is at most `num / den`. -/
def powerUpTo (p : Int) (num den : Nat) : Bool :=
  Nat.pow 10 p.toNat * den ≤ num * Nat.pow 10 (-p).toNat

/-- The decimal exponent of a positive quotient: ten to that power is at most the quotient, and ten
times as much is larger. -/
def decimalExponent (num den : Nat) : Int :=
  let guess := (((num.log2 : Int) - den.log2) * 30103).fdiv 100000
  if powerUpTo (guess + 1) num den then guess + 1
  else if powerUpTo guess num den then guess
  else guess - 1

/-- The best decimal of the grid of multiples of `10 ^ k` that lies in the interval, if one does: of
two the nearer, and the even one if both are as near. -/
def onGrid? (m : Nat) (e k : Int) : Option Nat :=
  let ((low, mid, high), den) := neighbourhood m e
  let unit := Nat.pow 10 k.toNat * den
  let scale := Nat.pow 10 (-k).toNat
  let inside (d : Nat) : Bool :=
    if m % 2 = 0 then low * scale ≤ d * unit && d * unit ≤ high * scale
    else low * scale < d * unit && d * unit < high * scale
  let d := mid * scale / unit
  let rest := 2 * (mid * scale % unit)
  match inside d, inside (d + 1) with
  | true, true => some (if rest < unit then d else if unit < rest then d + 1 else d + d % 2)
  | true, false => some d
  | false, true => some (d + 1)
  | false, false => none

/-- Tries grids of more and more digits; with seventeen digits one is always found. -/
def shortestFrom (m : Nat) (e top : Int) : (more : Nat) → (digits : Nat) → Nat × Int
  | 0, digits => (m, top - digits)
  | more + 1, digits =>
    match onGrid? m e (top - digits) with
    | some d => (d, top - digits)
    | none => shortestFrom m e top more (digits + 1)

/-- **The fewest digits** that read back as the positive number `m * 2 ^ e`: a whole number and the
power of ten that it is to be multiplied by. -/
def shortest (m : Nat) (e : Int) : Nat × Int :=
  let ((_, mid, _), den) := neighbourhood m e
  shortestFrom m e (decimalExponent mid den) 18 0

/-! ### Layout -/

/-- The digits of a number in base ten. -/
def digitsOf (n : Nat) : List Char :=
  Nat.toDigits 10 n

/-- Digits without the zeros at their end, and how many were dropped. -/
def dropZeros (ds : List Char) : List Char × Nat :=
  let kept := (ds.reverse.dropWhile (· == '0')).reverse
  (kept, ds.length - kept.length)

/-- A decimal exponent with its mark, its sign and at least two digits. -/
def exponentMark (exponent : Int) : List Char :=
  let size := digitsOf exponent.natAbs
  'e' :: (if exponent < 0 then '-' else '+') :: (if size.length < 2 then '0' :: size else size)

/-- The layout of digits with a decimal exponent: the first digit is worth ten to that power. -/
def layout (ds : List Char) (exponent : Int) : List Char :=
  if -4 ≤ exponent ∧ exponent ≤ 15 then
    if exponent < 0 then
      '0' :: '.' :: (List.replicate (-exponent - 1).toNat '0' ++ ds)
    else
      let whole := exponent.toNat + 1
      let padded := ds ++ List.replicate (whole - ds.length) '0'
      let fraction := padded.drop whole
      padded.take whole ++ '.' :: (if fraction.isEmpty then ['0'] else fraction)
  else
    let fraction := match ds.drop 1 with
      | [] => []
      | rest => '.' :: rest
    ds.take 1 ++ fraction ++ exponentMark exponent

/-- **A floating-point number in decimal.** -/
def written (x : Float) : String :=
  if isUndefined x then "nan"
  else
    let sign := if isNegative x then "-" else ""
    if !isFinite x then sign ++ "inf"
    else
      let (m, e) := parts x
      if m = 0 then sign ++ "0.0"
      else
        let (d, k) := shortest m e
        let (ds, dropped) := dropZeros (digitsOf d)
        sign ++ String.ofList (layout ds (k + dropped + ds.length - 1))

/-! ### Reading -/

/-- The number `digits * 10 ^ exponent`, rounded to the nearest one; infinite if it is too large. -/
def ofDecimal (negative : Bool) (digits : Nat) (exponent : Int) : Float :=
  let size := (digitsOf digits).length
  if digits = 0 ∨ exponent + size < -400 then withSign 0 negative
  else if 400 < exponent + size then withSign infinity negative
  else
    let num := digits * Nat.pow 10 exponent.toNat
    match nearest? negative num (Nat.pow 10 (-exponent).toNat) with
    | some x => x
    | none => withSign infinity negative

/-- The value of a digit. -/
def digitValue (c : Char) : Nat :=
  c.toNat - 48

/-- The number that decimal digits stand for. -/
def natOfDigits (ds : List Char) : Nat :=
  ds.foldl (fun n c => n * 10 + digitValue c) 0

/-- Reads an exponent with its mark and sign, to the end of the text. -/
def exponent? : List Char → Option Int
  | [] => some 0
  | mark :: rest =>
    if mark = 'e' ∨ mark = 'E' then
      let (negative, ds) := match rest with
        | '-' :: ds => (true, ds)
        | '+' :: ds => (false, ds)
        | ds => (false, ds)
      if ds ≠ [] ∧ ds.all Char.isDigit then
        some (if negative then -(natOfDigits ds : Int) else natOfDigits ds)
      else none
    else none

/-- **Reads a decimal without sign**: digits, at most one point, and perhaps an exponent. -/
def ofDecimal? (negative : Bool) (cs : List Char) : Option Float :=
  let whole := cs.takeWhile Char.isDigit
  let (fraction, rest) := match cs.dropWhile Char.isDigit with
    | '.' :: more => (more.takeWhile Char.isDigit, more.dropWhile Char.isDigit)
    | more => ([], more)
  if whole.isEmpty && fraction.isEmpty then none
  else (exponent? rest).map fun e =>
    ofDecimal negative (natOfDigits (whole ++ fraction)) (e - fraction.length)

/-- Reads a floating-point number with its sign, or the name of one that is not finite. -/
def ofText? (cs : List Char) : Option Float :=
  let (negative, rest) := match cs with
    | '-' :: rest => (true, rest)
    | '+' :: rest => (false, rest)
    | rest => (false, rest)
  match String.ofList (rest.map Char.toLower) with
  | "inf" | "infinity" => some (withSign infinity negative)
  | "nan" => some undefined
  | _ => ofDecimal? negative rest

end TokenTemplate.Number
