/-!
# The nearest floating-point number

A finite floating-point number is a whole number times a power of two,
`TokenTemplate.Number.parts`. `TokenTemplate.Number.nearest?` goes the other way: it takes a quotient of
whole numbers to the floating-point number that is nearest to it, a half going to the even neighbour,
and to nothing if the quotient is too large. Literals, conversions and the division of whole numbers
all go through it, so each of them is rounded once.
-/

namespace TokenTemplate.Number

/-! ### Rounding a quotient -/

/-- The whole number nearest to `num / den`; a half goes to the even one. -/
def roundHalfEven (num den : Nat) : Nat :=
  let q := num / den
  let twice := 2 * (num % den)
  if twice < den then q else if den < twice then q + 1 else q + q % 2

/-- The quotient `num / (den * 2 ^ e)`, again as a pair. -/
def scaleDown (num den : Nat) (e : Int) : Nat × Nat :=
  if 0 ≤ e then (num, den * Nat.pow 2 e.toNat) else (num * Nat.pow 2 (-e).toNat, den)

/-- The exponent of the last binary digit that a floating-point number near `num / den` can have: it
leaves fifty-three digits, or as many as there are above the smallest number. -/
def lastExponent (num den : Nat) : Int :=
  let e : Int := (num.log2 : Int) - den.log2 - 52
  let (n, d) := scaleDown num den e
  max (if n / d < Nat.pow 2 52 then e - 1 else e) (-1074)

/-- The encoding of the floating-point number nearest to `num / den`; none if it would be infinite. -/
def nearestBits? (num den : Nat) : Option Nat :=
  if num = 0 then some 0
  else
    let e := lastExponent num den
    let (n, d) := scaleDown num den e
    let bits := (e + 1074).toNat * Nat.pow 2 52 + roundHalfEven n d
    if bits < 0x7FF * Nat.pow 2 52 then some bits else none

/-- **The floating-point number nearest to `num / den`**, if it is finite. -/
def nearest? (negative : Bool) (num den : Nat) : Option Float :=
  (nearestBits? num den).map fun bits =>
    Float.ofBits (UInt64.ofNat (if negative then bits + Nat.pow 2 63 else bits))

/-- The floating-point number nearest to a whole number, if it is finite. -/
def ofInt? (i : Int) : Option Float :=
  nearest? (i < 0) i.natAbs 1

/-! ### Taking a number apart -/

/-- Whether the sign bit is set; zero and infinities have one too. -/
def isNegative (x : Float) : Bool :=
  x.toBits.toNat / Nat.pow 2 63 % 2 == 1

/-- Whether a number is neither infinite nor undefined. -/
def isFinite (x : Float) : Bool :=
  x.toBits.toNat / Nat.pow 2 52 % Nat.pow 2 11 < 0x7FF

/-- Whether a number is infinite. -/
def isInfinite (x : Float) : Bool :=
  !isFinite x && x.toBits.toNat % Nat.pow 2 52 == 0

/-- Whether a number is undefined. -/
def isUndefined (x : Float) : Bool :=
  !isFinite x && x.toBits.toNat % Nat.pow 2 52 != 0

/-- **The parts of a finite number**: its absolute value is the first times two to the second. -/
def parts (x : Float) : Nat × Int :=
  let bits := x.toBits.toNat
  let biased := bits / Nat.pow 2 52 % Nat.pow 2 11
  let fraction := bits % Nat.pow 2 52
  if biased = 0 then (fraction, -1074) else (fraction + Nat.pow 2 52, Int.ofNat biased - 1075)

/-- A finite number as a quotient of whole numbers. -/
def toQuotient (x : Float) : Int × Nat :=
  let (m, e) := parts x
  let sign : Int := if isNegative x then -1 else 1
  if 0 ≤ e then (sign * (m * Nat.pow 2 e.toNat : Nat), 1) else (sign * m, Nat.pow 2 (-e).toNat)

/-- A finite number without its fraction. -/
def truncate (x : Float) : Int :=
  let (num, den) := toQuotient x
  num.tdiv den

/-- Positive infinity. -/
def infinity : Float :=
  Float.ofBits 0x7FF0000000000000

/-- The number that stands for an undefined result. -/
def undefined : Float :=
  Float.ofBits 0x7FF8000000000000

/-- A number with the sign of another one. -/
def withSign (x : Float) (negative : Bool) : Float :=
  Float.ofBits (UInt64.ofNat (x.toBits.toNat % Nat.pow 2 63 + if negative then Nat.pow 2 63 else 0))

/-! ### Comparing with whole numbers -/

/-- How a whole number compares with a floating-point number, exactly; none if that is undefined. -/
def compareInt? (i : Int) (x : Float) : Option Ordering :=
  if isUndefined x then none
  else if !isFinite x then some (if isNegative x then .gt else .lt)
  else
    let (num, den) := toQuotient x
    some (compare (i * den) num)

/-- A number of either sort. -/
inductive Quantity
  /-- A whole number. -/
  | whole (n : Int)
  /-- A floating-point number. -/
  | real (x : Float)
  deriving DecidableEq, Repr, Inhabited

/-- How two numbers compare, exactly; none if one of them is undefined. -/
def Quantity.compare? : Quantity → Quantity → Option Ordering
  | whole m, whole n => some (compare m n)
  | whole m, real y => compareInt? m y
  | real x, whole n => (compareInt? n x).map Ordering.swap
  | real x, real y =>
    if x < y then some .lt else if y < x then some .gt else if x == y then some .eq else none

/-! ### Division with a whole quotient -/

/-- The exact remainder of a division of finite numbers whose quotient is cut to a whole number; it
has the sign of the first one. -/
def remainder (x y : Float) : Float :=
  let (m, e) := parts x
  let (n, f) := parts y
  let low := min e f
  let r := (m * Nat.pow 2 (e - low).toNat) % (n * Nat.pow 2 (f - low).toNat)
  let (num, den) := scaleDown r 1 (-low)
  ((nearest? (isNegative x) num den).getD 0)

/-- **The floor division of floating-point numbers**, for a divisor other than zero: the quotient,
rounded down, and the remainder, which has the sign of the divisor. -/
def floorDivide (x y : Float) : Float × Float :=
  let mod :=
    if isUndefined x || isUndefined y || !isFinite x then undefined
    else if !isFinite y then x
    else remainder x y
  let div := (x - mod) / y
  let (div, mod) :=
    if mod == 0 then (div, withSign 0 (isNegative y))
    else if isNegative y != isNegative mod then (div - 1, mod + y)
    else (div, mod)
  let quotient :=
    if div == 0 then withSign 0 (isNegative (x / y))
    else
      let whole := div.floor
      if div - whole > 0.5 then whole + 1 else whole
  (quotient, mod)

end TokenTemplate.Number
