import TokenTemplate.Number.Numeral

/-!
# Complex numbers

A negative number to a power that is not whole is no floating-point number, but it is a complex one. So
there is `TokenTemplate.Number.Complex`, with its arithmetic and with the text that it is shown by. Whole
exponents up to a hundred go by repeated squaring, all others by logarithms,
`TokenTemplate.Number.Complex.pow?`.
-/

namespace TokenTemplate.Number

/-- A complex number. -/
structure Complex where
  /-- The real part. -/
  re : Float
  /-- The imaginary part. -/
  im : Float
  deriving DecidableEq, Repr, Inhabited

namespace Complex

/-- A floating-point number as a complex one. -/
def ofReal (x : Float) : Complex :=
  ⟨x, 0⟩

/-- Whether a number is zero. -/
def isZero (a : Complex) : Bool :=
  a.re == 0 && a.im == 0

/-- Whether two numbers are the same. -/
def equals (a b : Complex) : Bool :=
  a.re == b.re && a.im == b.im

/-- The sum. -/
def add (a b : Complex) : Complex :=
  ⟨a.re + b.re, a.im + b.im⟩

/-- The difference. -/
def sub (a b : Complex) : Complex :=
  ⟨a.re - b.re, a.im - b.im⟩

/-- The product. -/
def mul (a b : Complex) : Complex :=
  ⟨a.re * b.re - a.im * b.im, a.re * b.im + a.im * b.re⟩

/-- The number with both signs changed. -/
def neg (a : Complex) : Complex :=
  ⟨-a.re, -a.im⟩

/-- The absolute value. -/
def abs (a : Complex) : Float :=
  if a.im == 0 then a.re.abs
  else if a.re == 0 then a.im.abs
  else (a.re * a.re + a.im * a.im).sqrt

/-- The quotient, unless the divisor is zero; the larger part of the divisor is what is divided by. -/
def div? (a b : Complex) : Option Complex :=
  if b.isZero then none
  else if b.re.abs >= b.im.abs then
    let ratio := b.im / b.re
    let den := b.re + b.im * ratio
    some ⟨(a.re + a.im * ratio) / den, (a.im - a.re * ratio) / den⟩
  else
    let ratio := b.re / b.im
    let den := b.re * ratio + b.im
    some ⟨(a.re * ratio + a.im) / den, (a.im * ratio - a.re) / den⟩

/-- A product with a power, by repeated squaring. -/
def mulPow (r p : Complex) : (n : Nat) → Complex
  | 0 => r
  | n + 1 =>
    let r := if (n + 1) % 2 = 1 then r.mul p else r
    if (n + 1) / 2 = 0 then r else mulPow r (p.mul p) ((n + 1) / 2)
  termination_by n => n

/-- A power by logarithms, for a base other than zero. -/
def powByLog (a b : Complex) : Complex :=
  let size := a.abs
  let angle := a.im.atan2 a.re
  let length := size.pow b.re
  let phase := angle * b.re
  let (length, phase) :=
    if b.im == 0 then (length, phase)
    else (length / (angle * b.im).exp, phase + b.im * size.log)
  ⟨length * phase.cos, length * phase.sin⟩

/-- **The power**, unless it is one of zero to a negative or complex exponent. -/
def pow? (a b : Complex) : Option Complex :=
  if b.im == 0 && b.re.floor == b.re && b.re.abs <= 100 then
    let p := mulPow (ofReal 1) a (truncate b.re).natAbs
    if isNegative b.re && !(b.re == 0) then (ofReal 1).div? p else some p
  else if a.isZero then
    if !(b.im == 0) || b.re < 0 then none else some ⟨0, 0⟩
  else some (a.powByLog b)

/-- The text of a part, without a fraction that is zero. -/
def writtenPart (x : Float) : String :=
  let t := Number.written x
  if t.endsWith ".0" then (t.dropEnd 2).toString else t

/-- **A complex number in decimal.** -/
def written (a : Complex) : String :=
  let im := writtenPart a.im
  if a.re == 0 && !isNegative a.re then im ++ "j"
  else "(" ++ writtenPart a.re ++ (if im.startsWith "-" then im else "+" ++ im) ++ "j)"

end Complex

end TokenTemplate.Number
