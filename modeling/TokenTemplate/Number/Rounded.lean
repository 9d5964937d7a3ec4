import TokenTemplate.Number.Numeral

/-!
# Numbers rounded in decimal

A floating-point number with as many decimal digits as are asked for, rounded once, a half going to the even
digit. There are three forms, `TokenTemplate.Number.Form`: with places after the point, with one digit
before the point and an exponent, or in whichever of these suits the size of the number; the last form
leaves out zeros at the end of a fraction. The sign is not written here.
-/

namespace TokenTemplate.Number

/-- How a rounded number is written. -/
inductive Form
  /-- With a number of places after the point. -/
  | fixed
  /-- With one digit before the point, a number of places after it, and an exponent. -/
  | scientific
  /-- With a number of digits altogether. -/
  | general
  deriving DecidableEq, Repr, Inhabited

/-- Digits before and after a point. Without digits after it the point is only there if it always is. -/
def withPoint (always : Bool) (whole fraction : List Char) : List Char :=
  if fraction.isEmpty && !always then whole else whole ++ '.' :: fraction

/-- A number of digits, and of places, after which every floating-point number is exact. -/
def exactDigits : Nat :=
  1100

/-- Zeros in the place of all digits that are not needed. -/
def zerosBeyond (count : Nat) : List Char :=
  List.replicate (count - exactDigits) '0'

/-- The quotient `num / den` with some places after the point. -/
def fixedPlaces (always : Bool) (places num den : Nat) : List Char :=
  let kept := min places exactDigits
  let ds := digitsOf (roundHalfEven (num * Nat.pow 10 kept) den)
  let ds := List.replicate (kept + 1 - ds.length) '0' ++ ds
  withPoint always (ds.take (ds.length - kept)) (ds.drop (ds.length - kept) ++ zerosBeyond places)

/-- The first digits of the quotient `num / den`, and the decimal exponent of the very first one. -/
def significant (count num den : Nat) : List Char × Int :=
  if num = 0 then (List.replicate count '0', 0)
  else
    let kept := min count exactDigits
    let e := decimalExponent num den
    let shift := kept - 1 - e
    let d := roundHalfEven (num * Nat.pow 10 shift.toNat) (den * Nat.pow 10 (-shift).toNat)
    let (d, e) := if d = Nat.pow 10 kept then (d / 10, e + 1) else (d, e)
    (digitsOf d ++ zerosBeyond count, e)

/-- The quotient `num / den` with one digit before the point and some places after it. -/
def scientificPlaces (always : Bool) (places num den : Nat) : List Char :=
  let (ds, e) := significant (places + 1) num den
  withPoint always (ds.take 1) (ds.drop 1) ++ exponentMark e

/-- The quotient `num / den` with some digits altogether, of which there is at least one. -/
def generalDigits (always : Bool) (count num den : Nat) : List Char :=
  let (ds, e) := significant count num den
  let fraction (ds : List Char) : List Char := if always then ds else (dropZeros ds).1
  if e < -4 ∨ count ≤ e then
    withPoint always (ds.take 1) (fraction (ds.drop 1)) ++ exponentMark e
  else if e < 0 then
    withPoint always ['0'] (fraction (List.replicate (-e - 1).toNat '0' ++ ds))
  else withPoint always (ds.take (e.toNat + 1)) (fraction (ds.drop (e.toNat + 1)))

/-- **The absolute value of a floating-point number, rounded.** -/
def rounded (form : Form) (always : Bool) (precision : Nat) (x : Float) : List Char :=
  if isUndefined x then "nan".toList
  else if !isFinite x then "inf".toList
  else
    let (num, den) := toQuotient x
    match form with
    | .fixed => fixedPlaces always precision num.natAbs den
    | .scientific => scientificPlaces always precision num.natAbs den
    | .general => generalDigits always (max 1 precision) num.natAbs den

end TokenTemplate.Number
