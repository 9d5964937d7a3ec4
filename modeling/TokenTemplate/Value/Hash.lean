import TokenTemplate.Number.Nearest
import TokenTemplate.Value.Store

/-!
# Hashes

The numbers by which sets find a slot for their items, `TokenTemplate.Store.hash?`. Numbers that are equal have
the same hash, which is the number modulo a prime; a quotient is taken modulo the prime too, so a power of
two in the divisor is a rotation of the bits. A tuple mixes the hashes of its parts. Of all other values
the hash is not fixed, and they are numbered as they come.
-/

namespace TokenTemplate

/-- The prime that hashes of numbers are taken modulo. -/
def hashPrime : Nat :=
  Nat.pow 2 61 - 1

/-- A hash with a sign; minus one is no hash. -/
def signedHash (negative : Bool) (n : Nat) : Int :=
  let h : Int := if negative then -n else n
  if h = -1 then -2 else h

/-- The hash of a floating-point number. -/
def realHash (x : Float) : Int :=
  if Number.isFinite x then
    let (m, e) := Number.parts x
    signedHash (Number.isNegative x) (m * Nat.pow 2 (e % 61).toNat % hashPrime)
  else signedHash (Number.isNegative x) 314159

/-- A hash as a number of sixty-four bits. -/
def hashWord (h : Int) : UInt64 :=
  UInt64.ofNat (h % Int.pow 2 64).toNat

/-- The hash of a tuple of parts with given hashes. -/
def tupleHash (parts : List Int) : Int :=
  let mixed := parts.foldl (fun (h : UInt64) part =>
    let h := h + hashWord part * 14029467366897019727
    ((h <<< 31) ||| (h >>> 33)) * 11400714785074694791) 2870177450012600261
  let h := (mixed + (UInt64.ofNat parts.length ^^^ (2870177450012600261 ^^^ 3527539))).toNat
  if h = Nat.pow 2 64 - 1 then 1546275796
  else if Nat.pow 2 63 ≤ h then (h : Int) - Int.pow 2 64
  else h

/-- The hash of a value of at most `fuel` levels of parts, if it is fixed. -/
def Store.hashWithin? (s : Store) : (fuel : Nat) → Value → Option Int
  | 0, _ => none
  | fuel + 1, v =>
    match v with
    | .bool b => some (if b then 1 else 0)
    | .int n _ => some (signedHash (n < 0) (n.natAbs % hashPrime))
    | .float x _ => if Number.isUndefined x then none else some (realHash x)
    | .object id =>
      match s.object? id with
      | some (.tuple items) => (items.mapM (s.hashWithin? fuel)).map tupleHash
      | _ => none
    | _ => none

/-- **The hash of a value**, if it is fixed. -/
def Store.hash? (s : Store) (v : Value) : Option Int :=
  s.hashWithin? (s.objects.size + 1) v

namespace SlotTable

/-- A table with one more value. -/
def add (s : Store) (t : SlotTable Value) (v : Value) : SlotTable Value :=
  t.insert (((s.hash? v).map fun h => (hashWord h).toNat).getD t.size) v

end SlotTable

end TokenTemplate
