import TokenTemplate.Value.Compare

/-!
# Operators

What operators make of two values that have been evaluated, `TokenTemplate.Store.binary`. Whole numbers
have no bounds; a whole number meets a floating-point one by being rounded to the nearest one. Division
rounds the quotient down, so that a remainder has the sign of the divisor. Sequences can be joined and
repeated, sets, dictionaries and kinds can be united.
-/

namespace TokenTemplate

/-- What an operation gives: a value, new texts, or a new object. -/
inductive Made
  /-- A value. -/
  | value (v : Value)
  /-- A list of new texts. -/
  | texts (parts : List (List Char))
  /-- A new object. -/
  | object (o : Object)

/-! ### Whole numbers -/

/-- Every bit the other way round. -/
def complement (n : Int) : Int :=
  -n - 1

/-- The conjunction bit by bit; negative numbers have infinitely many leading ones. -/
def bitAnd : Int → Int → Int
  | .ofNat a, .ofNat b => .ofNat (a &&& b)
  | .ofNat a, .negSucc b => .ofNat (a - (a &&& b))
  | .negSucc a, .ofNat b => .ofNat (b - (b &&& a))
  | .negSucc a, .negSucc b => .negSucc (a ||| b)

/-- The disjunction bit by bit. -/
def bitOr (m n : Int) : Int :=
  complement (bitAnd (complement m) (complement n))

/-- The exclusive disjunction bit by bit. -/
def bitXor (m n : Int) : Int :=
  bitAnd (bitOr m n) (complement (bitAnd m n))

/-- The number of bits from which on a shift is refused. -/
def maxShift : Nat :=
  Nat.pow 2 24

/-- A whole number as a floating-point number; fails if it is too large. -/
def toReal (n : Int) : Except Fault Float :=
  match Number.ofInt? n with
  | some x => .ok x
  | none => .error (.ofKind .overflow)

/-- A floating-point number without its fraction; fails if it is not finite. -/
def wholePart (x : Float) : Except Fault Int :=
  if Number.isUndefined x then .error (.ofKind .value)
  else if !Number.isFinite x then .error (.ofKind .overflow)
  else .ok (Number.truncate x)

/-- A division by zero, put into words. -/
def divisionByZero {α : Type} (detail : String) : Except Fault α :=
  .error (.explained .zeroDivision detail)

/-- An operator between complex numbers. -/
def complexOp (op : Payload.BinaryOp) (a b : Number.Complex) : Except Fault Value :=
  match op with
  | .add => .ok (.complex (a.add b))
  | .sub => .ok (.complex (a.sub b))
  | .mul => .ok (.complex (a.mul b))
  | .div =>
    match a.div? b with
    | some c => .ok (.complex c)
    | none => divisionByZero "complex division by zero"
  | .pow =>
    match a.pow? b with
    | some c =>
      if Number.isInfinite c.re || Number.isInfinite c.im then .error (.ofKind .overflow)
      else .ok (.complex c)
    | none => divisionByZero "0.0 to a negative or complex power"
  | _ => .error (.ofKind .type)

/-- The power of floating-point numbers. It is complex if the base is negative and the exponent has a
fraction. -/
def realPower (x y : Float) : Except Fault Value :=
  if x == 0 && y < 0 then divisionByZero "0.0 cannot be raised to a negative power"
  else if x < 0 && Number.isFinite x && Number.isFinite y && y.floor != y then
    complexOp .pow (.ofReal x) (.ofReal y)
  else
    let z := x.pow y
    if Number.isFinite x && Number.isFinite y && !Number.isFinite z then .error (.ofKind .overflow)
    else .ok (.ofReal z)

/-- An operator between whole numbers. -/
def wholeOp (op : Payload.BinaryOp) (m n : Int) : Except Fault Value :=
  match op with
  | .add => .ok (.ofInt (m + n))
  | .sub => .ok (.ofInt (m - n))
  | .mul => .ok (.ofInt (m * n))
  | .div =>
    if n = 0 then divisionByZero "division by zero"
    else match Number.nearest? (decide (m < 0) != decide (n < 0)) m.natAbs n.natAbs with
      | some x => .ok (.ofReal x)
      | none => .error (.ofKind .overflow)
  | .floorDiv =>
    if n = 0 then divisionByZero "integer division or modulo by zero" else .ok (.ofInt (m.fdiv n))
  | .mod => if n = 0 then divisionByZero "integer modulo by zero" else .ok (.ofInt (m.fmod n))
  | .pow =>
    if 0 ≤ n then .ok (.ofInt (Int.pow m n.toNat))
    else do realPower (← toReal m) (← toReal n)
  | .and => .ok (.ofInt (bitAnd m n))
  | .or => .ok (.ofInt (bitOr m n))
  | .xor => .ok (.ofInt (bitXor m n))
  | .shiftLeft =>
    if n < 0 then .error (.ofKind .value)
    else if m = 0 then .ok (.ofInt 0)
    else if maxShift < n.toNat then .error (.ofKind .overflow)
    else .ok (.ofInt (m * Int.pow 2 n.toNat))
  | .shiftRight =>
    if n < 0 then .error (.ofKind .value)
    else if m.natAbs.log2 < n.toNat then .ok (.ofInt (if m < 0 then -1 else 0))
    else .ok (.ofInt (m.fdiv (Int.pow 2 n.toNat)))
  | .matMul => .error (.ofKind .type)

/-! ### Floating-point numbers -/

/-- An operator between floating-point numbers. -/
def realOp (op : Payload.BinaryOp) (x y : Float) : Except Fault Value :=
  match op with
  | .add => .ok (.ofReal (x + y))
  | .sub => .ok (.ofReal (x - y))
  | .mul => .ok (.ofReal (x * y))
  | .div => if y == 0 then divisionByZero "float division by zero" else .ok (.ofReal (x / y))
  | .floorDiv =>
    if y == 0 then divisionByZero "float floor division by zero"
    else .ok (.ofReal (Number.floorDivide x y).1)
  | .mod =>
    if y == 0 then divisionByZero "float modulo" else .ok (.ofReal (Number.floorDivide x y).2)
  | .pow => realPower x y
  | _ => .error (.ofKind .type)

/-- A number as a floating-point number. -/
def realOf : Number.Quantity → Except Fault Float
  | .whole n => toReal n
  | .real x => .ok x

/-- A number as a complex one, if it is a number. -/
def complexOf? (v : Value) : Option (Except Fault Number.Complex) :=
  match v with
  | .complex a => some (.ok a)
  | v => v.quantity?.map fun q => do return .ofReal (← realOf q)

/-- Whether an operator works on single bits. -/
def isBitwise : Payload.BinaryOp → Bool
  | .and | .or | .xor => true
  | _ => false

/-- An operator between two numbers. -/
def numberOp (op : Payload.BinaryOp) (p q : Number.Quantity) : Except Fault Value :=
  match p, q with
  | .whole m, .whole n => wholeOp op m n
  | p, q => do realOp op (← realOf p) (← realOf q)

/-! ### Parts -/

/-- The largest number of elements that a sequence can have. -/
def lengthLimit : Nat :=
  Nat.pow 2 63

/-- Whether a number can be a position, counted from the start or from the end. -/
def isPosition (i : Int) : Bool :=
  -lengthLimit ≤ i ∧ i < lengthLimit

/-- The number of elements from which on there is no room for a sequence. -/
def storageLimit : Nat :=
  Nat.pow 2 36

/-- Some copies of a row, one after another, as far as there is room for them; `tooLong` is what goes wrong if
no sequence can have so many elements. -/
def repeated {α : Type} (tooLong : ErrorKind) (n : Int) (row : List α) : Except Fault (List α) :=
  if !isPosition n then .error (.ofKind .overflow)
  else if row.isEmpty then .ok []
  else if lengthLimit ≤ n.toNat * row.length then .error (.ofKind tooLong)
  else if storageLimit ≤ n.toNat * row.length then .error (.ofKind .memory)
  else .ok (List.replicate n.toNat row).flatten

/-- A sequence, some times over. -/
def repeatSequence (s : Store) (v : Value) (n : Int) : Except Fault Made :=
  match v with
  | .text t _ => do
    let row ← repeated .overflow n t.toList
    return if n = 1 then .value v else .value (.ofText (String.ofList row))
  | v =>
    match s.objectOf? v with
    | some (.list items) => do return .object (.list (← repeated .memory n items.toList).toArray)
    | some (.tuple items) => do
      let row ← repeated .memory n items
      return if n = 1 then .value v else .object (.tuple row)
    | _ => .error (.ofKind .type)

/-- A set of the items of a row. -/
def setOf (s : Store) (items : List Value) : Except Fault Made := do
  return .object (.set (← items.foldlM s.addItem .empty))

/-- The table for the items of a set that is known before anything runs: it is made twice, the second time
from the first one. -/
def constantSet (s : Store) (items : List Value) : Except Fault (SlotTable Value) := do
  let t ← items.foldlM s.addItem .empty
  t.toList.foldlM s.addItem .empty

/-- The items of a row that are, or are not, among others. -/
def keepAmong (s : Store) (wanted : Bool) (others : List Value) (items : List Value) :
    Except Fault (List Value) :=
  items.filterM fun v => do return (← Store.isAmong s.sameOrEqual v others) == wanted

/-- A table with the items of another one too. -/
def mergeSets (s : Store) (t u : SlotTable Value) : Except Fault (SlotTable Value) := do
  let fresh ← keepAmong s false t.toList u.toList
  return t.merge u fresh.contains

/-- The items of two sets in one. -/
def uniteSets (s : Store) (t u : SlotTable Value) : Except Fault (SlotTable Value) :=
  mergeSets s t.copy u

/-- The items of a set that are not in another one. A set that is much larger is copied first. -/
def withoutItems (s : Store) (t u : SlotTable Value) : Except Fault (SlotTable Value) := do
  let kept ← keepAmong s false u.toList t.toList
  if u.size < t.size / 4 then
    return (t.copy.filter kept.contains).tidy
  else return kept.foldl (SlotTable.add s) .empty

/-- A set from which some values that are in it have been taken out, and into which the others have been put,
one after another. -/
def exchange (s : Store) (items : List Value) (table : SlotTable Value) :
    Except Fault (SlotTable Value) :=
  items.foldlM (fun table v => do
    let kept ← keepAmong s false [v] table.toList
    return if kept.length < table.size then table.filter kept.contains else table.add s v) table

/-- The items of one of two sets that are not in the other one. -/
def differingItems (s : Store) (t u : SlotTable Value) : Except Fault (SlotTable Value) :=
  exchange s t.toList u.copy

/-- The items that two sets have in common, as they are in the smaller one. -/
def commonItems (s : Store) (t u : SlotTable Value) : Except Fault (SlotTable Value) := do
  let (small, large) := if t.size < u.size then (t, u) else (u, t)
  return (← keepAmong s true large.toList small.toList).foldl (SlotTable.add s) .empty

/-- An operator between two sets. -/
def setOp (s : Store) (op : Payload.BinaryOp) (t u : SlotTable Value) : Except Fault Made := do
  let table ← match op with
    | .and => commonItems s t u
    | .or => uniteSets s t u
    | .xor => differingItems s t u
    | .sub => withoutItems s t u
    | _ => .error (.ofKind .type)
  return .object (.set table)

/-- The kinds that a value stands for among others, if it stands for any. -/
def kindsOf? (s : Store) (v : Value) : Option (List Kind) :=
  match v, s.objectOf? v with
  | .none, _ => some [.absent]
  | .kind k, _ => some [k]
  | _, some (.union kinds) => some kinds
  | _, _ => none

/-- Kinds without those that come again. -/
def distinctKinds (kinds : List Kind) : List Kind :=
  kinds.foldl (fun ks k => if ks.contains k then ks else ks ++ [k]) []

/-- Two values as one kind, unless both are absent. -/
def uniteKinds (s : Store) (v w : Value) : Except Fault Made :=
  match kindsOf? s v, kindsOf? s w with
  | some ks, some ls =>
    if v = .none ∧ w = .none then .error (.ofKind .type)
    else
      match distinctKinds (ks ++ ls) with
      | [k] => .ok (.value (.kind k))
      | kinds => .ok (.object (.union kinds))
  | _, _ => .error (.ofKind .type)

/-- An operator between two objects. -/
def objectOp (s : Store) (op : Payload.BinaryOp) (v w : Value) : Except Fault Made :=
  match op, s.objectOf? v, s.objectOf? w with
  | .add, some (.list vs), some (.list ws) => .ok (.object (.list (vs ++ ws)))
  | .add, some (.tuple vs), some (.tuple ws) =>
    .ok (if vs.isEmpty then .value w else if ws.isEmpty then .value v else .object (.tuple (vs ++ ws)))
  | .or, some (.dict vs), some (.dict ws) => do
    return .object (.dict (← ws.foldlM (fun d p => s.setEntry p.1 p.2 d) vs))
  | op, some (.set t), some (.set u) => setOp s op t u
  | .or, _, _ => uniteKinds s v w
  | _, _, _ => .error (.ofKind .type)

/-- **An operator between two values.** -/
def Store.binary (s : Store) (op : Payload.BinaryOp) (v w : Value) : Except Fault Made :=
  match v.quantity?, w.quantity? with
  | some p, some q =>
    match v, w with
    | .bool a, .bool b =>
      if isBitwise op then do
        match ← numberOp op p q with
        | .int n _ => return .value (.bool (n != 0))
        | x => return .value x
      else do return .value (← numberOp op (.whole (if a then 1 else 0)) (.whole (if b then 1 else 0)))
    | _, _ => do return .value (← numberOp op p q)
  | p, q =>
    match complexOf? v, complexOf? w with
    | some a, some b => do return .value (← complexOp op (← a) (← b))
    | _, _ =>
      match op, p, q with
      | .mul, some (.whole n), _ => repeatSequence s w n
      | .mul, _, some (.whole n) => repeatSequence s v n
      | .add, _, _ =>
        match v, w with
        | .text t _, .text u _ =>
          .ok (.value (if t.isEmpty then w else if u.isEmpty then v else .ofText (t ++ u)))
        | v, w => objectOp s .add v w
      | op, _, _ => objectOp s op v w

/-- **An operator in front of a value.** -/
def Store.unary (s : Store) (op : Payload.UnaryOp) (v : Value) : Except Fault Value :=
  match op, v.quantity? with
  | .minus, none =>
    match v with
    | .complex a => .ok (.complex a.neg)
    | _ => .error (.ofKind .type)
  | .plus, none =>
    match v with
    | .complex _ => .ok v
    | _ => .error (.ofKind .type)
  | .not, _ => .ok (.bool !(s.truth v))
  | .plus, some (.whole n) => .ok (if v matches .bool _ then .ofInt n else v)
  | .plus, some (.real _) => .ok v
  | .minus, some (.whole n) => .ok (.ofInt (-n))
  | .minus, some (.real x) => .ok (.ofReal (-x))
  | .invert, some (.whole n) => .ok (.ofInt (complement n))
  | _, _ => .error (.ofKind .type)

end TokenTemplate
