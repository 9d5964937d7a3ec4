import TokenTemplate.Number.Nearest
import TokenTemplate.Value.Hash
import TokenTemplate.Value.Sort

/-!
# Comparing values

Equality goes by content: numbers are equal if they are the same number, of whatever kind, and
sequences, dictionaries and sets if their parts are, `TokenTemplate.Store.equal`. Parts that are one and
the same object count as equal without being looked at. The order is defined for numbers, for texts,
for sequences part by part, and for sets by inclusion, `TokenTemplate.Store.ordered`.

A value that can change has no place as a key, `TokenTemplate.Store.isKey`.
-/

namespace TokenTemplate

/-- A member of a value that is like a set. -/
inductive Member
  /-- A value. -/
  | value (v : Value)
  /-- A key with its value. -/
  | entry (k v : Value)

/-! ### Numbers -/

/-- The number that a value is; truth values are zero and one. -/
def Value.quantity? : Value → Option Number.Quantity
  | bool b => some (.whole (if b then 1 else 0))
  | int n _ => some (.whole n)
  | float x _ => some (.real x)
  | _ => Option.none

/-- The whole number that a value is. -/
def Value.whole? : Value → Option Int
  | bool b => some (if b then 1 else 0)
  | int n _ => some n
  | _ => Option.none

/-! ### Ranges -/

/-- How many numbers are in a range. -/
def rangeLength (start stop step : Int) : Nat :=
  if 0 < step then ((stop - start + step - 1) / step).toNat
  else ((start - stop - step - 1) / -step).toNat

/-- A number of a range, by its position. -/
def rangeElement (start step : Int) (i : Nat) : Int :=
  start + i * step

/-- Whether a number is in a range. -/
def inRange (start stop step n : Int) : Bool :=
  (n - start) % step == 0 &&
    (if 0 < step then start ≤ n && n < stop else stop < n && n ≤ start)

namespace Store

/-! ### Parts -/

/-- How many parts a value has, if it can have parts. -/
def length? (s : Store) : Value → Option Nat
  | .text t _ => some t.length
  | .range start stop step _ => some (rangeLength start stop step)
  | .receiver id => some (s.items id).length
  | .object id =>
    match s.object? id with
    | some (.tuple items) => some items.length
    | some (.list items) => some items.size
    | some (.set table) => some table.size
    | some (.dict entries) => some entries.length
    | some (.view _ dict) =>
      match s.object? dict with
      | some (.dict entries) => some entries.length
      | _ => some 0
    | _ => none
  | _ => none

/-- Whether a value counts as true. -/
def truth (s : Store) : Value → Bool
  | .none => false
  | .bool b => b
  | .int n _ => n != 0
  | .float x _ => !(x == 0)
  | .complex a => !a.isZero
  | v => (s.length? v).all (· != 0)

/-- The part of a sequence at a position. -/
def element? (s : Store) (v : Value) (i : Nat) : Option Value :=
  match v with
  | .text t _ => (t.toList[i]?).map fun c => .ofText (String.singleton c)
  | .range start stop step _ =>
    if i < rangeLength start stop step then some (.ofInt (rangeElement start step i)) else none
  | .receiver id => ((s.receivers[id]?.getD #[])[i]?).map Value.ofItem
  | .object id =>
    match s.object? id with
    | some (.tuple items) => items[i]?
    | some (.list items) => items[i]?
    | _ => none
  | _ => none

/-- The items of a list or a tuple. -/
def rowOf (s : Store) (v : Value) : List Value :=
  match s.objectOf? v with
  | some (.list items) => items.toList
  | some (.tuple items) => items
  | _ => []

/-- The entries of a dictionary. -/
def entries (s : Store) (id : Nat) : List (Value × Value) :=
  match s.object? id with
  | some (.dict entries) => entries
  | _ => []

/-! ### Equality -/

/-- Whether the rows of two sequences are equal, part by part. -/
def allEqual (eq : Value → Value → Except Fault Bool) : List Value → List Value → Except Fault Bool
  | [], [] => .ok true
  | v :: vs, w :: ws => do if ← eq v w then allEqual eq vs ws else return false
  | _, _ => .ok false

/-- The value of a key among some entries. -/
def findEntry? (eq : Value → Value → Except Fault Bool) (key : Value) :
    List (Value × Value) → Except Fault (Option Value)
  | [] => .ok none
  | (k, v) :: rest => do if ← eq k key then return some v else findEntry? eq key rest

/-- Whether a value is among others. -/
def isAmong (eq : Value → Value → Except Fault Bool) (v : Value) : List Value → Except Fault Bool
  | [] => .ok false
  | w :: ws => do if ← eq w v then return true else isAmong eq v ws

/-- Whether all entries of one dictionary are in another one. -/
def areEntries (eq : Value → Value → Except Fault Bool) (others : List (Value × Value)) :
    List (Value × Value) → Except Fault Bool
  | [] => .ok true
  | (k, v) :: rest => do
    match ← findEntry? eq k others with
    | some w => if ← eq v w then areEntries eq others rest else return false
    | none => return false

/-! ### Keys -/

/-- Whether a value can be a key, with at most `fuel` levels of parts. -/
def isKeyWithin (s : Store) : (fuel : Nat) → Value → Bool
  | 0, _ => false
  | fuel + 1, v =>
    match v with
    | .receiver _ => false
    | .object id =>
      match s.object? id with
      | some (.list _) | some (.dict _) | some (.set _) | some (.slice ..) | some (.record _) => false
      | some (.view part _) => part == .values
      | some (.tuple items) => items.all (s.isKeyWithin fuel)
      | _ => true
    | _ => true

/-- Whether a value can be a key of a dictionary or an item of a set. -/
def isKey (s : Store) (v : Value) : Bool :=
  s.isKeyWithin (s.objects.size + 2) v

/-- Fails unless a value can be a key. -/
def needsKey (s : Store) (v : Value) : Except Fault Unit :=
  if s.isKey v then .ok () else .error (.ofKind .type)

/-! ### Members -/

/-- The members of a value that is like a set: one that is a set, or the keys or the items of a
dictionary. -/
def membersOf? (s : Store) (v : Value) : Option (List Member) :=
  match s.objectOf? v with
  | some (.set table) => some (table.toList.map .value)
  | some (.view .keys dict) => some ((s.entries dict).map fun p => .value p.1)
  | some (.view .items dict) => some ((s.entries dict).map fun p => .entry p.1 p.2)
  | _ => none

/-- Whether two members are equal. -/
def equalMember (s : Store) (eq : Value → Value → Except Fault Bool) :
    Member → Member → Except Fault Bool
  | .value v, .value w => eq v w
  | .entry k v, .entry l w => do if ← eq k l then eq v w else return false
  | .entry k v, .value w | .value w, .entry k v =>
    match s.objectOf? w with
    | some (.tuple [x, y]) => do if ← eq x k then eq y v else return false
    | _ => .ok false

/-- Whether a member is among others. It has to be possible there, unless they are entries. -/
def isMember (s : Store) (eq : Value → Value → Except Fault Bool) (m : Member) (others : Value)
    (ns : List Member) : Except Fault Bool := do
  match s.objectOf? others, m with
  | some (.view .items _), _ => pure ()
  | _, .value v | _, .entry _ v => s.needsKey v
  return (← ns.findM? (s.equalMember eq m)).isSome

/-- Whether all members of a value are members of another one. -/
def includes (s : Store) (eq : Value → Value → Except Fault Bool) (others : Value)
    (ns : List Member) : List Member → Except Fault Bool
  | [] => .ok true
  | m :: ms => do if ← s.isMember eq m others ns then includes s eq others ns ms else return false

/-- Whether a relation between sets holds of two values, as far as they are like sets. -/
def comparedMembers? (s : Store) (eq : Value → Value → Except Fault Bool) (op : Payload.CompareOp)
    (v w : Value) : Option (Except Fault Bool) :=
  match s.membersOf? v, s.membersOf? w with
  | some ms, some ns =>
    let below := includes s eq w ns ms
    let above := includes s eq v ms ns
    some (match op with
      | .equal => if ms.length = ns.length then below else .ok false
      | .less => if ms.length < ns.length then below else .ok false
      | .lessEqual => if ms.length ≤ ns.length then below else .ok false
      | .greater => if ns.length < ms.length then above else .ok false
      | _ => if ns.length ≤ ms.length then above else .ok false)
  | _, _ => none

/-! ### Equality of values -/

/-- Whether two values are equal, with at most `fuel` levels of parts. -/
def equalWithin (s : Store) : (fuel : Nat) → Value → Value → Except Fault Bool
  | 0, _, _ => .error (.ofKind .recursion)
  | fuel + 1, v, w =>
    let eq (a b : Value) : Except Fault Bool := if a = b then .ok true else s.equalWithin fuel a b
    match v.quantity?, w.quantity? with
    | some p, some q => .ok (p.compare? q == some .eq)
    | _, _ =>
      match v, w with
      | .complex a, .complex b => .ok (a.equals b)
      | .complex a, x | x, .complex a =>
        .ok (a.im == 0 && x.quantity?.any fun q => q.compare? (.real a.re) == some .eq)
      | .text t _, .text u _ => .ok (t == u)
      | .range a b c _, .range d e f _ =>
        let n := rangeLength a b c
        .ok (n == rangeLength d e f && (n == 0 || (a == d && (n == 1 || c == f))))
      | .receiver i, .receiver j => .ok (s.items i == s.items j)
      | .object i, .object j =>
        if i = j then .ok true
        else match s.object? i, s.object? j with
          | some (.tuple vs), some (.tuple ws) => allEqual eq vs ws
          | some (.list vs), some (.list ws) => allEqual eq vs.toList ws.toList
          | some (.slice a b c), some (.slice d e f) => allEqual eq [a, b, c] [d, e, f]
          | some (.dict vs), some (.dict ws) =>
            if vs.length = ws.length then areEntries eq ws vs else .ok false
          | some (.record vs), some (.record ws) =>
            if vs.length = ws.length then
              areEntries eq (ws.map fun p => (.ofText p.1, p.2)) (vs.map fun p => (.ofText p.1, p.2))
            else .ok false
          | some (.method a m), some (.method b n) => .ok (a == b && m == n)
          | some (.union ks), some (.union ls) => .ok (ks.all ls.contains && ls.all ks.contains)
          | some (.set _), some (.view ..) => (s.comparedMembers? eq .equal w v).getD (.ok false)
          | _, _ => (s.comparedMembers? eq .equal v w).getD (.ok false)
      | v, w => .ok (v == w)

/-- **Whether two values are equal.** -/
def equal (s : Store) (v w : Value) : Except Fault Bool :=
  s.equalWithin (s.objects.size + 2) v w

/-- Whether two values are one and the same; there is only one empty tuple. -/
def same (s : Store) (v w : Value) : Bool :=
  v == w ||
    match s.objectOf? v, s.objectOf? w with
    | some (.tuple []), some (.tuple []) => true
    | _, _ => false

/-- Whether two values have the same content and are of the same kinds, and so are their parts if they are
tuples, with at most `fuel` levels of parts. -/
def alikeWithin (s : Store) : (fuel : Nat) → Value → Value → Bool
  | 0, _, _ => false
  | fuel + 1, v, w =>
    match s.objectOf? v, s.objectOf? w with
    | some (.tuple vs), some (.tuple ws) =>
      vs.length == ws.length && (vs.zip ws).all fun p => s.alikeWithin fuel p.1 p.2
    | _, _ => v.asLiteral == w.asLiteral

/-- **Whether two values that are known before anything runs are one and the same**: there is only one of each
content. -/
def alike (s : Store) (v w : Value) : Bool :=
  s.alikeWithin (s.objects.size + 2) v w

/-- Whether two values are one and the same or equal. -/
def sameOrEqual (s : Store) (v w : Value) : Except Fault Bool :=
  if v = w then .ok true else s.equal v w

/-- The value of a key in a dictionary. -/
def lookup? (s : Store) (id : Nat) (key : Value) : Except Fault (Option Value) := do
  s.needsKey key
  findEntry? s.sameOrEqual key (s.entries id)

/-- Entries with one more, in the place of the entry with the same key if there is one. -/
def setEntry (s : Store) (key v : Value) :
    List (Value × Value) → Except Fault (List (Value × Value))
  | [] => .ok [(key, v)]
  | (k, w) :: rest => do
    if ← s.sameOrEqual k key then return (k, v) :: rest
    else return (k, w) :: (← setEntry s key v rest)

/-- A set with one more item, unless it has an equal one. -/
def addItem (s : Store) (table : SlotTable Value) (v : Value) : Except Fault (SlotTable Value) := do
  s.needsKey v
  if ← isAmong s.sameOrEqual v table.toList then return table else return table.add s v

/-! ### Order -/

/-- Whether an order relation holds between things that compare in some way. -/
def holds (op : Payload.CompareOp) (o : Ordering) : Bool :=
  match op with
  | .less => o == .lt
  | .lessEqual => o != .gt
  | .greater => o == .gt
  | .greaterEqual => o != .lt
  | _ => false

/-- Whether an order relation holds between two sequences: the first parts that differ decide, and if
there are none the lengths. -/
def orderedParts (eq : Value → Value → Except Fault Bool)
    (ord : Value → Value → Except Fault Bool) (op : Payload.CompareOp) :
    List Value → List Value → Except Fault Bool
  | v :: vs, w :: ws => do
    if ← eq v w then orderedParts eq ord op vs ws else ord v w
  | vs, ws => .ok (holds op (compare vs.length ws.length))

/-- Whether an order relation holds, with at most `fuel` levels of parts. -/
def orderedWithin (s : Store) (op : Payload.CompareOp) :
    (fuel : Nat) → Value → Value → Except Fault Bool
  | 0, _, _ => .error (.ofKind .recursion)
  | fuel + 1, v, w =>
    match v.quantity?, w.quantity? with
    | some p, some q => .ok ((p.compare? q).any (holds op))
    | _, _ =>
      match v, w with
      | .text t _, .text u _ =>
        .ok (holds op (if t < u then .lt else if u < t then .gt else .eq))
      | .object i, .object j =>
        match s.object? i, s.object? j with
        | some (.tuple vs), some (.tuple ws) =>
          orderedParts s.sameOrEqual (s.orderedWithin op fuel) op vs ws
        | some (.list vs), some (.list ws) =>
          orderedParts s.sameOrEqual (s.orderedWithin op fuel) op vs.toList ws.toList
        | _, _ => (s.comparedMembers? s.sameOrEqual op v w).getD (.error (.ofKind .type))
      | _, _ => .error (.ofKind .type)

/-- **Whether an order relation holds between two values.** -/
def ordered (s : Store) (op : Payload.CompareOp) (v w : Value) : Except Fault Bool :=
  s.orderedWithin op (s.objects.size + 2) v w

/-- Values with their keys in ascending order of the keys; equal keys keep their order. -/
def sortByKey (s : Store) (xs : List (Value × Value)) : Except Fault (List (Value × Value)) :=
  sortBy (fun x y => s.ordered .less x.1 y.1) xs

end Store

end TokenTemplate
