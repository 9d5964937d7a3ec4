/-!
# Slot tables

A set gives out its items in an order of its own: by slots of a table. An item has a number, its hash, and
stands in the slot that the hash says if that is free. If it is not, some of the slots after it are
tried, and then slots further and further away, `TokenTemplate.SlotTable.freeSlot`. A table that gets too
full is replaced by a larger one, `TokenTemplate.SlotTable.resize`, so the order depends on the items and
on how they came together, but on nothing else.

Whether an item is in a table already is not decided here.
-/

namespace TokenTemplate

/-- A slot of a table. -/
inductive Slot (α : Type)
  /-- Nothing has ever stood here. -/
  | free
  /-- What stood here has been taken out. -/
  | removed
  /-- An item with its hash. -/
  | item (hash : Nat) (x : α)
  deriving Inhabited

/-- A table of slots, whose number is a power of two. -/
structure SlotTable (α : Type) where
  /-- The slots. -/
  slots : Array (Slot α)
  /-- How many of them are not free. -/
  fill : Nat
  deriving Inhabited

namespace SlotTable

variable {α : Type}

/-- A table of free slots. -/
def ofSize (n : Nat) : SlotTable α :=
  ⟨Array.replicate n .free, 0⟩

/-- The smallest table. -/
def empty : SlotTable α :=
  ofSize 8

/-- The items with their hashes, in the order of their slots. -/
def entries (t : SlotTable α) : List (Nat × α) :=
  t.slots.toList.filterMap fun
    | .item h x => some (h, x)
    | _ => none

/-- **The items**, in the order of their slots. -/
def toList (t : SlotTable α) : List α :=
  t.entries.map (·.2)

/-- The number of items. -/
def size (t : SlotTable α) : Nat :=
  t.entries.length

/-! ### Finding a slot -/

/-- Whether a slot is free. -/
def isFree (t : SlotTable α) (i : Nat) : Bool :=
  match t.slots[i]? with
  | some .free => true
  | _ => false

/-- Whether something has been taken out of a slot. -/
def isRemoved (t : SlotTable α) (i : Nat) : Bool :=
  match t.slots[i]? with
  | some .removed => true
  | _ => false

/-- The first free slot from a slot on: the ones right after it are tried if the table does not end
before them, and then the search goes on elsewhere, which `disturbance` has a say in as long as it is
not used up. If something has been taken out of slots on the way, the last of these is as good; `spare` is
one from earlier on. -/
def freeSlot (t : SlotTable α) : (fuel : Nat) → (i disturbance : Nat) → (spare : Option Nat) →
    Option Nat
  | 0, _, _, _ => none
  | fuel + 1, i, disturbance, spare =>
    let near := List.range' i (if i + 9 < t.slots.size then 10 else 1)
    let passed := near.takeWhile fun j => !t.isFree j
    let spare := (passed.filter t.isRemoved).getLast?.or spare
    if passed.length < near.length then spare.or (some (i + passed.length))
    else
      let disturbance := disturbance / 32
      t.freeSlot fuel ((i * 5 + 1 + disturbance) % t.slots.size) disturbance spare

/-- Puts an item into a free slot. -/
def place (t : SlotTable α) (e : Nat × α) : SlotTable α :=
  match t.freeSlot (2 * t.slots.size + 16) (e.1 % t.slots.size) e.1 none with
  | some i =>
    ⟨t.slots.setIfInBounds i (.item e.1 e.2), if t.isRemoved i then t.fill else t.fill + 1⟩
  | none => t

/-! ### Growing -/

/-- The first of the sizes of tables that is greater than a number. -/
def sizeAbove (n : Nat) : Nat :=
  max 8 (Nat.pow 2 (n.log2 + 1))

/-- The same items in a table with more slots than a number. -/
def resize (t : SlotTable α) (n : Nat) : SlotTable α :=
  t.entries.foldl place (ofSize (sizeAbove n))

/-- Whether a table with a number of items more would be too full. -/
def isCrowded (t : SlotTable α) (more : Nat) : Bool :=
  (t.slots.size - 1) * 3 ≤ (t.fill + more) * 5

/-- **A table with one more item.** -/
def insert (t : SlotTable α) (hash : Nat) (x : α) : SlotTable α :=
  let u := t.place (hash, x)
  if t.fill < u.fill ∧ u.isCrowded 0 then u.resize (if 50000 < u.size then u.size * 2 else u.size * 4)
  else u

/-- A table without the items that do not pass a test. -/
def filter (p : α → Bool) (t : SlotTable α) : SlotTable α :=
  ⟨t.slots.map fun
    | .item h x => if p x then .item h x else .removed
    | s => s, t.fill⟩

/-- The same items in a new table if more than a quarter of the slots are spoilt by what was taken out. -/
def tidy (t : SlotTable α) : SlotTable α :=
  if t.fill - t.size ≤ (t.slots.size - 1) / 4 then t
  else t.resize (if 50000 < t.size then t.size * 2 else t.size * 4)

/-- A table with room for a number of items more. -/
def reserve (t : SlotTable α) (more : Nat) : SlotTable α :=
  if t.isCrowded more then t.resize ((t.size + more) * 2) else t

/-- **The items of two tables in one**, except for those of the second one that are not new. Room is made
for all of them at once. -/
def merge (t u : SlotTable α) (isNew : α → Bool) : SlotTable α :=
  let t := t.reserve u.size
  if t.fill = 0 then
    if t.slots.size = u.slots.size ∧ u.fill = u.size then u else u.entries.foldl place t
  else (u.entries.filter fun e => isNew e.2).foldl (fun t e => t.insert e.1 e.2) t

/-- The same items in a table of their own. -/
def copy (t : SlotTable α) : SlotTable α :=
  empty.merge t fun _ => true

end SlotTable

end TokenTemplate
