import TokenTemplate.Output.Layout
import TokenTemplate.Routine.Basic
import TokenTemplate.Value.Basic
import TokenTemplate.Value.SlotTable

/-!
# The store

Everything that values name and that can change: `TokenTemplate.Object`s, receivers, and what probes were
called with. A suspended computation is an object like any other, `TokenTemplate.Iteration`: it is
given by what is still to be done, never by a function.

Receivers are kept apart, since they obey a law of their own: whatever runs, a receiver only gets items
at its end, and never an empty text unless one was there before. This is the order on stores
`TokenTemplate.Store.Grows`, and no action on stores can break it.
-/

namespace TokenTemplate

/-- A compiled template, to be run any number of times. -/
structure Template where
  /-- Its text. -/
  source : String
  /-- The name of its receiver. -/
  receiver : String
  /-- The choices of the caller. -/
  settings : Settings
  /-- What it was compiled to. -/
  routine : Routine

/-- The names under which a template and its receiver are handed over, so that no binding can have
them. -/
def Template.ownNames : List String :=
  ["self", "tokens"]

/-! ### Objects -/

/-- A frame with the names of one scope. -/
structure ScopeLevel where
  /-- The number of the frame. -/
  frame : Nat
  /-- Whether it belongs to a comprehension, in which assignments bind names further out. -/
  comprehension : Bool

/-- Where names are looked up: in some frames, the innermost first, and then among the bindings of the
whole payload. -/
structure Scope where
  /-- The frames. -/
  levels : List ScopeLevel
  /-- The number of the frame with the bindings of the payload. -/
  globals : Nat

/-- A comprehension under way. -/
structure Generation where
  /-- What it makes of its elements. -/
  form : Payload.Form
  /-- The element. -/
  element : Payload.Expr
  /-- The clauses. -/
  clauses : List Payload.Clause
  /-- The iterators of the clauses that have been entered, the innermost first. -/
  active : List Nat
  /-- Where its names are looked up. -/
  scope : Scope
  /-- Whether it is computing an item right now. -/
  running : Bool

/-- What an iterator has still to give. -/
inductive Iteration
  /-- Some items of a value that cannot change, with the kind of the iterator. -/
  | row (sort : Kind) (items : List Value)
  /-- The elements of a sequence from a position on. -/
  | forward (owner : Value) (position : Nat)
  /-- The elements of a sequence before a position, backwards. -/
  | backward (owner : Value) (position : Nat)
  /-- The entries of a dictionary of a given size from a position on. -/
  | entries (part : DictMethod) (dict : Nat) (position size : Nat)
  /-- The items of an iterator, numbered. -/
  | numbered (items : Nat) (count : Int)
  /-- The items of some iterators side by side, which perhaps have to end together. -/
  | parallel (items : List Nat) (together : Bool)
  /-- The results of a function up to a given one. -/
  | calls (f stop : Value)
  /-- The elements of a comprehension. -/
  | generation (g : Generation)

/-- A parameter of a function object. -/
structure BoundParameter where
  /-- Its name. -/
  name : String
  /-- How it is found. -/
  kind : Payload.ParameterKind
  /-- What it is if it is not found. -/
  default : Option Value

/-- An object of the store. -/
inductive Object
  /-- A tuple. -/
  | tuple (items : List Value)
  /-- A list. -/
  | list (items : Array Value)
  /-- A dictionary, in the order in which its keys were added. -/
  | dict (entries : List (Value × Value))
  /-- A set. -/
  | set (table : SlotTable Value)
  /-- Several kinds at once: a value of one of them is of this kind. -/
  | union (kinds : List Kind)
  /-- A range of positions. -/
  | slice (low high step : Value)
  /-- A value that writes itself to a receiver. -/
  | writer (items : List Item)
  /-- A value with attributes. -/
  | record (fields : Bindings)
  /-- A template. -/
  | template (t : Template)
  /-- A function that keeps its arguments and gives a fixed value, or else its first argument. -/
  | probe (returns : Option Value)
  /-- A method of a value. -/
  | method (self : Value) (m : Method)
  /-- A function of a payload. -/
  | closure (parameters : List BoundParameter) (body : Payload.Expr) (own : List String)
      (scope : Scope)
  /-- The keys, values or items of a dictionary. -/
  | view (part : DictMethod) (dict : Nat)
  /-- An iterator. -/
  | iterator (i : Iteration)
  /-- The names of a scope, some of them without a value yet. -/
  | frame (names : List (String × Option Value))
  deriving Inhabited

/-- Everything that values name. -/
structure Store where
  /-- The objects. -/
  objects : Array Object := #[]
  /-- The items of the receivers. -/
  receivers : Array (Array Item) := #[]
  /-- The arguments of every call of a probe. -/
  calls : List (List Value) := []
  /-- How many origins have been given out. -/
  origins : Nat := 0
  deriving Inhabited

namespace Store

/-- The object of a number. -/
def object? (s : Store) (id : Nat) : Option Object :=
  s.objects[id]?

/-- The object that a value is. -/
def objectOf? (s : Store) : Value → Option Object
  | .object id => s.object? id
  | _ => none

/-- The items of a receiver. -/
def items (s : Store) (id : Nat) : List Item :=
  (s.receivers[id]?.getD #[]).toList

/-- A store with one more object, and its number. -/
def allocate (s : Store) (o : Object) : Nat × Store :=
  (s.objects.size, { s with objects := s.objects.push o })

/-- A store with one more receiver, and its number. -/
def allocateReceiver (s : Store) (items : List Item) : Nat × Store :=
  (s.receivers.size, { s with receivers := s.receivers.push items.toArray })

/-- A value that has just been made, with an origin of its own unless it has one. -/
def made (s : Store) (v : Value) : Value × Store :=
  (v.withOrigin (.made s.origins), { s with origins := s.origins + 1 })

/-- A store with more items at the end of a receiver. -/
def extend (s : Store) (id : Nat) (more : List Item) : Store :=
  { s with receivers := s.receivers.modify id (· ++ more.toArray) }

/-! ### Growing -/

/-- Whether no receiver holds an empty text. -/
def Clean (s : Store) : Prop :=
  ∀ id, Item.text "" ∉ s.items id

/-- **The order on stores**: receivers only get items at their ends, and no empty texts. -/
structure Grows (s t : Store) : Prop where
  /-- Every receiver keeps its items. -/
  items_isPrefix : ∀ id, s.items id <+: t.items id
  /-- No receiver gets an empty text. -/
  clean : s.Clean → t.Clean

theorem Grows.refl (s : Store) : s.Grows s :=
  ⟨fun _ => List.prefix_refl _, id⟩

theorem Grows.trans {s t u : Store} (h : s.Grows t) (h' : t.Grows u) : s.Grows u :=
  ⟨fun id => (h.items_isPrefix id).trans (h'.items_isPrefix id), h'.clean ∘ h.clean⟩

/-- Only receivers matter. -/
theorem grows_of_receivers_eq {s t : Store} (h : t.receivers = s.receivers) : s.Grows t := by
  have heq : ∀ id, t.items id = s.items id := fun id => by simp [items, h]
  exact ⟨fun id => heq id ▸ List.prefix_refl _, fun hs id => heq id ▸ hs id⟩

theorem items_allocateReceiver (s : Store) (more : List Item) (id : Nat) :
    (s.allocateReceiver more).2.items id =
      if id = s.receivers.size then more else s.items id := by
  simp only [items, allocateReceiver, Array.getElem?_push]
  split <;> rfl

theorem items_of_size_le {s : Store} {id : Nat} (h : s.receivers.size ≤ id) :
    s.items id = [] := by
  simp [items, Array.getElem?_eq_none h]

theorem grows_allocateReceiver (s : Store) : s.Grows (s.allocateReceiver []).2 where
  items_isPrefix id := by
    rw [items_allocateReceiver]
    split
    · next h => simp [items_of_size_le (Nat.le_of_eq h.symm)]
    · exact List.prefix_refl _
  clean hs id := by
    rw [items_allocateReceiver]
    split
    · simp
    · exact hs id

theorem items_extend (s : Store) (id : Nat) (more : List Item) (id' : Nat) :
    (s.extend id more).items id' =
      if id = id' ∧ id' < s.receivers.size then s.items id' ++ more else s.items id' := by
  simp only [items, extend, Array.getElem?_modify]
  by_cases h : id = id'
  · by_cases h' : id' < s.receivers.size
    · simp [h, h']
    · simp [h, h']
  · simp [h]

theorem grows_extend {s : Store} {id : Nat} {more : List Item}
    (h : s.Clean → Item.text "" ∉ more) : s.Grows (s.extend id more) where
  items_isPrefix id' := by
    rw [items_extend]
    split
    · exact List.prefix_append _ _
    · exact List.prefix_refl _
  clean hs id' := by
    rw [items_extend]
    split
    · simp [hs id', h hs]
    · exact hs id'

end Store

end TokenTemplate
