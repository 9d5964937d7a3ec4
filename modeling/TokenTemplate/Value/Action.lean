import TokenTemplate.Value.Compare

/-!
# Actions

What payloads and routines do to a store. A `TokenTemplate.Action` takes a store to another one, in which
receivers have only grown, and gives a value or a fault; after a fault the store is what it was when the
fault arose. That receivers only grow is part of the type, so it holds of every run, at every moment
and whatever its outcome.

Receivers are written to by three actions only: `TokenTemplate.Action.writeSpace`,
`TokenTemplate.Action.writeText`, which drops empty texts, and `TokenTemplate.Action.copy`.
-/

namespace TokenTemplate

/-- The end of an action that began in a store. -/
structure Step (α : Type) (s : Store) where
  /-- The value, or the fault. -/
  outcome : Except Fault α
  /-- The store in which the action ended. -/
  store : Store
  /-- Receivers have only grown. -/
  grows : s.Grows store

/-- **An action on stores.** -/
def Action (α : Type) : Type :=
  (s : Store) → Step α s

namespace Action

variable {α β : Type}

/-- Gives a value and does nothing. -/
@[inline] protected def pure (a : α) : Action α :=
  fun s => ⟨.ok a, s, .refl s⟩

/-- One action, and then another one with its value. -/
@[inline] protected def bind (x : Action α) (f : α → Action β) : Action β :=
  fun s =>
    match x s with
    | ⟨.ok a, t, h⟩ =>
      let r := f a t
      ⟨r.outcome, r.store, h.trans r.grows⟩
    | ⟨.error e, t, h⟩ => ⟨.error e, t, h⟩

instance : Monad Action where
  pure := Action.pure
  bind := Action.bind

instance : Inhabited (Action α) :=
  ⟨fun s => ⟨.error .exhausted, s, .refl s⟩⟩

/-- Fails. -/
def fail (e : Fault) : Action α :=
  fun s => ⟨.error e, s, .refl s⟩

/-- Fails with an error of some kind. -/
def failWith (k : ErrorKind) : Action α :=
  fail (.ofKind k)

/-- Does something else if an action fails, in the store that it leaves. -/
@[inline] def recover (x : Action α) (f : Fault → Action α) : Action α :=
  fun s =>
    match x s with
    | ⟨.ok a, t, h⟩ => ⟨.ok a, t, h⟩
    | ⟨.error e, t, h⟩ =>
      let r := f e t
      ⟨r.outcome, r.store, h.trans r.grows⟩

/-- Fails in another way than an action does. -/
def reword (x : Action α) (f : Fault → Fault) : Action α :=
  x.recover fun e => fail (f e)

/-! ### Objects -/

/-- What can be seen in the store. -/
def look (f : Store → α) : Action α :=
  fun s => ⟨.ok (f s), s, .refl s⟩

/-- What can be seen in the store, if it can be seen. -/
def ofStore (f : Store → Except Fault α) : Action α :=
  fun s => ⟨f s, s, .refl s⟩

/-- A computation that does not look at the store. -/
def ofExcept (x : Except Fault α) : Action α :=
  ofStore fun _ => x

/-- A new object. -/
def allocate (o : Object) : Action Nat :=
  fun s => ⟨.ok (s.allocate o).1, (s.allocate o).2, Store.grows_of_receivers_eq rfl⟩

/-- A value that has just been made. -/
def made (v : Value) : Action Value :=
  fun s => ⟨.ok (s.made v).1, (s.made v).2, Store.grows_of_receivers_eq rfl⟩

/-- A new whole number. -/
def int (n : Int) : Action Value :=
  made (.ofInt n)

/-- A new floating-point number. -/
def real (x : Float) : Action Value :=
  made (.ofReal x)

/-- A new text. -/
def text (t : String) : Action Value :=
  made (.ofText t)

/-- A new object as a value. -/
def new (o : Object) : Action Value := do
  return .object (← allocate o)

/-- Changes an object. -/
def setObject (id : Nat) (o : Object) : Action Unit :=
  fun s => ⟨.ok (), { s with objects := s.objects.setIfInBounds id o },
    Store.grows_of_receivers_eq rfl⟩

/-- Keeps the arguments of a call. -/
def keepCall (arguments : List Value) : Action Unit :=
  fun s => ⟨.ok (), { s with calls := s.calls ++ [arguments] }, Store.grows_of_receivers_eq rfl⟩

/-! ### Receivers -/

/-- A new receiver, which is empty. -/
def newReceiver : Action Nat :=
  fun s => ⟨.ok (s.allocateReceiver []).1, (s.allocateReceiver []).2, s.grows_allocateReceiver⟩

/-- Writes a mark for white space. -/
def writeSpace (id : Nat) (w : Whitespace) : Action Unit :=
  fun s => ⟨.ok (), s.extend id [.space w], Store.grows_extend fun _ => by simp⟩

/-- **Writes a text**, unless it is empty. -/
def writeText (id : Nat) (text : String) : Action Unit :=
  fun s =>
    if h : text = "" then ⟨.ok (), s, .refl s⟩
    else ⟨.ok (), s.extend id [.text text], Store.grows_extend fun _ => by simpa using Ne.symm h⟩

/-- Writes all items of a receiver to a receiver. -/
def copy (id source : Nat) : Action Unit :=
  fun s => ⟨.ok (), s.extend id (s.items source), Store.grows_extend fun hs => hs source⟩

end Action

end TokenTemplate
