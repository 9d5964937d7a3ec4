import TokenTemplate.Proofs.Run.Trial

/-!
# Frames that are watched

A scope binds names in two ways: those of its own in its innermost frame, and those that an expression assigns in
`TokenTemplate.Scope.target`, which is further out if the innermost frames belong to comprehensions. A
`TokenTemplate.Watch` says what may happen to two frames while an expression is evaluated: one of them stays as it
is, and in the other one nothing happens but that some names are assigned, one after another
(`TokenTemplate.Watch.Moves`).

Comprehensions evaluate expressions later on, in the scope that they have begun in, so the frames that these assign
names in have to be there all the time: `TokenTemplate.Store.Closed`. This is kept by whatever is watched, even if it
is none of the frames (`TokenTemplate.Watch.nothing`).

Which expressions these assignments are is settled where expressions are made of others: the parts of an expression
that are evaluated in its own scope, `TokenTemplate.Payload.Expr.parts`, may assign what it may assign.
-/

namespace TokenTemplate

/-! ### Assignments of an expression -/

namespace Payload

mutual

/-- The expressions in a target. -/
def Target.exprs : Target → List Expr
  | .name _ => []
  | .attribute e _ => [e]
  | .index e i => [e, i]
  | .parts ts => Target.allExprs ts
  | .starred t => t.exprs

/-- The expressions in some targets. -/
def Target.allExprs : List Target → List Expr
  | [] => []
  | t :: ts => t.exprs ++ Target.allExprs ts

end

/-- The expressions in an entry of a dictionary. -/
def Entry.parts : Entry → List Expr
  | .pair k v => [k, v]
  | .spread e => [e]

/-- The expression of an argument. -/
def Argument.part : Argument → Expr
  | .positional e => e
  | .keyword _ e => e
  | .spread e => e

/-- The default of a parameter. -/
def Parameter.default? : Parameter → Option Expr
  | .mk _ _ d => d

/-- The key that is computed for each element. -/
def Form.key? : Form → Option Expr
  | .dict key => some key
  | _ => none

/-- The expressions in a clause. -/
def Clause.parts : Clause → List Expr
  | .mk target source conditions => target.exprs ++ source :: conditions

/-- What a comprehension evaluates again and again. -/
def comprehensionParts (form : Form) (element : Expr) (clauses : List Clause) : List Expr :=
  form.key?.toList ++ element :: clauses.flatMap Clause.parts

/-- **The parts of an expression** that are evaluated in its scope, or in the scope of a comprehension inside it. The
body of a function is none of them. -/
def Expr.parts : Expr → List Expr
  | .constant _ | .name _ => []
  | .tuple items | .list items | .set items => items
  | .dict entries => entries.flatMap Entry.parts
  | .starred e | .unary _ e | .assign _ e | .attribute e _ => [e]
  | .binary _ l r | .both l r | .either l r | .index l r => [l, r]
  | .compare first rest => first :: rest.map (·.2)
  | .conditional test yes no => [test, yes, no]
  | .slice low high step => low.toList ++ high.toList ++ step.toList
  | .call f arguments => f :: arguments.map Argument.part
  | .lambda parameters _ _ => parameters.filterMap Parameter.default?
  | .comprehension form element clauses _ => comprehensionParts form element clauses

/-- **An expression can assign a name** in its scope. -/
inductive Expr.Assigns (n : String) : Expr → Prop
  /-- It is an assignment of the name. -/
  | assign {e : Expr} : Assigns n (.assign n e)
  /-- A part of it can assign the name. -/
  | part {e e' : Expr} (hmem : e' ∈ e.parts) (h : Assigns n e') : Assigns n e

end Payload

/-! ### Where names are bound -/

namespace Scope

/-- The frame in which an expression assigns names. -/
def target (sc : Scope) : Nat :=
  ((sc.levels.find? (!·.comprehension)).map (·.frame)).getD sc.globals

theorem bindHere_eq (sc : Scope) (n : String) (v : Value) : sc.bindHere n v = bindIn sc.frame n v := by
  rw [bindHere, frame]
  cases sc.levels <;> rfl

theorem assign_eq (sc : Scope) (n : String) (v : Value) : sc.assign n v = bindIn sc.target n v := by
  rw [assign, target]
  cases sc.levels.find? (!·.comprehension) <;> rfl

/-- Names with values for some of them, one after another. -/
def setNames (names : List (String × Option Value)) (b : Bindings) : List (String × Option Value) :=
  b.foldl (fun names q => setName q.1 q.2 names) names

theorem setNames_append (names : List (String × Option Value)) (b c : Bindings) :
    setNames names (b ++ c) = setNames (setNames names b) c :=
  List.foldl_append

end Scope

/-- Whether an object is a frame. -/
def Object.isFrame : Object → Bool
  | .frame _ => true
  | _ => false

/-- What a comprehension evaluates. -/
def Generation.parts (g : Generation) : List Payload.Expr :=
  Payload.comprehensionParts g.form g.element g.clauses

/-- **No comprehension of a store binds names in a frame that is not there.** -/
def Store.Closed (s : Store) : Prop :=
  ∀ id o g, s.object? id = some o → o.generation? = some g →
    g.scope.frame < s.objects.size ∧ g.scope.target < s.objects.size

/-! ### Watching two frames -/

/-- **What may happen to two frames**, or to fewer. -/
structure Watch where
  /-- The frame in which names may be assigned. -/
  own : Option Nat
  /-- The frame that stays as it is. -/
  around : Option Nat
  /-- The names that may be assigned. -/
  Allows : String → Prop
  /-- The name at whose assignment a run can be stopped. -/
  name : String
  /-- How many objects there are at least. -/
  base : Nat

namespace Watch

variable {w : Watch} {s t u : Store} {sc : Scope} {e : Payload.Expr} {b c : Bindings} {n : Nat}

/-- The same with more objects. -/
def upTo (w : Watch) (n : Nat) : Watch :=
  { w with base := n }

/-- A frame is none of the two. -/
def Apart (w : Watch) (id : Nat) : Prop :=
  w.own ≠ some id ∧ w.around ≠ some id

/-- **An expression may be evaluated in a scope**: what it assigns there may be assigned. -/
structure Admits (w : Watch) (sc : Scope) (e : Payload.Expr) : Prop where
  /-- It assigns names in a frame that is there, -/
  target_lt : sc.target < w.base
  /-- and not in the one that stays as it is. -/
  target_ne : w.around ≠ some sc.target
  /-- It assigns only some names in the other one. -/
  allows : w.own = some sc.target → ∀ n, e.Assigns n → w.Allows n

theorem Admits.part {e' : Payload.Expr} (h : w.Admits sc e) (hmem : e' ∈ e.parts) : w.Admits sc e' :=
  ⟨h.target_lt, h.target_ne, fun htarget n hn => h.allows htarget n (.part hmem hn)⟩

theorem Admits.upTo (h : w.Admits sc e) (hle : w.base ≤ n) : (w.upTo n).Admits sc e :=
  ⟨h.target_lt.trans_le hle, h.target_ne, h.allows⟩

/-- A scope that assigns names in another frame admits every expression. -/
theorem admits_of_apart (h : w.Apart sc.target) (hlt : sc.target < w.base) (e : Payload.Expr) : w.Admits sc e :=
  ⟨hlt, h.2, fun htarget => absurd htarget h.1⟩

/-- A comprehension may go on. -/
structure Fits (w : Watch) (g : Generation) : Prop where
  /-- Its own names are in another frame, -/
  frame : w.Apart g.scope.frame
  /-- which is there. -/
  frame_lt : g.scope.frame < w.base
  /-- What it evaluates may be evaluated. -/
  admits : ∀ e ∈ g.parts, w.Admits g.scope e

theorem Fits.upTo {g : Generation} (h : w.Fits g) (hle : w.base ≤ n) : (w.upTo n).Fits g :=
  ⟨h.frame, h.frame_lt.trans_le hle, fun e he => (h.admits e he).upTo hle⟩

/-- **A store that is watched**: both frames are there, and all comprehensions may go on. -/
structure Covers (w : Watch) (s : Store) : Prop where
  /-- The frame in which names may be assigned. -/
  own : ∀ id, w.own = some id → ∃ names, s.object? id = some (.frame names)
  /-- The frame that stays as it is. -/
  around : ∀ id, w.around = some id → ∃ names, s.object? id = some (.frame names)
  /-- The objects. -/
  base_le : w.base ≤ s.objects.size
  /-- The comprehensions. -/
  fits : ∀ id o g, s.object? id = some o → o.generation? = some g → (w.upTo s.objects.size).Fits g

/-- More names may be assigned. -/
theorem Covers.mono {Allows : String → Prop} (h : w.Covers s) (hallows : ∀ n, w.Allows n → Allows n) :
    Covers { w with Allows } s where
  own := h.own
  around := h.around
  base_le := h.base_le
  fits id o g ho hg :=
    have hfits := h.fits id o g ho hg
    { hfits with
      admits := fun e he =>
        { hfits.admits e he with
          allows := fun htarget n hn => hallows n ((hfits.admits e he).allows htarget n hn) } }

theorem Covers.upTo (h : w.Covers s) (hle : n ≤ s.objects.size) : (w.upTo n).Covers s :=
  { h with base_le := hle }

/-- What a comprehension evaluates is evaluated in frames that are there. -/
theorem Covers.closed (h : w.Covers s) : s.Closed := by
  intro id o g ho hg
  have hfits := h.fits id o g ho hg
  have helement : g.element ∈ g.parts := by simp [Generation.parts, Payload.comprehensionParts]
  exact ⟨hfits.frame_lt, (hfits.admits _ helement).target_lt⟩

/-- What is no frame is none of the two. -/
theorem Covers.apart_of_object? (h : w.Covers s) {id : Nat} {o : Object} (ho : s.object? id = some o)
    (hframe : o.isFrame = false) : w.Apart id := by
  have hnot (hnames : ∃ names, s.object? id = some (.frame names)) : False := by
    obtain ⟨names, hnames⟩ := hnames
    obtain rfl := Option.some.inj (ho.symm.trans hnames)
    exact absurd hframe (by simp [Object.isFrame])
  exact ⟨fun hid => hnot (h.own id hid), fun hid => hnot (h.around id hid)⟩

theorem Covers.own_lt (h : w.Covers s) {id : Nat} (hid : w.own = some id) : id < s.objects.size := by
  obtain ⟨names, hnames⟩ := h.own id hid
  exact (Array.getElem?_eq_some_iff.1 hnames).1

theorem Covers.around_lt (h : w.Covers s) {id : Nat} (hid : w.around = some id) : id < s.objects.size := by
  obtain ⟨names, hnames⟩ := h.around id hid
  exact (Array.getElem?_eq_some_iff.1 hnames).1

/-- A new frame is none of the two. -/
theorem Covers.apart_size (h : w.Covers s) : w.Apart s.objects.size :=
  ⟨fun hid => Nat.lt_irrefl _ (h.own_lt hid), fun hid => Nat.lt_irrefl _ (h.around_lt hid)⟩

/-- **What happens from one store to another**: some names are assigned in one of the frames. -/
structure Moves (w : Watch) (b : Bindings) (s t : Store) : Prop where
  /-- The store is watched on. -/
  covers : w.Covers t
  /-- The names. -/
  own : ∀ id, w.own = some id → Scope.frameNames t id = Scope.setNames (Scope.frameNames s id) b
  /-- The frame that stays as it is. -/
  around : ∀ id, w.around = some id → t.object? id = s.object? id
  /-- They may be assigned. -/
  allows : ∀ q ∈ b, w.Allows q.1

theorem Moves.trans (h : w.Moves b s t) (h' : w.Moves c t u) : w.Moves (b ++ c) s u where
  covers := h'.covers
  own id hid := by rw [h'.own id hid, h.own id hid, Scope.setNames_append]
  around id hid := (h'.around id hid).trans (h.around id hid)
  allows q hq := (List.mem_append.1 hq).elim (h.allows q) (h'.allows q)

/-- It does not matter how many objects there have been. -/
theorem Moves.of_upTo (h : (w.upTo n).Moves b s t) (hle : w.base ≤ n) : w.Moves b s t :=
  ⟨⟨h.covers.own, h.covers.around, hle.trans h.covers.base_le, h.covers.fits⟩, h.own, h.around, h.allows⟩

/-- **Nothing happens to the two frames**, and no object is lost. -/
theorem Covers.moves_of_still (h : w.Covers s) (hsize : s.objects.size ≤ t.objects.size)
    (hstill : ∀ id, w.own = some id ∨ w.around = some id → t.object? id = s.object? id)
    (hfits : ∀ id o g, t.object? id = some o → o.generation? = some g → (w.upTo t.objects.size).Fits g) :
    w.Moves [] s t := by
  refine ⟨⟨fun id hid => ?_, fun id hid => ?_, h.base_le.trans hsize, hfits⟩, fun id hid => ?_,
    fun id hid => hstill id (.inr hid), fun q hq => absurd hq List.not_mem_nil⟩
  · rw [hstill id (.inl hid)]
    exact h.own id hid
  · rw [hstill id (.inr hid)]
    exact h.around id hid
  · rw [Scope.frameNames, hstill id (.inl hid)]
    rfl

/-- A store with the same objects. -/
theorem Covers.moves_of_objects_eq (h : w.Covers s) (heq : t.objects = s.objects) : w.Moves [] s t := by
  have hobject : ∀ id, t.object? id = s.object? id := fun id => by rw [Store.object?, heq, Store.object?]
  refine h.moves_of_still (heq ▸ Nat.le_refl _) (fun id _ => hobject id) fun id o g ho hg => ?_
  rw [heq]
  exact h.fits id o g (hobject id ▸ ho) hg

theorem Covers.moves_refl (h : w.Covers s) : w.Moves [] s s :=
  h.moves_of_objects_eq rfl

/-- **A store with one more object.** -/
theorem Covers.moves_allocate (h : w.Covers s) {o : Object} (ho : ∀ g, o.generation? = some g → w.Fits g) :
    w.Moves [] s (s.allocate o).2 := by
  have hsize : s.objects.size ≤ (s.objects.push o).size := by
    rw [Array.size_push]
    exact Nat.le_succ _
  have hold {id : Nat} (hlt : id < s.objects.size) : (s.allocate o).2.object? id = s.object? id := by
    change (s.objects.push o)[id]? = s.objects[id]?
    rw [Array.getElem?_push, if_neg (Nat.ne_of_lt hlt)]
  refine h.moves_of_still hsize (fun id hid => hold (hid.elim h.own_lt h.around_lt)) fun id o' g ho' hg => ?_
  change (s.objects.push o)[id]? = some o' at ho'
  rw [Array.getElem?_push] at ho'
  split at ho'
  · obtain rfl := Option.some.inj ho'
    exact (ho g hg).upTo (h.base_le.trans hsize)
  · exact (h.fits id o' g ho' hg).upTo hsize

/-- A store in which one object has changed. -/
def setStore (s : Store) (id : Nat) (o : Object) : Store :=
  { s with objects := s.objects.setIfInBounds id o }

theorem size_setStore (s : Store) (id : Nat) (o : Object) : (setStore s id o).objects.size = s.objects.size :=
  Array.size_setIfInBounds

theorem Covers.fits_of_setStore (h : w.Covers s) {id : Nat} {o : Object}
    (ho : ∀ g, o.generation? = some g → w.Fits g) (id' : Nat) (o' : Object) (g : Generation)
    (ho' : (setStore s id o).object? id' = some o') (hg : o'.generation? = some g) :
    (w.upTo (setStore s id o).objects.size).Fits g := by
  rw [size_setStore]
  change (s.objects.setIfInBounds id o)[id']? = some o' at ho'
  rw [Array.getElem?_setIfInBounds] at ho'
  split at ho'
  · split at ho'
    · obtain rfl := Option.some.inj ho'
      exact (ho g hg).upTo h.base_le
    · exact absurd ho'.symm (Option.some_ne_none _)
  · exact h.fits id' o' g ho' hg

theorem object?_setStore_ne {id id' : Nat} (hne : id' ≠ id) (o : Object) :
    (setStore s id o).object? id' = s.object? id' :=
  Array.getElem?_setIfInBounds_ne (Ne.symm hne)

/-- **A store in which another object has changed.** -/
theorem Covers.moves_setStore (h : w.Covers s) {id : Nat} {o : Object} (hid : w.Apart id)
    (ho : ∀ g, o.generation? = some g → w.Fits g) : w.Moves [] s (setStore s id o) := by
  refine h.moves_of_still (size_setStore s id o ▸ Nat.le_refl _) (fun id' hid' => ?_) (h.fits_of_setStore ho)
  refine object?_setStore_ne ?_ o
  rintro rfl
  exact hid'.elim hid.1 hid.2

/-- A store in which a name has been assigned is watched on. -/
theorem Covers.assign (h : w.Covers s) {id : Nat} (hid : w.own = some id) (hne : w.around ≠ some id) (n : String)
    (v : Value) : w.Covers (setStore s id (.frame (Scope.setName n v (Scope.frameNames s id)))) := by
  refine ⟨fun id' hid' => ?_, fun id' hid' => ?_, (size_setStore s id _).symm ▸ h.base_le,
    h.fits_of_setStore fun g hg => absurd hg.symm (Option.some_ne_none g)⟩
  · obtain rfl := Option.some.inj (hid.symm.trans hid')
    exact ⟨_, Array.getElem?_setIfInBounds_self_of_lt (h.own_lt hid)⟩
  · have hne' : id' ≠ id := by
      rintro rfl
      exact hne hid'
    rw [object?_setStore_ne hne']
    exact h.around id' hid'

/-- The names of a frame that has been changed. -/
theorem Covers.frameNames_setStore (h : w.Covers s) {id : Nat} (hid : w.own = some id)
    (names : List (String × Option Value)) : Scope.frameNames (setStore s id (.frame names)) id = names := by
  have hown : (setStore s id (.frame names)).object? id = some (.frame names) :=
    Array.getElem?_setIfInBounds_self_of_lt (h.own_lt hid)
  rw [Scope.frameNames, hown]

/-- **A store in which a name has been assigned.** -/
theorem Covers.moves_assign (h : w.Covers s) {id : Nat} (hid : w.own = some id) (hne : w.around ≠ some id)
    {n : String} (hn : w.Allows n) (v : Value) : w.Moves [(n, v)] s
      (setStore s id (.frame (Scope.setName n v (Scope.frameNames s id)))) where
  covers := h.assign hid hne n v
  own id' hid' := by
    obtain rfl := Option.some.inj (hid.symm.trans hid')
    exact h.frameNames_setStore hid _
  around id' hid' := by
    refine object?_setStore_ne ?_ _
    rintro rfl
    exact hne hid'
  allows := List.forall_mem_singleton.2 hn

/-! ### Watching nothing -/

/-- There is no frame that is watched. -/
def nothing : Watch :=
  ⟨none, none, fun _ => False, "", 0⟩

/-- **A store in which nothing is watched** is one that is closed. -/
theorem covers_nothing_iff : nothing.Covers s ↔ s.Closed := by
  refine ⟨Covers.closed, fun h => ⟨fun id hid => ?_, fun id hid => ?_, Nat.zero_le _, fun id o g ho hg => ?_⟩⟩
  · exact absurd hid.symm (Option.some_ne_none id)
  · exact absurd hid.symm (Option.some_ne_none id)
  · obtain ⟨hframe, htarget⟩ := h id o g ho hg
    have hapart (id : Nat) : (nothing.upTo s.objects.size).Apart id :=
      ⟨(Option.some_ne_none id).symm, (Option.some_ne_none id).symm⟩
    exact ⟨hapart _, hframe, fun e _ => admits_of_apart (hapart _) htarget e⟩

end Watch

end TokenTemplate
