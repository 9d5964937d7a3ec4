import TokenTemplate.Evaluation.Evaluator
import TokenTemplate.Proofs.Routine.Grouped
import TokenTemplate.Proofs.Veil.Names

/-!
# A receiver behind a veil

Of two stores that differ in a single receiver, which holds some items more at its beginning in one of
them (`TokenTemplate.Veil.raise`), a payload cannot tell one from the other unless it gets hold of
that receiver. Here it is said what a payload can get hold of: the values that the veil shows
(`TokenTemplate.Veil.Shows`), as they are in the objects of the store (`TokenTemplate.Veil.Innocent`)
and in the frames of a scope (`TokenTemplate.Veil.Suits`). The receiver itself may be in a frame, but
only under names that the payload does not use, and in objects that are out of its reach.

`TokenTemplate.Veil.Covers` is the invariant. Whatever happens behind the veil, frames keep their
names, and the receiver gets no names that it did not have before: `TokenTemplate.Veil.Precedes`. All
that is shown once is shown from then on.
-/

namespace TokenTemplate

/-- **A veil over a receiver**, which hides some items at its beginning. -/
structure Veil where
  /-- The receiver. -/
  target : Nat
  /-- The items. -/
  lead : List Item
  /-- Objects that nothing in sight leads to. -/
  apart : Nat → Prop

/-- The names of a frame; other objects are none. -/
def Object.names? : Object → Option (List (String × Option Value))
  | .frame names => some names
  | _ => none

namespace Veil

/-- **The store with the hidden items.** -/
def raise (w : Veil) (s : Store) : Store :=
  { s with receivers := s.receivers.modify w.target (w.lead.toArray ++ ·) }

/-! ### What is in sight -/

section Sight

variable (w : Veil) (s : Store)

/-- **A value is in sight**: it is not the receiver, and it does not lead to all names. -/
def Shows : Value → Prop
  | .receiver id => id ≠ w.target
  | .object id => ¬ w.apart id ∧ ∃ o, s.object? id = some o ∧ o.names? = none
  | .function f => f ≠ .locals
  | .single v => v ≠ .standard
  | _ => True

/-- All values of a row are in sight. -/
def ShowsAll (vs : List Value) : Prop :=
  ∀ v ∈ vs, w.Shows s v

/-- A value is in sight, if there is one. -/
def ShowsIf (v : Option Value) : Prop :=
  ∀ a, v = some a → w.Shows s a

/-- Both parts of all entries are in sight. -/
def ShowsEntries (entries : List (Value × Value)) : Prop :=
  ∀ p ∈ entries, w.Shows s p.1 ∧ w.Shows s p.2

/-- All bound values are in sight. -/
def ShowsBound (b : Bindings) : Prop :=
  ∀ p ∈ b, w.Shows s p.2

/-- The value for the receiver. -/
abbrev hidden : Value :=
  .receiver w.target

/-- **A scope suits a payload** that looks up some names: under these the receiver is not to be found. -/
structure Suits (sc : Scope) (free : String → Prop) (own : Option (List String)) : Prop where
  /-- The frame with the bindings of the payload. -/
  globals : ∃ names, s.object? sc.globals = some (.frame names) ∧ ¬ w.apart sc.globals ∧
    ∀ n, free n → (n, some w.hidden) ∉ names
  /-- The frames of the functions around it. -/
  levels : ∀ l ∈ sc.levels, ∃ names, s.object? l.frame = some (.frame names) ∧ ¬ w.apart l.frame ∧
    ∀ n, (n, some w.hidden) ∉ names
  /-- These have their own names. -/
  own : ∀ ns, own = some ns → sc.levels ≠ [] ∧
    ∀ n ∈ ns, ∃ l ∈ sc.levels, n ∈ (Scope.frameNames s l.frame).map Prod.fst

/-- What a comprehension under way still evaluates suits the scope that it has. -/
structure Tended (g : Generation) (free : String → Prop) (own : Option (List String)) : Prop where
  /-- Its scope. -/
  suits : w.Suits s g.scope free own
  /-- The key of an entry. -/
  key : ∀ k, g.form = .dict k → k.KeepsTo free own
  /-- The element. -/
  element : g.element.KeepsTo free own
  /-- The sources, but for the first one. -/
  source : ∀ t e cs, .mk t e cs ∈ g.clauses.tail → e.KeepsTo free own
  /-- The targets. -/
  target : ∀ t e cs, .mk t e cs ∈ g.clauses → t.KeepsTo free own
  /-- The conditions. -/
  condition : ∀ t e cs, .mk t e cs ∈ g.clauses → ∀ c ∈ cs, c.KeepsTo free own

/-- What an iterator has still to give is in sight. -/
def Pending : Iteration → Prop
  | .row _ items => w.ShowsAll s items
  | .forward owner _ => w.Shows s owner
  | .backward owner _ => w.Shows s owner
  | .entries _ dict _ _ => w.Shows s (.object dict)
  | .numbered items _ => w.Shows s (.object items)
  | .parallel items _ => ∀ id ∈ items, w.Shows s (.object id)
  | .calls f stop => w.Shows s f ∧ w.Shows s stop
  | .generation g => (∀ id ∈ g.active, w.Shows s (.object id)) ∧ ∃ free own, w.Tended s g free own

end Sight

end Veil

/-! ### Routines -/

/-- The program of a case looks up no names but those that are free, and its own. -/
def Case.KeepsTo (c : Case) (free : String → Prop) : Prop :=
  ∀ st ∈ c.program.statements, st.KeepsTo free
    (Payload.within none (subjectName :: c.program.own.filter (· != subjectName)))

/-- **The payloads of an instruction**, and the name that it splices in, are free to be looked up, or
their own business. -/
inductive Instruction.KeepsTo (free : String → Prop) : Instruction → Prop
  | append {text : String} : KeepsTo free (.append text)
  | layout {w : Whitespace} : KeepsTo free (.layout w)
  | spliceName {n : String} {span : Span} (h : free n) : KeepsTo free (.spliceName n span)
  | splice {e : Expression} (h : e.tree.KeepsTo free none) : KeepsTo free (.splice e)
  | interpolate {segments : List Segment}
      (h : ∀ e, .site e ∈ segments → e.tree.KeepsTo free none) : KeepsTo free (.interpolate segments)
  | branch {x : Expression} {yes : Routine} {no : Option Routine} (h : x.tree.KeepsTo free none) :
      KeepsTo free (.branch x yes no)
  | iterate {pattern : Case} {source : Expression} {body : Routine} {join : Option Routine}
      (hpattern : pattern.KeepsTo free) (hsource : source.tree.KeepsTo free none) :
      KeepsTo free (.iterate pattern source body join)
  | dispatch {x : Expression} {arms : List (Case × Routine)} (hx : x.tree.KeepsTo free none)
      (hcase : ∀ c r, (c, r) ∈ arms → c.KeepsTo free) : KeepsTo free (.dispatch x arms)
  | rebind {name : Option String} {body : Routine} : KeepsTo free (.rebind name body)
  | unsupported {text : String} : KeepsTo free (.unsupported text)

/-- No payload of a template asks for all names at once. -/
def Template.IsModest (t : Template) : Prop :=
  ∀ i ∈ t.routine.instructions, i.Everywhere (·.KeepsTo fun _ => True)

namespace Veil

/-! ### Objects and stores -/

section Objects

variable (w : Veil) (s : Store)

/-- **Nothing in an object leads to the receiver**, unless it is under a name of a frame. -/
def Innocent : Object → Prop
  | .tuple items => w.ShowsAll s items
  | .list items => w.ShowsAll s items.toList
  | .dict entries => w.ShowsEntries s entries
  | .set table => w.ShowsAll s table.toList
  | .union _ => True
  | .slice low high step => w.Shows s low ∧ w.Shows s high ∧ w.Shows s step
  | .writer _ => True
  | .record fields => w.ShowsBound s fields
  | .template t => t.IsModest
  | .probe returns => w.ShowsIf s returns
  | .method self _ => w.Shows s self
  | .closure parameters body own scope =>
    (∀ p ∈ parameters, w.ShowsIf s p.default) ∧
      ∃ free around, w.Suits s scope free around ∧ body.KeepsTo free (Payload.within around own)
  | .view _ dict => w.Shows s (.object dict)
  | .iterator i => w.Pending s i
  | .frame names => ∀ n v, (n, some v) ∈ names → w.Shows s v ∨ v = w.hidden

/-- **The veil covers the receiver** in a store: what is in sight does not lead to it. -/
structure Covers : Prop where
  /-- There is such a receiver. -/
  target_lt : w.target < s.receivers.size
  /-- What is apart is there already. -/
  apart_lt : ∀ id, w.apart id → id < s.objects.size
  /-- All other objects are innocent. -/
  innocent : ∀ id o, s.object? id = some o → ¬ w.apart id → w.Innocent s o

end Objects

/-- What may become of an object: a frame keeps its names, and the receiver gets no more of them. -/
structure Becomes (w : Veil) (o o' : Object) : Prop where
  /-- A frame. -/
  frame : ∀ names, o = .frame names → ∃ names', o' = .frame names' ∧
    (∀ n, n ∈ names.map Prod.fst → n ∈ names'.map Prod.fst) ∧
    ∀ n, (n, some w.hidden) ∈ names' → (n, some w.hidden) ∈ names
  /-- Any other object. -/
  other : o.names? = none → o'.names? = none

/-- **What may become of a store** behind the veil. -/
def Precedes (w : Veil) (s t : Store) : Prop :=
  ∀ id o, s.object? id = some o → ∃ o', t.object? id = some o' ∧ w.Becomes o o'

/-! ### Later stores -/

section Later

variable {w : Veil} {s t u : Store}

theorem Becomes.refl (w : Veil) (o : Object) : w.Becomes o o :=
  ⟨fun names h => ⟨names, h, fun _ => id, fun _ => id⟩, id⟩

theorem Becomes.trans {o o' o'' : Object} (h : w.Becomes o o') (h' : w.Becomes o' o'') :
    w.Becomes o o'' := by
  refine ⟨fun names heq => ?_, h'.other ∘ h.other⟩
  obtain ⟨names', heq', hkeep, hnew⟩ := h.frame names heq
  obtain ⟨names'', heq'', hkeep', hnew'⟩ := h'.frame names' heq'
  exact ⟨names'', heq'', fun n hn => hkeep' n (hkeep n hn), fun n hn => hnew n (hnew' n hn)⟩

/-- An object that is no frame may become any other one that is none. -/
theorem Becomes.of_names?_eq_none {o o' : Object} (h : o.names? = none) (h' : o'.names? = none) :
    w.Becomes o o' := by
  refine ⟨fun names heq => ?_, fun _ => h'⟩
  subst heq
  exact absurd h (Option.some_ne_none _)

theorem Precedes.refl (w : Veil) (s : Store) : w.Precedes s s :=
  fun _ o h => ⟨o, h, .refl w o⟩

theorem Precedes.trans (h : w.Precedes s t) (h' : w.Precedes t u) : w.Precedes s u := by
  intro id o ho
  obtain ⟨o', ho', hbecomes⟩ := h id o ho
  obtain ⟨o'', ho'', hbecomes'⟩ := h' id o' ho'
  exact ⟨o'', ho'', hbecomes.trans hbecomes'⟩

theorem Precedes.of_objects_eq (h : t.objects = s.objects) : w.Precedes s t := by
  intro id o ho
  refine ⟨o, ?_, .refl w o⟩
  rw [Store.object?, h]
  exact ho

theorem Shows.mono {v : Value} (h : w.Shows s v) (hle : w.Precedes s t) : w.Shows t v := by
  cases v with
  | object id =>
    obtain ⟨hapart, o, ho, hnames⟩ := h
    obtain ⟨o', ho', hbecomes⟩ := hle id o ho
    exact ⟨hapart, o', ho', hbecomes.other hnames⟩
  | _ => exact h

theorem ShowsEntries.mono {entries : List (Value × Value)} (h : w.ShowsEntries s entries)
    (hle : w.Precedes s t) : w.ShowsEntries t entries :=
  fun p hp => ⟨(h p hp).1.mono hle, (h p hp).2.mono hle⟩

theorem ShowsBound.mono {b : Bindings} (h : w.ShowsBound s b) (hle : w.Precedes s t) :
    w.ShowsBound t b :=
  fun p hp => (h p hp).mono hle

theorem ShowsAll.mono {vs : List Value} (h : w.ShowsAll s vs) (hle : w.Precedes s t) :
    w.ShowsAll t vs :=
  fun v hv => (h v hv).mono hle

theorem ShowsIf.mono {v : Option Value} (h : w.ShowsIf s v) (hle : w.Precedes s t) :
    w.ShowsIf t v :=
  fun a ha => (h a ha).mono hle

theorem shows_ids_mono {ids : List Nat} (h : ∀ id ∈ ids, w.Shows s (.object id))
    (hle : w.Precedes s t) : ∀ id ∈ ids, w.Shows t (.object id) :=
  fun id hid => (h id hid).mono hle

theorem Precedes.frameNames (hle : w.Precedes s t) {id : Nat} {n : String}
    (h : n ∈ (Scope.frameNames s id).map Prod.fst) : n ∈ (Scope.frameNames t id).map Prod.fst := by
  rw [Scope.frameNames] at h
  split at h
  · next names ho =>
    obtain ⟨o', ho', hbecomes⟩ := hle id _ ho
    obtain ⟨names', rfl, hkeep, -⟩ := hbecomes.frame names rfl
    rw [Scope.frameNames, ho']
    exact hkeep n h
  · simp at h

theorem Suits.mono {sc : Scope} {free : String → Prop} {own : Option (List String)}
    (h : w.Suits s sc free own) (hle : w.Precedes s t) : w.Suits t sc free own := by
  refine ⟨?_, fun l hl => ?_, fun ns hns => ?_⟩
  · obtain ⟨names, ho, hapart, hfree⟩ := h.globals
    obtain ⟨o', ho', hbecomes⟩ := hle _ _ ho
    obtain ⟨names', rfl, -, hnew⟩ := hbecomes.frame names rfl
    exact ⟨names', ho', hapart, fun n hn hmem => hfree n hn (hnew n hmem)⟩
  · obtain ⟨names, ho, hapart, hlevel⟩ := h.levels l hl
    obtain ⟨o', ho', hbecomes⟩ := hle _ _ ho
    obtain ⟨names', rfl, -, hnew⟩ := hbecomes.frame names rfl
    exact ⟨names', ho', hapart, fun n hmem => hlevel n (hnew n hmem)⟩
  · obtain ⟨hlevels, hown⟩ := h.own ns hns
    refine ⟨hlevels, fun n hn => ?_⟩
    obtain ⟨l, hl, hmem⟩ := hown n hn
    exact ⟨l, hl, hle.frameNames hmem⟩

theorem Tended.mono {g : Generation} {free : String → Prop} {own : Option (List String)}
    (h : w.Tended s g free own) (hle : w.Precedes s t) : w.Tended t g free own :=
  { h with suits := h.suits.mono hle }

theorem Pending.mono {i : Iteration} (h : w.Pending s i) (hle : w.Precedes s t) :
    w.Pending t i := by
  cases i with
  | row => exact ShowsAll.mono h hle
  | parallel => exact shows_ids_mono h hle
  | forward | backward => exact Shows.mono h hle
  | entries _ id | numbered id => exact Shows.mono (v := .object id) h hle
  | calls => exact ⟨h.1.mono hle, h.2.mono hle⟩
  | generation g =>
    obtain ⟨hactive, free, own, htended⟩ := h
    exact ⟨shows_ids_mono hactive hle, free, own, htended.mono hle⟩

theorem Innocent.mono {o : Object} (h : w.Innocent s o) (hle : w.Precedes s t) :
    w.Innocent t o := by
  cases o with
  | tuple | list | set => exact ShowsAll.mono h hle
  | dict => exact ShowsEntries.mono h hle
  | record => exact ShowsBound.mono h hle
  | union | writer | template => exact h
  | slice => exact ⟨h.1.mono hle, h.2.1.mono hle, h.2.2.mono hle⟩
  | probe => exact ShowsIf.mono h hle
  | method => exact Shows.mono h hle
  | view _ id => exact Shows.mono (v := .object id) h hle
  | closure parameters body own scope =>
    obtain ⟨hdefaults, free, around, hsuits, hbody⟩ := h
    exact ⟨fun p hp => (hdefaults p hp).mono hle, free, around, hsuits.mono hle, hbody⟩
  | iterator => exact Pending.mono h hle
  | frame => exact fun n v hmem => (h n v hmem).imp_left fun hv => hv.mono hle

/-- Only objects matter to what is in sight. -/
theorem Covers.of_objects_eq (hs : w.Covers s) (h : t.objects = s.objects)
    (htarget : w.target < t.receivers.size) : w.Covers t := by
  refine ⟨htarget, fun id hid => h ▸ hs.apart_lt id hid, fun id o ho hapart => ?_⟩
  rw [Store.object?, h] at ho
  exact (hs.innocent id o ho hapart).mono (.of_objects_eq h)

theorem shows_withOrigin {v : Value} (h : w.Shows s v) (o : Origin) :
    w.Shows s (v.withOrigin o) := by
  cases v with
  | int n o' =>
    cases o' with
    | literal =>
      simp only [Value.withOrigin]
      split <;> exact trivial
    | made => exact h
  | text t o' =>
    cases o' with
    | literal =>
      simp only [Value.withOrigin]
      split
      · exact trivial
      · split <;> exact trivial
      · exact trivial
    | made => exact h
  | float x o' => cases o' <;> exact trivial
  | range a b c o' => cases o' <;> exact trivial
  | _ => exact h

end Later

/-! ### Raising the veil -/

section Raise

variable {w : Veil} {s : Store}

@[simp] theorem object?_raise (id : Nat) : (w.raise s).object? id = s.object? id := rfl

@[simp] theorem objects_raise : (w.raise s).objects = s.objects := rfl

@[simp] theorem calls_raise : (w.raise s).calls = s.calls := rfl

@[simp] theorem origins_raise : (w.raise s).origins = s.origins := rfl

theorem getElem?_receivers_raise {id : Nat} (h : id ≠ w.target) :
    (w.raise s).receivers[id]? = s.receivers[id]? := by
  rw [raise, Array.getElem?_modify, if_neg (Ne.symm h)]

/-- Other receivers hold what they held. -/
theorem items_raise {id : Nat} (h : id ≠ w.target) : (w.raise s).items id = s.items id := by
  rw [Store.items, getElem?_receivers_raise h, Store.items]

end Raise

end Veil

end TokenTemplate
