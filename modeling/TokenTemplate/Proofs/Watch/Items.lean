import TokenTemplate.Evaluation.Iteration
import TokenTemplate.Evaluation.Receiver
import TokenTemplate.Evaluation.View
import TokenTemplate.Proofs.Watch.Action

/-!
# Evaluators that are watched

An evaluator leads another one (`TokenTemplate.Watch.Leads`) if whatever the first one does follows what the second
one does, as long as an expression assigns in its scope only what may be assigned. The rules for payloads keep this:
here for going through the items of a value, for operators on views and for writing.
-/

namespace TokenTemplate.Watch

/-- One evaluator is stopped where the other one assigns a name, with so many objects. -/
structure LeadsHere (w : Watch) (ev' ev : Evaluator) : Prop where
  /-- When they evaluate an expression. -/
  eval : ∀ {sc e}, w.Admits sc e → w.Follows (ev'.eval sc e) (ev.eval sc e)
  /-- When they call a value. -/
  call : ∀ f args named, w.Follows (ev'.call f args named) (ev.call f args named)
  /-- When they get the next item. -/
  next : ∀ id, w.Follows (ev'.next id) (ev.next id)
  /-- When they run a template. -/
  populate : ∀ t id b, w.Follows (ev'.populate t id b) (ev.populate t id b)

/-- **One evaluator is stopped where the other one assigns a name**, and does the same otherwise, however many objects
there are. -/
def Leads (w : Watch) (ev' ev : Evaluator) : Prop :=
  ∀ n, (w.upTo n).LeadsHere ev' ev

variable {w : Watch} {ev' ev : Evaluator} {s : Store}

namespace Leads

theorem upTo (hev : w.Leads ev' ev) (n : Nat) : (w.upTo n).Leads ev' ev :=
  hev

theorem eval (hev : w.Leads ev' ev) {sc : Scope} {e : Payload.Expr} (he : w.Admits sc e) :
    w.Follows (ev'.eval sc e) (ev.eval sc e) :=
  (hev w.base).eval he

theorem call (hev : w.Leads ev' ev) (f : Value) (args : List Value) (named : Bindings) :
    w.Follows (ev'.call f args named) (ev.call f args named) :=
  (hev w.base).call f args named

theorem next (hev : w.Leads ev' ev) (id : Nat) : w.Follows (ev'.next id) (ev.next id) :=
  (hev w.base).next id

theorem populate (hev : w.Leads ev' ev) (t : Template) (id : Nat) (b : Bindings) :
    w.Follows (ev'.populate t id b) (ev.populate t id b) :=
  (hev w.base).populate t id b

end Leads

/-! ### Items -/

/-- What gives the items of a value is no comprehension. -/
theorem generation?_of_iteration? {v : Value} {i : Iteration} (h : s.iteration? v = some (.inr i)) :
    (Object.iterator i).generation? = none := by
  have hinr {o : Option (Nat ⊕ Iteration)} {i' : Iteration} (ho : o = some (.inr i'))
      (hi' : (Object.iterator i').generation? = none) (h : o = some (.inr i)) :
      (Object.iterator i).generation? = none := by
    rw [ho] at h
    obtain rfl := Sum.inr.inj (Option.some.inj h)
    exact hi'
  unfold Store.iteration? at h
  split at h
  · exact hinr rfl rfl h
  · exact hinr rfl rfl h
  · exact hinr rfl rfl h
  · split at h
    · exact hinr rfl rfl h
    · exact hinr rfl rfl h
    · exact hinr rfl rfl h
    · exact hinr rfl rfl h
    · exact hinr rfl rfl h
    · exact absurd (Option.some.inj h) (by simp)
    · exact absurd h (by simp)
  · exact absurd h (by simp)

/-- **An iterator for the items of a value.** -/
theorem follows_iterate (v : Value) : w.Follows (Action.iterate v) (Action.iterate v) := by
  unfold Action.iterate
  refine .look_bind fun s hs => ?_
  split
  · exact Follows.pure _ s hs
  · next h => exact Follows.allocate_of_none (generation?_of_iteration? h) s hs
  · exact Follows.failWith _ s hs

/-- **A loop** follows another one if each turn does. -/
theorem follows_loop (hev : w.Leads ev' ev) {σ α : Type} {step' step : σ → Option Value → Action (σ ⊕ α)}
    (hstep : ∀ x item, w.Follows (step' x item) (step x item)) (id fuel : Nat) (x : σ) :
    w.Follows (ev'.loop step' id fuel x) (ev.loop step id fuel x) := by
  induction fuel generalizing x with
  | zero => exact .fail _
  | succ fuel ih =>
    rw [Evaluator.loop, Evaluator.loop]
    refine (hev.next id).bind fun item => (hstep x item).bind fun r => ?_
    cases r with
    | inl y => exact ih y
    | inr a => exact .pure a

theorem follows_collect (hev : w.Leads ev' ev) (id : Nat) : w.Follows (ev'.collect id) (ev.collect id) := by
  refine follows_loop hev (fun row item => ?_) id _ _
  split <;> exact .pure _

theorem follows_needRoom (v : Value) : w.Follows (Evaluator.needRoom v) (Evaluator.needRoom v) := by
  unfold Evaluator.needRoom
  refine (Follows.look _).bind fun n => ?_
  dsimp only
  split
  · exact .failWith _
  · split
    · exact .failWith _
    · exact .pure _

theorem follows_itemsOf (hev : w.Leads ev' ev) (v : Value) : w.Follows (ev'.itemsOf v) (ev.itemsOf v) :=
  (follows_needRoom v).bind fun _ => (follows_iterate v).bind fun id => follows_collect hev id

theorem follows_addAll (hev : w.Leads ev' ev) (table : SlotTable Value) (v : Value) :
    w.Follows (ev'.addAll table v) (ev.addAll table v) := by
  unfold Evaluator.addAll
  refine (Follows.look _).bind fun o => ?_
  split
  · exact .ofStore _
  · exact .ofStore _
  · refine (follows_iterate v).bind fun id => follows_loop hev (fun table item => ?_) id _ _
    split
    · exact .pure _
    · exact (Follows.ofStore _).bind fun _ => .pure _

theorem follows_untilDone {α : Type} {step' step : Action (Option α)} (hstep : w.Follows step' step) (fuel : Nat) :
    w.Follows (Evaluator.untilDone step' fuel) (Evaluator.untilDone step fuel) := by
  induction fuel with
  | zero => exact .fail _
  | succ fuel ih =>
    rw [Evaluator.untilDone, Evaluator.untilDone]
    refine hstep.bind fun r => ?_
    split
    · exact .pure _
    · exact ih

theorem follows_isAmongNext (hev : w.Leads ev' ev) (v : Value) (id : Nat) :
    w.Follows (ev'.isAmongNext v id) (ev.isAmongNext v id) := by
  refine follows_loop hev (fun _ item => ?_) id _ _
  split
  · refine (Follows.ofStore _).bind fun found => ?_
    split <;> exact .pure _
  · exact .pure _

/-- **Whether a value is in another one.** -/
theorem follows_contains (hev : w.Leads ev' ev) (container v : Value) :
    w.Follows (ev'.contains container v) (ev.contains container v) := by
  have hamong : w.Follows (Action.iterate container >>= fun id => ev'.isAmongNext v id)
      (Action.iterate container >>= fun id => ev.isAmongNext v id) :=
    (follows_iterate container).bind fun id => follows_isAmongNext hev v id
  unfold Evaluator.contains
  refine (Follows.look _).bind fun o => ?_
  split
  · exact (Follows.ofExcept _).bind fun _ => .pure _
  · split
    · exact .pure _
    · exact hamong
  · exact (Follows.ofStore _).bind fun _ => .pure _
  · exact (Follows.ofStore _).bind fun _ => .pure _
  · refine (Follows.look _).bind fun o => ?_
    split
    · refine (Follows.ofStore _).bind fun found => ?_
      split
      · exact .ofStore _
      · exact .pure _
    · exact .pure _
  · exact .ofStore _
  · exact hamong

/-! ### Views -/

theorem follows_setOfOperand (hev : w.Leads ev' ev) (v : Value) :
    w.Follows (ev'.setOfOperand v) (ev.setOfOperand v) := by
  unfold Evaluator.setOfOperand
  refine (Follows.look _).bind fun o => ?_
  split <;> exact follows_addAll hev _ _

theorem follows_itemsIn (hev : w.Leads ev' ev) (items container : Value) :
    w.Follows (ev'.itemsIn items container) (ev.itemsIn items container) := by
  refine (follows_iterate items).bind fun id => follows_loop hev (fun table item => ?_) id _ _
  split
  · exact .pure _
  · refine (follows_contains hev _ _).bind fun found => ?_
    split
    · exact (Follows.ofStore _).bind fun _ => .pure _
    · exact .pure _

theorem follows_commonWithView (hev : w.Leads ev' ev) (view other : Value) :
    w.Follows (ev'.commonWithView view other) (ev.commonWithView view other) := by
  unfold Evaluator.commonWithView
  refine (Follows.look _).bind fun size => (Follows.look _).bind fun otherSize => ?_
  refine (Follows.look _).bind fun o => (Follows.look _).bind fun isView => ?_
  -- whether the other value is a set, and then what is compared
  split <;> split <;> exact follows_itemsIn hev _ _

theorem follows_itemsOfOne (hev : w.Leads ev' ev) (v v' : Value) :
    w.Follows (ev'.itemsOfOne v v') (ev.itemsOfOne v v') := by
  unfold Evaluator.itemsOfOne
  refine (Follows.look _).bind fun o => (Follows.look _).bind fun o' => ?_
  split
  · refine (follows_itemsOf hev v').bind fun others => ?_
    refine (Follows.filterM fun a _ => (follows_contains hev v a).map _).bind fun others => ?_
    refine (follows_itemsOf hev v).bind fun own => ?_
    exact (Follows.filterM fun a _ => (follows_contains hev v' a).map _).bind fun own => .ofStore _
  · refine (follows_setOfOperand hev v).bind fun table => ?_
    dsimp only
    split
    · exact (Follows.pure _).bind fun _ => .ofStore _
    · exact (Follows.pure _).bind fun _ => .ofStore _
    · exact ((follows_addAll hev _ v').map _).bind fun _ => .ofStore _

theorem follows_viewOp (hev : w.Leads ev' ev) (op : Payload.BinaryOp) (v v' : Value) :
    w.Follows (ev'.viewOp op v v') (ev.viewOp op v v') := by
  unfold Evaluator.viewOp
  split
  · refine (Follows.look _).bind fun isView => ?_
    split <;> exact follows_commonWithView hev _ _
  · exact (follows_setOfOperand hev v).bind fun table => follows_addAll hev table v'
  · exact (follows_setOfOperand hev v).bind fun table => (follows_itemsOf hev v').bind fun others => .ofStore _
  · exact follows_itemsOfOne hev v v'
  · exact .failWith _

end TokenTemplate.Watch
