import TokenTemplate.Proofs.Run.Inspection

/-!
# Actions that write nothing

An action is quiet if it leaves all receivers as they are, whether it gives a value or fails,
`TokenTemplate.Action.Quiet`. Binding names and making objects is quiet, and so is whatever only inspects
(`TokenTemplate.Action.Inspects.quiet`), such as matching a pattern.
-/

namespace TokenTemplate

namespace Action

variable {α β : Type}

/-- **An action leaves all receivers as they are**, however it ends. -/
def Quiet (x : Action α) : Prop :=
  ∀ s, (x s).store.receivers = s.receivers

section Rules

variable {x : Action α} {f : α → Action β}

/-! ### Single actions -/

theorem quiet_pure (a : α) : (pure a : Action α).Quiet := fun _ => rfl

theorem quiet_look (f : Store → α) : (look f).Quiet := fun _ => rfl

theorem quiet_allocate (o : Object) : (allocate o).Quiet := fun _ => rfl

theorem quiet_setObject (id : Nat) (o : Object) : (setObject id o).Quiet := fun _ => rfl

/-! ### Actions in a row -/

/-- **One quiet action and then another one.** -/
theorem Quiet.followedBy (hx : x.Quiet) {f : Except Fault α → Action β} (hf : ∀ o, (f o).Quiet) :
    (x.followedBy f).Quiet :=
  fun s => (hf _ _).trans (hx s)

theorem Quiet.bind (hx : x.Quiet) (hf : ∀ a, (f a).Quiet) : (x >>= f).Quiet := by
  rw [bind_eq_followedBy]
  refine hx.followedBy fun o => ?_
  cases o with
  | error e => exact fun _ => rfl
  | ok a => exact hf a

theorem Quiet.forM {f : α → Action Unit} (hf : ∀ a, (f a).Quiet) (row : List α) :
    (row.forM f).Quiet := by
  induction row with
  | nil => exact quiet_pure ()
  | cons a row ih =>
    exact (hf a).bind fun _ => ih

/-- **What only inspects** writes nothing. -/
theorem Inspects.quiet (hx : x.Inspects) : x.Quiet := by
  induction hx with
  | pure | fail | look | ofStore | made | allocate => exact fun _ => rfl
  | followedBy _ _ _ ihx ihf => exact ihx.followedBy ihf

end Rules

end Action

open TokenTemplate.Action

/-! ### Names -/

namespace Scope

theorem quiet_bindIn (frame : Nat) (n : String) (v : Value) : (bindIn frame n v).Quiet :=
  (quiet_look _).bind fun _ => quiet_setObject _ _

theorem quiet_bindHere (sc : Scope) (n : String) (v : Value) : (sc.bindHere n v).Quiet := by
  unfold bindHere
  split <;> exact quiet_bindIn _ n v

theorem quiet_enter (sc : Scope) (own : List String) (comprehension : Bool) :
    (sc.enter own comprehension).Quiet :=
  (quiet_allocate _).bind fun _ => quiet_pure _

theorem quiet_ofBindings (b : Bindings) : (ofBindings b).Quiet :=
  (quiet_allocate _).bind fun _ => quiet_pure _

end Scope

end TokenTemplate
