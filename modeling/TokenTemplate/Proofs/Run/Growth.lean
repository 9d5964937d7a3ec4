import TokenTemplate.Proofs.Run.Kept

/-!
# Receivers during a run

A receiver never loses an item. This is part of what an action is, so it is so not only for the
instructions of a run but for every store that the run passes through on its way,
`TokenTemplate.Stretch.Passes`: after some of what an instruction does, wherever that is cut in two.
-/

namespace TokenTemplate

theorem Action.Gives.grows {α : Type} {x : Action α} {s t : Store} {a : α} (h : x.Gives s a t) :
    s.Grows t :=
  h.store_eq ▸ (x s).grows

/-- Receivers only grow. -/
def Discipline.growth : Discipline where
  Allows := Store.Grows
  refl := .refl
  trans := .trans
  Tolerates := fun _ => True

/-- Whatever an instruction does, receivers only grow. -/
theorem Discipline.governs_growth (ev : Evaluator) (target : Nat) : growth.Governs ev target :=
  fun _ _ _ _ => ⟨Action.Gives.grows, fun _ => trivial⟩

section Passes

variable (ev : Evaluator) (target : Nat)

/-- **The stores that a run passes through**: what an instruction does is cut in two, and the first
part of it has been done. -/
inductive Stretch.Passes (start : Stretch) : Store → Prop
  /-- After the first part. -/
  | mk {layers : List Layer} {m : Moment} {deed : Deed} {t : Store} {α : Type} {x : Action α}
      {f : α → Action Unit} (hm : Moment.Reached ev target start layers m)
      (hdoes : m.Does ev target deed t) (hcut : deed.run ev target m.env m.filename = x >>= f) :
      Passes start (x t).store

end Passes

/-- **Receivers have only grown in every store that a run passes through.** -/
theorem Stretch.Passes.grows {ev : Evaluator} {target : Nat} {start : Stretch} {t : Store}
    (h : start.Passes ev target t) : start.store.Grows t := by
  have hgoverns := Discipline.governs_growth ev target
  cases h with
  | mk hm hdoes _ =>
    exact Store.Grows.trans (.trans (hgoverns.reached hm) (hgoverns.does hdoes)) (Step.grows _)

end TokenTemplate
