import TokenTemplate.Proofs.Routine.Encoder
import TokenTemplate.Proofs.Run.Ending
import TokenTemplate.Template.Render

/-!
# Routines that only write

Running instructions that write given items adds these items to the receiver, and cannot fail
(`TokenTemplate.executeAll_items`). So a template that is compiled to nothing else is rendered as
the layout of its items, in every store (`TokenTemplate.Template.render_items`).
-/

namespace TokenTemplate

/-! ### Actions in a row -/

namespace Action

variable {α β : Type} {x : Action α} {f : α → Action β} {s : Store} {a : α}

theorem outcome_bind (h : (x s).outcome = .ok a) :
    ((x >>= f) s).outcome = (f a (x s).store).outcome := by
  rw [bind_eq_followedBy, outcome_followedBy, h]

theorem store_bind (h : (x s).outcome = .ok a) :
    ((x >>= f) s).store = (f a (x s).store).store := by
  rw [bind_eq_followedBy, store_followedBy, h]

end Action

/-! ### Writing items -/

/-- **What an action has written** to a receiver, if it did not fail. -/
structure Action.Writes {α : Type} (x : Action α) (a : α) (target : Nat) (items : List Item) :
    Prop where
  /-- It gives the value. -/
  outcome_eq : ∀ s : Store, (x s).outcome = .ok a
  /-- The receiver has got the items. -/
  items_eq : ∀ s : Store, target < s.receivers.size →
    (x s).store.items target = s.items target ++ items
  /-- The receiver is still there. -/
  size_eq : ∀ s : Store, (x s).store.receivers.size = s.receivers.size

section Writes

variable {α β : Type} {x : Action α} {f : α → Action β} {a : α} {b : β} {target : Nat}
  {items items' : List Item}

theorem Action.Writes.bind (h : x.Writes a target items) (hf : (f a).Writes b target items') :
    (x >>= f).Writes b target (items ++ items') := by
  refine ⟨fun s => ?_, fun s hs => ?_, fun s => ?_⟩
  · rw [outcome_bind (h.outcome_eq s), hf.outcome_eq]
  · rw [store_bind (h.outcome_eq s), hf.items_eq _ (by rwa [h.size_eq]), h.items_eq s hs,
      List.append_assoc]
  · rw [store_bind (h.outcome_eq s), hf.size_eq, h.size_eq]

theorem Action.writes_pure (a : α) (target : Nat) : (pure a : Action α).Writes a target [] :=
  ⟨fun _ => rfl, fun _ _ => (List.append_nil _).symm, fun _ => rfl⟩

theorem Store.size_extend (s : Store) (id : Nat) (more : List Item) :
    (s.extend id more).receivers.size = s.receivers.size :=
  Array.size_modify

/-- **An instruction that writes an item** writes it. -/
theorem Instruction.writes_item (ev : Evaluator) (target : Nat) (env : Environment)
    (filename : String) {item : Item} (h : item ≠ .text "") :
    (item.instruction.execute ev target env filename).Writes () target [item] := by
  have hextend (s : Store) (hs : target < s.receivers.size) :
      (s.extend target [item]).items target = s.items target ++ [item] := by
    rw [Store.items_extend, if_pos ⟨rfl, hs⟩]
  cases item with
  | space w => exact ⟨fun _ => rfl, hextend, fun s => s.size_extend target _⟩
  | text t =>
    have ht : t ≠ "" := fun heq => h (congrArg Item.text heq)
    have hwrite (s : Store) : (Action.writeText target t s).outcome = .ok () ∧
        (Action.writeText target t s).store = s.extend target [.text t] := by
      rw [Action.writeText, dif_neg ht]
      exact ⟨rfl, rfl⟩
    refine ⟨fun s => (hwrite s).1, fun s hs => ?_, fun s => ?_⟩
    · rw [← hextend s hs, ← (hwrite s).2]
      rfl
    · rw [← s.size_extend target [.text t], ← (hwrite s).2]
      rfl

/-- **Instructions that write items** write these. -/
theorem executeAll_items (ev : Evaluator) (target : Nat) (env : Environment) (filename : String)
    {items : List Item} (h : .text "" ∉ items) :
    (executeAll ev target env filename (items.map Item.instruction)).Writes () target items := by
  induction items with
  | nil => exact Action.writes_pure () target
  | cons item items ih =>
    rw [List.mem_cons, not_or] at h
    rw [List.map_cons, executeAll]
    exact (Instruction.writes_item ev target env filename (Ne.symm h.1)).bind (ih h.2)

end Writes

namespace Template

variable {b : Bindings} {items : List Item}

/-- Running a template runs its instructions, unless a binding has one of the names of the template. -/
theorem exists_populate_eq (t : Template) (target : Nat) (hb : ∀ p ∈ b, p.1 ∉ ownNames) :
    ∃ ev env filename,
      t.populate target b = executeAll ev target env filename t.routine.instructions := by
  obtain ⟨source, receiver, settings, name, instructions, filename⟩ := t
  -- a routine takes one level of both depths, and these are given by numerals
  have hstandard : Evaluator.standard = .ofDepth (11999 + 1) (984 + 1) := rfl
  have hnames : ¬ (b.any fun p => ownNames.contains p.1) = true := by
    simpa using hb
  refine ⟨.ofDepth 11999 984, [Bindings.set b name (.receiver target)], filename, ?_⟩
  rw [populate, hstandard]
  exact if_neg hnames

/-- **A template whose instructions write some items** leaves a new receiver with these, in every store. -/
theorem tokens_of_writes (t : Template) (hb : ∀ p ∈ b, p.1 ∉ ownNames)
    (h : ∀ ev target env filename,
      (executeAll ev target env filename t.routine.instructions).Writes () target items)
    (s : Store) :
    (t.tokens b s).outcome = .ok s.receivers.size ∧
      (t.tokens b s).store.items s.receivers.size = items := by
  let target := s.receivers.size
  let begun := (s.allocateReceiver []).2
  obtain ⟨ev, env, filename, hpopulate⟩ := t.exists_populate_eq target hb
  have hwrites := h ev target env filename
  rw [← hpopulate] at hwrites
  have hnew : (Action.newReceiver s).outcome = .ok target := rfl
  constructor
  · rw [tokens, Action.outcome_bind hnew, Action.outcome_bind (hwrites.outcome_eq _)]
    rfl
  · have hstore : (t.tokens b s).store = (t.populate target b begun).store := by
      rw [tokens, Action.store_bind hnew, Action.store_bind (hwrites.outcome_eq _)]
      rfl
    have hempty : begun.items target = [] := by rw [Store.items_allocateReceiver, if_pos rfl]
    rw [hstore, hwrites.items_eq begun (by simp [target, begun, Store.allocateReceiver]), hempty,
      List.nil_append]

/-- **A template that only writes** is rendered as the layout of what it writes. -/
theorem render_items (t : Template) (h : .text "" ∉ items)
    (hitems : t.routine.instructions = items.map Item.instruction) (s : Store) :
    (t.render [] s).outcome = .ok (t.settings.format items) := by
  obtain ⟨htokens, hwritten⟩ := t.tokens_of_writes (List.forall_mem_nil _)
    (fun ev target env filename => hitems ▸ executeAll_items ev target env filename h) s
  rw [render, Action.outcome_bind htokens]
  exact congrArg (fun written => Except.ok (t.settings.format written)) hwritten

end Template

end TokenTemplate
