import TokenTemplate.Proofs.Watch.Items

/-!
# Operators that are watched

Operators make values, texts, sequences, sets and dictionaries, but never a comprehension: what they make is
`TokenTemplate.Watch.Inert`. So it is watched like any other new object.
-/

namespace TokenTemplate.Watch

/-- **No comprehension is made.** -/
def Inert (x : Except Fault Made) : Prop :=
  ∀ o, x = .ok (.object o) → o.generation? = none

section Inert

variable {α : Type} {s : Store}

theorem inert_error (e : Fault) : Inert (.error e) :=
  fun _ h => absurd h (by simp)

theorem inert_value (v : Value) : Inert (.ok (.value v)) :=
  fun _ h => absurd h (by simp)

theorem inert_texts (parts : List (List Char)) : Inert (.ok (.texts parts)) :=
  fun _ h => absurd h (by simp)

theorem inert_object {o : Object} (ho : o.generation? = none) : Inert (.ok (.object o)) := by
  intro o' h
  obtain rfl := Made.object.inj (Except.ok.inj h)
  exact ho

theorem Inert.bind {x : Except Fault α} {f : α → Except Fault Made} (h : ∀ a, Inert (f a)) : Inert (x >>= f) := by
  cases x with
  | error e => exact inert_error e
  | ok a => exact h a

/-! ### Two values -/

theorem inert_repeatSequence (v : Value) (n : Int) : Inert (repeatSequence s v n) := by
  unfold repeatSequence
  split
  · refine Inert.bind fun row => ?_
    split <;> exact inert_value _
  · split
    · exact Inert.bind fun row => inert_object rfl
    · refine Inert.bind fun row => ?_
      split
      · exact inert_value _
      · exact inert_object rfl
    · exact inert_error _

theorem inert_setOp (op : Payload.BinaryOp) (t u : SlotTable Value) : Inert (setOp s op t u) := by
  unfold setOp
  extract_lets finish
  have hfinish : ∀ table, Inert (finish table) := fun table => inert_object rfl
  split <;> exact Inert.bind hfinish

theorem inert_uniteKinds (v v' : Value) : Inert (uniteKinds s v v') := by
  unfold uniteKinds
  split
  · split
    · exact inert_error _
    · split
      · exact inert_value _
      · exact inert_object rfl
  · exact inert_error _

theorem inert_objectOp (op : Payload.BinaryOp) (v v' : Value) : Inert (objectOp s op v v') := by
  unfold objectOp
  split
  · exact inert_object rfl
  · split
    · exact inert_value _
    · split
      · exact inert_value _
      · exact inert_object rfl
  · exact Inert.bind fun d => inert_object rfl
  · exact inert_setOp _ _ _
  · exact inert_uniteKinds v v'
  · exact inert_error _

theorem inert_binary (op : Payload.BinaryOp) (v v' : Value) : Inert (s.binary op v v') := by
  unfold Store.binary
  split
  · split
    · split
      · refine Inert.bind fun x => ?_
        split <;> exact inert_value _
      · exact Inert.bind fun x => inert_value _
    · exact Inert.bind fun x => inert_value _
  · split
    · exact Inert.bind fun a => Inert.bind fun b => Inert.bind fun x => inert_value _
    · split
      · exact inert_repeatSequence _ _
      · exact inert_repeatSequence _ _
      · split
        · exact inert_value _
        · exact inert_objectOp _ _ _
      · exact inert_objectOp _ _ _

theorem inert_slice (v low high step : Value) : Inert (s.slice v low high step) := by
  unfold Store.slice
  extract_lets finish
  have hfinish : ∀ a, Inert (finish a) := by
    intro a
    refine Inert.bind fun step => Inert.bind fun low => Inert.bind fun high => ?_
    split
    · exact inert_value _
    · exact inert_value _
    · split
      · exact inert_object rfl
      · dsimp only
        split
        · exact inert_value _
        · exact inert_object rfl
      · exact inert_error _
  split
  · exact Inert.bind hfinish
  · exact hfinish ()

theorem inert_textMethod (m : TextMethod) (self : Value) (args : List Value) : Inert (s.textMethod m self args) := by
  have hkept (cs kept : List Char) : Inert (.ok (keptText self cs kept)) := by
    unfold keptText
    split <;> exact inert_value _
  have hparts (cs : List Char) (parts : List (List Char)) : Inert (.ok (keptParts self cs parts)) := by
    unfold keptParts
    split
    · exact inert_object rfl
    · exact inert_texts _
  unfold Store.textMethod
  refine Inert.bind fun cs => ?_
  split
  · exact inert_value _
  · exact inert_value _
  · exact inert_value _
  · exact inert_value _
  · exact inert_value _
  · exact Inert.bind fun p => hkept _ _
  · exact Inert.bind fun p => hkept _ _
  · exact Inert.bind fun p => hkept _ _
  · extract_lets finish
    have hfinish : ∀ r, Inert (finish r) := by
      intro r
      dsimp only [finish]
      split
      · exact hparts _ _
      · refine Inert.bind fun sep => ?_
        split
        · exact Inert.bind fun _ => hparts _ _
        · exact hparts _ _
    split <;> exact Inert.bind hfinish
  · refine Inert.bind fun old => Inert.bind fun new => ?_
    extract_lets finish
    have hfinish : ∀ limit, Inert (finish limit) := fun limit => hkept _ _
    split <;> exact Inert.bind hfinish
  · exact Inert.bind fun part => Inert.bind fun found => inert_value _
  · exact Inert.bind fun part => Inert.bind fun found => inert_value _
  · refine Inert.bind fun sub => Inert.bind fun part => ?_
    split
    · exact inert_value _
    · split <;> exact inert_value _
  · refine Inert.bind fun sub => Inert.bind fun part => ?_
    split <;> exact inert_value _
  · exact inert_error _

end Inert

/-! ### Actions -/

variable {w : Watch} {ev' ev : Evaluator}

/-- **What an operation on the store makes.** -/
theorem follows_make {f : Store → Except Fault Made} (h : ∀ s, Inert (f s)) :
    w.Follows (Action.make f) (Action.make f) := by
  intro s hs
  refine (Follows.ofStore f s hs).bind fun m t hgives ht => ?_
  obtain ⟨hm, rfl⟩ := Action.gives_ofStore_iff.1 hgives
  exact follows_toAction (fun o ho => h t o (ho ▸ hm)) t ht

theorem follows_binary (hev : w.Leads ev' ev) (op : Payload.BinaryOp) (v v' : Value) :
    w.Follows (ev'.binary op v v') (ev.binary op v v') := by
  unfold Evaluator.binary
  split
  · exact (Follows.ofStore _).bind fun _ => .made _
  · refine (Follows.look _).bind fun hasView => ?_
    split
    · exact (follows_viewOp hev op v v').bind fun table => .new rfl
    · exact follows_make fun s => inert_binary op v v'

end TokenTemplate.Watch
