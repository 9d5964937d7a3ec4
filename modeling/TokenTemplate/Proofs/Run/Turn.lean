import TokenTemplate.Proofs.Run.Reached

/-!
# Loops, turn by turn

A loop goes through the items of its source. The items that match, each with what it captures, decide
all that the loop does in the turns that go well, `TokenTemplate.Loop.events`: an item is fetched, it
is matched, the join is run for the item before it, and the body is run for the item. A loop that ends
well does this for all items and finds no further one. A loop that fails does it for some items, and
the turn after them stops (`TokenTemplate.Loop.Stops`): no item is fetched, the item does not match or
cannot be matched, or the join or the body fails. So no join is left over before an item that does
not match.

All of this is put together in `TokenTemplate.Loop.execute_iff`. The number of turns has to be
limited somehow; what is shown holds for every limit.
-/

namespace TokenTemplate

/-- An action with a fault after it fails in any case. -/
theorem Action.fails_bind_fail_iff {α β : Type} {x : Action α} {f : α → Fault} {s t : Store}
    {e : Fault} : (x >>= fun a => (fail (f a) : Action β)).Fails s e t ↔
      x.Fails s e t ∨ ∃ a, x.Gives s a t ∧ e = f a := by
  rw [fails_bind_iff]
  refine or_congr_right ⟨?_, ?_⟩
  · rintro ⟨a, u, hx, h⟩
    obtain ⟨rfl, rfl⟩ := fails_fail_iff.1 h
    exact ⟨a, hx, rfl⟩
  · rintro ⟨a, hx, rfl⟩
    exact ⟨a, t, hx, fails_fail_iff.2 ⟨rfl, rfl⟩⟩

namespace Loop

/-! ### Events -/

/-- **What a loop does in a turn.** -/
inductive Event
  /-- Asks for the next item, and gets it, or there is none. -/
  | fetch (item : Option Value)
  /-- Matches an item, which captures something. -/
  | capture (v : Value) (b : Bindings)
  /-- Runs the join in an environment. -/
  | join (r : Routine) (env : Environment)
  /-- Runs the body in an environment. -/
  | body (env : Environment)

/-- The environment in which a body is run, if that is what happens. -/
def Event.body? : Event → Option Environment
  | body env => some env
  | _ => none

/-- The environment in which a join is run, if that is what happens. -/
def Event.join? : Event → Option Environment
  | join _ env => some env
  | _ => none

/-- The join, if there is one and an item was there before. -/
def joinAfter (l : Loop) (previous : Option Environment) : List Event :=
  match l.join, previous with
  | some r, some env => [.join r env]
  | _, _ => []

/-- What happens in a turn that goes well. -/
def turn (l : Loop) (previous : Option Environment) (v : Value) (b : Bindings) : List Event :=
  .fetch (some v) :: .capture v b :: (l.joinAfter previous ++ [.body (l.env.child b)])

/-- What happens for some items after an item, if there was one. -/
def eventsAfter (l : Loop) (previous : Option Environment) : List (Value × Bindings) → List Event
  | [] => []
  | (v, b) :: items => l.turn previous v b ++ l.eventsAfter (some (l.env.child b)) items

/-- **What happens for the items of a loop**, each with what it captures. -/
def events (l : Loop) (items : List (Value × Bindings)) : List Event :=
  l.eventsAfter none items

/-- The environment in which the body was run for the last one of some items. -/
def lastEnv (l : Loop) (items : List (Value × Bindings)) : Option Environment :=
  items.getLast?.map fun item => l.env.child item.2

section Events

variable {l : Loop} {previous : Option Environment} {items : List (Value × Bindings)}

theorem lastEnv_cons (item : Value × Bindings) :
    (l.lastEnv (item :: items)).or previous =
      (l.lastEnv items).or (some (l.env.child item.2)) := by
  rw [lastEnv, lastEnv, List.getLast?_cons]
  cases items.getLast? <;> rfl

/-- What is picked out of the events of a turn, fetching and matching apart. -/
theorem filterMap_turn {α : Type} {f : Event → Option α} (hfetch : ∀ item, f (.fetch item) = none)
    (hcapture : ∀ v b, f (.capture v b) = none) (v : Value) (b : Bindings) :
    (l.turn previous v b).filterMap f =
      (l.joinAfter previous).filterMap f ++ (f (.body (l.env.child b))).toList := by
  rw [turn, List.filterMap_cons_none (hfetch _), List.filterMap_cons_none (hcapture _ _),
    List.filterMap_append]
  cases hbody : f (.body (l.env.child b)) <;> simp [hbody]

/-- **One body for each item**, in its own environment. -/
theorem bodies_eventsAfter :
    (l.eventsAfter previous items).filterMap Event.body? =
      items.map fun item => l.env.child item.2 := by
  induction items generalizing previous with
  | nil => rfl
  | cons item items ih =>
    have hjoin : (l.joinAfter previous).filterMap Event.body? = [] := by
      unfold joinAfter
      split <;> rfl
    rw [eventsAfter, List.filterMap_append, filterMap_turn (fun _ => rfl) (fun _ _ => rfl), hjoin, ih]
    rfl

/-- **One join between two items**, in the environment of the first of them. -/
theorem joins_eventsAfter {r : Routine} (hjoin : l.join = some r) :
    (l.eventsAfter previous items).filterMap Event.join? =
      (previous.toList ++ items.map fun item => l.env.child item.2).dropLast := by
  induction items generalizing previous with
  | nil => cases previous <;> rfl
  | cons item items ih =>
    have hafter : (l.joinAfter previous).filterMap Event.join? = previous.toList := by
      cases previous <;> simp [joinAfter, hjoin, Event.join?]
    rw [eventsAfter, List.filterMap_append, filterMap_turn (fun _ => rfl) (fun _ _ => rfl), hafter,
      ih, List.map_cons, List.dropLast_append_of_ne_nil (List.cons_ne_nil _ _)]
    simp [Event.join?]

/-- A loop without a join runs none. -/
theorem joins_eventsAfter_none (hjoin : l.join = none) :
    (l.eventsAfter previous items).filterMap Event.join? = [] := by
  induction items generalizing previous with
  | nil => rfl
  | cons item items ih =>
    have hafter : l.joinAfter previous = [] := by
      simp [joinAfter, hjoin]
    rw [eventsAfter, List.filterMap_append, filterMap_turn (fun _ => rfl) (fun _ _ => rfl), hafter,
      ih]
    rfl

end Events

section Run

variable (ev : Evaluator) (target : Nat)

/-- **An event happens** and takes a store to a store. -/
def Event.Happens (l : Loop) (it : Nat) : Event → Store → Store → Prop
  | fetch item, s, t => (ev.next it).Gives s item t
  | capture v b, s, t => (l.pattern.captures ev v l.env.flatten l.filename).Gives s (some b) t
  | join r env, s, t => (r.execute ev target env).Gives s () t
  | body env, s, t => (l.body.execute ev target env).Gives s () t

/-- **Events happen one after another**, and nothing else happens. -/
def Happen (l : Loop) (it : Nat) : List Event → Store → Store → Prop
  | [], s, t => t = s
  | x :: xs, s, u => ∃ t, x.Happens ev target l it s t ∧ Happen l it xs t u

/-- **The turn after some items stops** with a fault: there was an item before it, or not. -/
inductive Stops (l : Loop) (it : Nat) (previous : Option Environment) :
    Store → Fault → Store → Prop
  /-- The source itself fails. -/
  | source {s u : Store} {e : Fault} (h : (ev.next it).Fails s e u) : Stops l it previous s e u
  /-- Matching the item fails. -/
  | pattern {v : Value} {s t u : Store} {e : Fault}
      (hbefore : l.Happen ev target it [.fetch (some v)] s t)
      (h : (l.pattern.captures ev v l.env.flatten l.filename).Fails t e u) :
      Stops l it previous s e u
  /-- The item does not match. -/
  | mismatch {v : Value} {s t u w : Store} {e : Fault}
      (hbefore : l.Happen ev target it [.fetch (some v)] s t)
      (hnone : (l.pattern.captures ev v l.env.flatten l.filename).Gives t none u)
      (h : ((Deed.mismatch l.pattern v).run ev target l.env l.filename).Fails u e w) :
      Stops l it previous s e w
  /-- The join fails. -/
  | join {v : Value} {b : Bindings} {r : Routine} {env : Environment} {s t u : Store} {e : Fault}
      (hjoin : l.join = some r) (hprevious : previous = some env)
      (hbefore : l.Happen ev target it [.fetch (some v), .capture v b] s t)
      (h : (r.execute ev target env).Fails t e u) : Stops l it previous s e u
  /-- The body fails. -/
  | body {v : Value} {b : Bindings} {s t u : Store} {e : Fault}
      (hbefore : l.Happen ev target it
        (.fetch (some v) :: .capture v b :: l.joinAfter previous) s t)
      (h : (l.body.execute ev target (l.env.child b)).Fails t e u) : Stops l it previous s e u

/-- Evaluates the source of a loop, and gets an iterator for its items. -/
def start (l : Loop) : Action Nat := do
  let v ← l.source.evaluate ev l.env.flatten l.filename
  Evaluator.loopItems l.source l.filename v

/-- **Executes a loop** with a limit on the number of its turns. -/
def execute (l : Loop) (limit : Nat) : Action Unit := do
  let it ← l.start ev
  l.run ev target it limit none

variable {ev target} {l : Loop} {it fuel : Nat} {previous : Option (Bindings × Environment)}
  {s t u : Store} {e : Fault}

theorem happen_append_iff {xs ys : List Event} :
    l.Happen ev target it (xs ++ ys) s u ↔
      ∃ t, l.Happen ev target it xs s t ∧ l.Happen ev target it ys t u := by
  induction xs generalizing s with
  | nil =>
    constructor
    · exact fun h => ⟨s, rfl, h⟩
    · rintro ⟨t, rfl, h⟩
      exact h
  | cons x xs ih =>
    constructor
    · rintro ⟨w, hx, h⟩
      obtain ⟨t, hxs, hys⟩ := ih.1 h
      exact ⟨t, ⟨w, hx, hxs⟩, hys⟩
    · rintro ⟨t, ⟨w, hx, hxs⟩, hys⟩
      exact ⟨w, hx, ih.2 ⟨t, hxs, hys⟩⟩

theorem happen_singleton_iff {x : Event} :
    l.Happen ev target it [x] s t ↔ x.Happens ev target l it s t := by
  constructor
  · rintro ⟨u, hx, rfl⟩
    exact hx
  · exact fun hx => ⟨t, hx, rfl⟩

/-! ### One turn -/

theorem gives_between_iff :
    (l.between ev target previous).Gives s () t ↔
      l.Happen ev target it (l.joinAfter (previous.map Prod.snd)) s t := by
  cases hjoin : l.join with
  | none =>
    have hafter : l.joinAfter (previous.map Prod.snd) = [] := by
      simp [joinAfter, hjoin]
    have hpure : l.between ev target previous = pure () := by
      cases previous with
      | none => rfl
      | some p => rw [between, hjoin, executeOptional]
    rw [hafter, hpure, Action.gives_pure_iff]
    exact and_iff_right rfl
  | some r =>
    cases previous with
    | none =>
      have hafter : l.joinAfter ((none : Option (Bindings × Environment)).map Prod.snd) = [] := by
        simp [joinAfter, hjoin]
      rw [hafter, between, Action.gives_pure_iff]
      exact and_iff_right rfl
    | some p =>
      have hafter : l.joinAfter ((some p).map Prod.snd) = [.join r p.2] := by
        simp [joinAfter, hjoin]
      rw [hafter, happen_singleton_iff, between, hjoin, executeOptional]
      rfl

/-- **A turn that goes well**, action by action. -/
theorem happen_turn_iff {v : Value} {b : Bindings} :
    l.Happen ev target it (l.turn (previous.map Prod.snd) v b) s u ↔
      ∃ t w x, (ev.next it).Gives s (some v) t ∧
        (ev.loopCaptures l.pattern l.env l.filename v).Gives t b w ∧
        (l.between ev target previous).Gives w () x ∧
        (l.body.execute ev target (l.env.child b)).Gives x () u := by
  constructor
  · rintro ⟨t, hfetch, w, hcapture, h⟩
    obtain ⟨x, hjoin, hbody⟩ := happen_append_iff.1 h
    exact ⟨t, w, x, hfetch, gives_loopCaptures_iff.2 hcapture, gives_between_iff.2 hjoin,
      happen_singleton_iff.1 hbody⟩
  · rintro ⟨t, w, x, hfetch, hcapture, hjoin, hbody⟩
    exact ⟨t, hfetch, w, gives_loopCaptures_iff.1 hcapture,
      happen_append_iff.2 ⟨x, gives_between_iff.1 hjoin, happen_singleton_iff.2 hbody⟩⟩

variable (target) in
theorem fails_loopCaptures_iff {v : Value} :
    (ev.loopCaptures l.pattern l.env l.filename v).Fails s e u ↔
      (l.pattern.captures ev v l.env.flatten l.filename).Fails s e u ∨
        ∃ t, (l.pattern.captures ev v l.env.flatten l.filename).Gives s none t ∧
          ((Deed.mismatch l.pattern v).run ev target l.env l.filename).Fails t e u := by
  have hmismatch : ∀ {t : Store}, ((Deed.mismatch l.pattern v).run ev target l.env l.filename).Fails
      t e u ↔ _ := Action.fails_bind_fail_iff
  rw [Evaluator.loopCaptures, Action.fails_bind_iff]
  refine or_congr_right ⟨?_, ?_⟩
  · rintro ⟨found, t, hfound, h⟩
    cases found with
    | some b => exact absurd h Action.not_fails_pure
    | none => exact ⟨t, hfound, hmismatch.2 (Action.fails_bind_fail_iff.1 h)⟩
  · rintro ⟨t, hnone, h⟩
    exact ⟨none, t, hnone, Action.fails_bind_fail_iff.2 (hmismatch.1 h)⟩

theorem fails_between_iff :
    (l.between ev target previous).Fails s e u ↔ ∃ r env, l.join = some r ∧
      previous.map Prod.snd = some env ∧ (r.execute ev target env).Fails s e u := by
  constructor
  · intro h
    cases hjoin : l.join with
    | none =>
      cases previous with
      | none => exact absurd h Action.not_fails_pure
      | some p =>
        rw [between, hjoin, executeOptional] at h
        exact absurd h Action.not_fails_pure
    | some r =>
      cases previous with
      | none => exact absurd h Action.not_fails_pure
      | some p =>
        rw [between, hjoin, executeOptional] at h
        exact ⟨r, p.2, rfl, rfl, h⟩
  · rintro ⟨r, env, hjoin, hprevious, h⟩
    obtain ⟨p, rfl, rfl⟩ := Option.map_eq_some_iff.1 hprevious
    rw [between, hjoin, executeOptional]
    exact h

/-- **A loop that ends well** finds no item, or goes through a turn and ends well later. -/
theorem gives_run_succ_iff :
    (l.run ev target it (fuel + 1) previous).Gives s () u ↔ (ev.next it).Gives s none u ∨
      ∃ v b t, l.Happen ev target it (l.turn (previous.map Prod.snd) v b) s t ∧
        (l.run ev target it fuel (some (b, l.env.child b))).Gives t () u := by
  rw [run_succ, Action.gives_bind_iff]
  constructor
  · rintro ⟨item, t, hfetch, h⟩
    cases item with
    | none =>
      obtain ⟨-, rfl⟩ := Action.gives_pure_iff.1 h
      exact .inl hfetch
    | some v =>
      obtain ⟨b, w, hcapture, h⟩ := Action.gives_bind_iff.1 h
      obtain ⟨_, x, hjoin, h⟩ := Action.gives_bind_iff.1 h
      obtain ⟨_, y, hbody, h⟩ := Action.gives_bind_iff.1 h
      exact .inr ⟨v, b, y, happen_turn_iff.2 ⟨t, w, x, hfetch, hcapture, hjoin, hbody⟩, h⟩
  · rintro (h | ⟨v, b, y, hturn, h⟩)
    · exact ⟨none, u, h, Action.gives_pure_iff.2 ⟨rfl, rfl⟩⟩
    · obtain ⟨t, w, x, hfetch, hcapture, hjoin, hbody⟩ := happen_turn_iff.1 hturn
      exact ⟨some v, t, hfetch, Action.gives_bind_iff.2 ⟨b, w, hcapture,
        Action.gives_bind_iff.2 ⟨(), x, hjoin, Action.gives_bind_iff.2 ⟨(), y, hbody, h⟩⟩⟩⟩

/-- **A loop that fails** stops in its next turn, or goes through that and fails later. -/
theorem fails_run_succ_iff :
    (l.run ev target it (fuel + 1) previous).Fails s e u ↔
      l.Stops ev target it (previous.map Prod.snd) s e u ∨
        ∃ v b t, l.Happen ev target it (l.turn (previous.map Prod.snd) v b) s t ∧
          (l.run ev target it fuel (some (b, l.env.child b))).Fails t e u := by
  rw [run_succ, Action.fails_bind_iff]
  constructor
  · rintro (h | ⟨item, t, hfetch, h⟩)
    · exact .inl (.source h)
    cases item with
    | none => exact absurd h Action.not_fails_pure
    | some v =>
      have hfetched : l.Happen ev target it [.fetch (some v)] s t := happen_singleton_iff.2 hfetch
      -- there is an item: the first of the three parts of the turn that fails stops the loop
      rcases Action.fails_bind_iff.1 h with h | ⟨b, w, hcapture, h⟩
      · rcases (fails_loopCaptures_iff target).1 h with h | ⟨w, hnone, h⟩
        · exact .inl (.pattern hfetched h)
        · exact .inl (.mismatch hfetched hnone h)
      have hmatched := gives_loopCaptures_iff.1 hcapture
      rcases Action.fails_bind_iff.1 h with h | ⟨_, x, hjoin, h⟩
      · obtain ⟨r, env, hr, hprevious, h⟩ := fails_between_iff.1 h
        exact .inl (.join hr hprevious ⟨t, hfetch, w, hmatched, rfl⟩ h)
      rcases Action.fails_bind_iff.1 h with h | ⟨_, y, hbody, h⟩
      · exact .inl (.body ⟨t, hfetch, w, hmatched, gives_between_iff.1 hjoin⟩ h)
      · exact .inr ⟨v, b, y, happen_turn_iff.2 ⟨t, w, x, hfetch, hcapture, hjoin, hbody⟩, h⟩
  · rintro (h | ⟨v, b, y, hturn, h⟩)
    · cases h with
      | source h => exact .inl h
      | pattern hbefore h =>
        exact .inr ⟨some _, _, happen_singleton_iff.1 hbefore,
          Action.fails_bind_iff.2 (.inl ((fails_loopCaptures_iff target).2 (.inl h)))⟩
      | mismatch hbefore hnone h =>
        exact .inr ⟨some _, _, happen_singleton_iff.1 hbefore,
          Action.fails_bind_iff.2 (.inl ((fails_loopCaptures_iff target).2 (.inr ⟨_, hnone, h⟩)))⟩
      | join hjoin hprevious hbefore h =>
        obtain ⟨t, hfetch, w, hcapture, rfl⟩ := hbefore
        have hfails := fails_between_iff.2 ⟨_, _, hjoin, hprevious, h⟩
        exact .inr ⟨some _, t, hfetch, Action.fails_bind_iff.2 (.inr ⟨_, _,
          gives_loopCaptures_iff.2 hcapture, Action.fails_bind_iff.2 (.inl hfails)⟩)⟩
      | body hbefore h =>
        obtain ⟨t, hfetch, w, hcapture, hjoin⟩ := hbefore
        exact .inr ⟨some _, t, hfetch, Action.fails_bind_iff.2 (.inr ⟨_, w,
          gives_loopCaptures_iff.2 hcapture, Action.fails_bind_iff.2 (.inr ⟨(), _,
            gives_between_iff.2 hjoin, Action.fails_bind_iff.2 (.inl h)⟩)⟩)⟩
    · obtain ⟨t, w, x, hfetch, hcapture, hjoin, hbody⟩ := happen_turn_iff.1 hturn
      exact .inr ⟨some v, t, hfetch, Action.fails_bind_iff.2 (.inr ⟨b, w, hcapture,
        Action.fails_bind_iff.2 (.inr ⟨(), x, hjoin,
          Action.fails_bind_iff.2 (.inr ⟨(), y, hbody, h⟩)⟩)⟩)⟩

/-! ### All turns -/

/-- **The turns of a loop that ends well.** -/
theorem gives_run_iff :
    (l.run ev target it fuel previous).Gives s () u ↔ ∃ items, items.length < fuel ∧
      l.Happen ev target it (l.eventsAfter (previous.map Prod.snd) items ++ [.fetch none]) s u := by
  induction fuel generalizing previous s with
  | zero =>
    refine iff_of_false (fun h => Action.not_gives_fail h) ?_
    rintro ⟨items, hlt, -⟩
    exact Nat.not_lt_zero _ hlt
  | succ fuel ih =>
    rw [gives_run_succ_iff]
    constructor
    · rintro (h | ⟨v, b, t, hturn, h⟩)
      · exact ⟨[], Nat.succ_pos fuel, happen_singleton_iff.2 h⟩
      · obtain ⟨items, hlt, h⟩ := ih.1 h
        refine ⟨(v, b) :: items, Nat.succ_lt_succ hlt, ?_⟩
        rw [eventsAfter, List.append_assoc]
        exact happen_append_iff.2 ⟨t, hturn, h⟩
    · rintro ⟨items, hlt, h⟩
      cases items with
      | nil => exact .inl (happen_singleton_iff.1 h)
      | cons item items =>
        obtain ⟨v, b⟩ := item
        rw [eventsAfter, List.append_assoc] at h
        obtain ⟨t, hturn, h⟩ := happen_append_iff.1 h
        exact .inr ⟨v, b, t, hturn, ih.2 ⟨items, Nat.lt_of_succ_lt_succ hlt, h⟩⟩

/-- **The turns of a loop that fails.** -/
theorem fails_run_iff :
    (l.run ev target it fuel previous).Fails s e u ↔ ∃ items t,
      l.Happen ev target it (l.eventsAfter (previous.map Prod.snd) items) s t ∧
        (items.length < fuel ∧
            l.Stops ev target it ((l.lastEnv items).or (previous.map Prod.snd)) t e u ∨
          items.length = fuel ∧ e = .exhausted ∧ u = t) := by
  induction fuel generalizing previous s with
  | zero =>
    constructor
    · intro h
      obtain ⟨rfl, rfl⟩ := Action.fails_fail_iff.1 h
      exact ⟨[], u, rfl, .inr ⟨rfl, rfl, rfl⟩⟩
    · rintro ⟨items, t, h, ⟨hlt, -⟩ | ⟨hlen, rfl, rfl⟩⟩
      · exact absurd hlt (Nat.not_lt_zero _)
      · obtain rfl := List.length_eq_zero_iff.1 hlen
        obtain rfl : u = s := h
        exact Action.fails_fail_iff.2 ⟨rfl, rfl⟩
  | succ fuel ih =>
    rw [fails_run_succ_iff]
    constructor
    · rintro (h | ⟨v, b, t, hturn, h⟩)
      · exact ⟨[], s, rfl, .inl ⟨Nat.succ_pos fuel, h⟩⟩
      · obtain ⟨items, w, hitems, h⟩ := ih.1 h
        refine ⟨(v, b) :: items, w, happen_append_iff.2 ⟨t, hturn, hitems⟩, ?_⟩
        rw [lastEnv_cons, List.length_cons, Nat.succ_lt_succ_iff, Nat.succ_inj]
        exact h
    · rintro ⟨items, t, hitems, h⟩
      cases items with
      | nil =>
        obtain rfl : t = s := hitems
        rcases h with ⟨-, h⟩ | ⟨hlen, -⟩
        · exact .inl h
        · exact absurd hlen nofun
      | cons item items =>
        obtain ⟨v, b⟩ := item
        rw [lastEnv_cons, List.length_cons, Nat.succ_lt_succ_iff, Nat.succ_inj] at h
        obtain ⟨w, hturn, hitems⟩ := happen_append_iff.1 hitems
        exact .inr ⟨v, b, w, hturn, ih.2 ⟨items, t, hitems, h⟩⟩

/-! ### Loops -/

variable (ev target) in
/-- A loop is executed with the limit that all loops have. -/
theorem run_moment (l : Loop) (s : Store) :
    (l.moment s).run ev target = l.execute ev target loopLimit := by
  rw [Moment.run, moment, Instruction.execute, execute, start, bind_assoc]
  rfl

variable (ev target s) in
/-- **What a loop does, and how it ends.** Once its source has given an iterator, a loop ends well if
its events happen for some items, and no further item is fetched; it fails if they happen for some
items and the turn after them stops, or has no place within the limit. There is one body for each
item, in an environment with what that item captured, and one join between two items, in the
environment of the first of them. -/
theorem execute_iff (l : Loop) :
    (l.moment s).run ev target = l.execute ev target loopLimit ∧
    (∀ limit u, (l.execute ev target limit).Gives s () u ↔
      ∃ it t items, (l.start ev).Gives s it t ∧ items.length < limit ∧
        l.Happen ev target it (l.events items ++ [.fetch none]) t u) ∧
    (∀ limit e u, (l.execute ev target limit).Fails s e u ↔
      (l.start ev).Fails s e u ∨ ∃ it t items w, (l.start ev).Gives s it t ∧
        l.Happen ev target it (l.events items) t w ∧
          (items.length < limit ∧ l.Stops ev target it (l.lastEnv items) w e u ∨
            items.length = limit ∧ e = .exhausted ∧ u = w)) ∧
    ∀ items, (l.events items).filterMap Event.body? = items.map (fun item => l.env.child item.2) ∧
      (l.events items).filterMap Event.join? =
        if l.join.isSome then (items.map fun item => l.env.child item.2).dropLast else [] := by
  refine ⟨run_moment ev target l s, fun limit u => ?_, fun limit e u => ?_, fun items =>
    ⟨bodies_eventsAfter, ?_⟩⟩
  · rw [execute, Action.gives_bind_iff]
    constructor
    · rintro ⟨it, t, hstart, h⟩
      obtain ⟨items, hlt, h⟩ := gives_run_iff.1 h
      exact ⟨it, t, items, hstart, hlt, h⟩
    · rintro ⟨it, t, items, hstart, hlt, h⟩
      exact ⟨it, t, hstart, gives_run_iff.2 ⟨items, hlt, h⟩⟩
  · rw [execute, Action.fails_bind_iff]
    refine or_congr_right ⟨?_, ?_⟩
    · rintro ⟨it, t, hstart, h⟩
      obtain ⟨items, w, hitems, h⟩ := fails_run_iff.1 h
      rw [Option.map_none, Option.or_none] at h
      exact ⟨it, t, items, w, hstart, hitems, h⟩
    · rintro ⟨it, t, items, w, hstart, hitems, h⟩
      refine ⟨it, t, hstart, fails_run_iff.2 ⟨items, w, hitems, ?_⟩⟩
      rwa [Option.map_none, Option.or_none]
  · cases hjoin : l.join with
    | none => exact joins_eventsAfter_none hjoin
    | some r => exact joins_eventsAfter hjoin

end Run

end Loop

end TokenTemplate
