import TokenTemplate.Value.Action

/-!
# How actions end

An action gives a value, `TokenTemplate.Action.Gives`, or it fails, `TokenTemplate.Action.Fails`, and
leaves a store in both cases. To go on with its value and to go on after its fault are two ways of doing
what depends on how it has ended, `TokenTemplate.Action.followedBy`, so a rule for that is a rule for both.

What is shown of a run is shown in the same way of all its actions: it says how the store may change as
long as nothing fails, and which faults may arise. This is a `TokenTemplate.Discipline`, and an action in
a row obeys it if every action of the row does (`TokenTemplate.Action.Obeys.bind`).
-/

namespace TokenTemplate

theorem Step.ext {α : Type} {s : Store} {p q : Step α s} (houtcome : p.outcome = q.outcome)
    (hstore : p.store = q.store) : p = q := by
  cases p
  cases q
  cases houtcome
  cases hstore
  rfl

namespace Action

section Ending

variable {α β : Type}

/-- **An action gives a value**, and leaves a store. -/
structure Gives (x : Action α) (s : Store) (a : α) (t : Store) : Prop where
  /-- The value. -/
  outcome_eq : (x s).outcome = .ok a
  /-- The store. -/
  store_eq : (x s).store = t

/-- **An action fails**, and leaves a store. -/
structure Fails (x : Action α) (s : Store) (e : Fault) (t : Store) : Prop where
  /-- The fault. -/
  outcome_eq : (x s).outcome = .error e
  /-- The store. -/
  store_eq : (x s).store = t

variable {x : Action α} {f : α → Action β} {s t u : Store} {a a' : α} {b : β} {e e' : Fault}

/-- Every action ends in one of two ways. -/
theorem gives_or_fails (x : Action α) (s : Store) :
    (∃ a t, x.Gives s a t) ∨ ∃ e t, x.Fails s e t := by
  rcases h : (x s).outcome with e | a
  · exact .inr ⟨e, _, h, rfl⟩
  · exact .inl ⟨a, _, h, rfl⟩

theorem Gives.unique (h : x.Gives s a t) (h' : x.Gives s a' u) : a = a' ∧ t = u :=
  ⟨Except.ok.inj (h.outcome_eq.symm.trans h'.outcome_eq), h.store_eq.symm.trans h'.store_eq⟩

theorem Gives.not_fails (h : x.Gives s a t) : ¬ x.Fails s e u := fun h' =>
  absurd (h.outcome_eq.symm.trans h'.outcome_eq) nofun

/-! ### Single actions -/

theorem gives_pure_iff : (pure a : Action α).Gives s a' t ↔ a' = a ∧ t = s := by
  constructor
  · exact fun h => ⟨(Except.ok.inj h.outcome_eq).symm, h.store_eq.symm⟩
  · rintro ⟨rfl, rfl⟩
    exact ⟨rfl, rfl⟩

theorem not_fails_pure : ¬ (pure a : Action α).Fails s e t := fun h => absurd h.outcome_eq nofun

theorem not_gives_fail : ¬ (fail e : Action α).Gives s a t := fun h => absurd h.outcome_eq nofun

theorem fails_fail_iff : (fail e : Action α).Fails s e' t ↔ e' = e ∧ t = s := by
  constructor
  · exact fun h => ⟨(Except.error.inj h.outcome_eq).symm, h.store_eq.symm⟩
  · rintro ⟨rfl, rfl⟩
    exact ⟨rfl, rfl⟩

theorem gives_ofStore_iff {f : Store → Except Fault α} :
    (ofStore f).Gives s a t ↔ f s = .ok a ∧ t = s := by
  constructor
  · exact fun h => ⟨h.outcome_eq, h.store_eq.symm⟩
  · rintro ⟨h, rfl⟩
    exact ⟨h, rfl⟩

theorem fails_ofStore_iff {f : Store → Except Fault α} :
    (ofStore f).Fails s e t ↔ f s = .error e ∧ t = s := by
  constructor
  · exact fun h => ⟨h.outcome_eq, h.store_eq.symm⟩
  · rintro ⟨h, rfl⟩
    exact ⟨h, rfl⟩

theorem gives_look_iff {f : Store → α} : (look f).Gives s a t ↔ a = f s ∧ t = s := by
  constructor
  · exact fun h => ⟨(Except.ok.inj h.outcome_eq).symm, h.store_eq.symm⟩
  · rintro ⟨rfl, rfl⟩
    exact ⟨rfl, rfl⟩

theorem not_fails_look {f : Store → α} : ¬ (look f).Fails s e t := fun h =>
  absurd h.outcome_eq nofun

/-! ### Actions in a row -/

/-- **An action, and then another one** that depends on how the first one has ended. -/
def followedBy (x : Action α) (f : Except Fault α → Action β) : Action β :=
  fun s =>
    match x s with
    | ⟨o, t, h⟩ => ⟨(f o t).outcome, (f o t).store, h.trans (f o t).grows⟩

theorem outcome_followedBy (x : Action α) (f : Except Fault α → Action β) (s : Store) :
    (x.followedBy f s).outcome = (f (x s).outcome (x s).store).outcome :=
  rfl

theorem store_followedBy (x : Action α) (f : Except Fault α → Action β) (s : Store) :
    (x.followedBy f s).store = (f (x s).outcome (x s).store).store :=
  rfl

theorem bind_eq_followedBy (x : Action α) (f : α → Action β) :
    x >>= f = x.followedBy fun | .ok a => f a | .error e => fail e := by
  funext s
  change Action.bind x f s = _
  rw [Action.bind, followedBy]
  rcases x s with ⟨_ | a, t, h⟩ <;> rfl

theorem recover_eq_followedBy (x : Action α) (f : Fault → Action α) :
    x.recover f = x.followedBy fun | .ok a => pure a | .error e => f e := by
  funext s
  rw [recover, followedBy]
  rcases x s with ⟨_ | a, t, h⟩ <;> rfl

/-- One action and then another one, as a whole. -/
theorem bind_eq (x : Action α) (f : α → Action β) (s : Store) :
    ((∃ a t, x.Gives s a t ∧ ((x >>= f) s).outcome = (f a t).outcome ∧
        ((x >>= f) s).store = (f a t).store)) ∨
      ∃ e t, x.Fails s e t ∧ (x >>= f).Fails s e t := by
  rw [bind_eq_followedBy]
  rcases h : (x s).outcome with e | a
  · exact .inr ⟨e, _, ⟨h, rfl⟩, by rw [outcome_followedBy, h]; rfl, by rw [store_followedBy, h]; rfl⟩
  · exact .inl ⟨a, _, ⟨h, rfl⟩, by rw [outcome_followedBy, h], by rw [store_followedBy, h]⟩

theorem gives_bind_iff :
    (x >>= f).Gives s b u ↔ ∃ a t, x.Gives s a t ∧ (f a).Gives t b u := by
  rcases bind_eq x f s with ⟨a, t, hx, houtcome, hstore⟩ | ⟨e, t, hx, hfails⟩
  · constructor
    · intro h
      exact ⟨a, t, hx, houtcome.symm.trans h.outcome_eq, hstore.symm.trans h.store_eq⟩
    · rintro ⟨a', t', hx', hf⟩
      obtain ⟨rfl, rfl⟩ := hx.unique hx'
      exact ⟨houtcome.trans hf.outcome_eq, hstore.trans hf.store_eq⟩
  · refine iff_of_false (fun h => h.not_fails hfails) ?_
    rintro ⟨a, t', hx', -⟩
    exact hx'.not_fails hx

theorem fails_bind_iff :
    (x >>= f).Fails s e u ↔ x.Fails s e u ∨ ∃ a t, x.Gives s a t ∧ (f a).Fails t e u := by
  rcases bind_eq x f s with ⟨a, t, hx, houtcome, hstore⟩ | ⟨e', t, hx, hfails⟩
  · constructor
    · intro h
      exact .inr ⟨a, t, hx, houtcome.symm.trans h.outcome_eq, hstore.symm.trans h.store_eq⟩
    · rintro (hx' | ⟨a', t', hx', hf⟩)
      · exact absurd hx' hx.not_fails
      · obtain ⟨rfl, rfl⟩ := hx.unique hx'
        exact ⟨houtcome.trans hf.outcome_eq, hstore.trans hf.store_eq⟩
  · constructor
    · intro h
      have he := Except.error.inj (h.outcome_eq.symm.trans hfails.outcome_eq)
      have ht := h.store_eq.symm.trans hfails.store_eq
      subst he ht
      exact .inl hx
    · rintro (hx' | ⟨a, t', hx', -⟩)
      · have he := Except.error.inj (hx.outcome_eq.symm.trans hx'.outcome_eq)
        have ht := hx.store_eq.symm.trans hx'.store_eq
        subst he ht
        exact hfails
      · exact absurd hx hx'.not_fails

/-! ### Values that are not used -/

theorem gives_discard_iff : (discard x).Gives s () t ↔ ∃ a, x.Gives s a t := by
  have heq : discard x = x >>= fun _ => pure () := rfl
  rw [heq, gives_bind_iff]
  constructor
  · rintro ⟨a, u, hx, hpure⟩
    obtain ⟨-, rfl⟩ := gives_pure_iff.1 hpure
    exact ⟨a, hx⟩
  · exact fun ⟨a, hx⟩ => ⟨a, t, hx, gives_pure_iff.2 ⟨rfl, rfl⟩⟩

theorem fails_discard_iff : (discard x).Fails s e t ↔ x.Fails s e t := by
  have heq : discard x = x >>= fun _ => pure () := rfl
  rw [heq, fails_bind_iff]
  exact or_iff_left fun ⟨_, _, _, hpure⟩ => not_fails_pure hpure

/-! ### Other words for a fault -/

theorem reword_eq (x : Action α) (f : Fault → Fault) (s : Store) :
    (x.reword f s).store = (x s).store ∧
      (x.reword f s).outcome = (x s).outcome.mapError f := by
  rw [reword, recover]
  rcases x s with ⟨e | a, t, h⟩ <;> exact ⟨rfl, rfl⟩

theorem gives_reword_iff {f : Fault → Fault} : (x.reword f).Gives s a t ↔ x.Gives s a t := by
  obtain ⟨hstore, houtcome⟩ := reword_eq x f s
  have hok : (x s).outcome.mapError f = .ok a ↔ (x s).outcome = .ok a := by
    cases (x s).outcome with
    | error e => exact iff_of_false (fun h => by cases h) (fun h => by cases h)
    | ok b => exact Iff.rfl
  constructor
  · exact fun h => ⟨hok.1 (houtcome.symm.trans h.outcome_eq), hstore.symm.trans h.store_eq⟩
  · exact fun h => ⟨houtcome.trans (hok.2 h.outcome_eq), hstore.trans h.store_eq⟩

theorem fails_reword_iff {f : Fault → Fault} :
    (x.reword f).Fails s e t ↔ ∃ e', x.Fails s e' t ∧ e = f e' := by
  obtain ⟨hstore, houtcome⟩ := reword_eq x f s
  have herror : (x s).outcome.mapError f = .error e ↔ ∃ e', (x s).outcome = .error e' ∧ e = f e' := by
    cases (x s).outcome with
    | error e' =>
      constructor
      · exact fun h => ⟨e', rfl, (Except.error.inj h).symm⟩
      · rintro ⟨_, h, rfl⟩
        exact congrArg _ (congrArg f (Except.error.inj h))
    | ok b =>
      refine iff_of_false (fun h => by cases h) ?_
      rintro ⟨_, ⟨⟩, -⟩
  constructor
  · intro h
    obtain ⟨e', he', rfl⟩ := herror.1 (houtcome.symm.trans h.outcome_eq)
    exact ⟨e', ⟨he', hstore.symm.trans h.store_eq⟩, rfl⟩
  · rintro ⟨e', h, rfl⟩
    exact ⟨houtcome.trans (herror.2 ⟨e', h.outcome_eq, rfl⟩), hstore.trans h.store_eq⟩

end Ending

end Action

/-! ### Laws of actions -/

/-- Actions that end in the same way from every store are the same. -/
theorem Action.ext_of_ends {α : Type} {x y : Action α}
    (hgives : ∀ s a t, x.Gives s a t → y.Gives s a t)
    (hfails : ∀ s e t, x.Fails s e t → y.Fails s e t) : x = y := by
  funext s
  rcases x.gives_or_fails s with ⟨a, t, h⟩ | ⟨e, t, h⟩
  · have h' := hgives s a t h
    exact Step.ext (h.outcome_eq.trans h'.outcome_eq.symm) (h.store_eq.trans h'.store_eq.symm)
  · have h' := hfails s e t h
    exact Step.ext (h.outcome_eq.trans h'.outcome_eq.symm) (h.store_eq.trans h'.store_eq.symm)

instance : LawfulMonad Action := by
  refine LawfulMonad.mk' Action (fun x => ?_) (fun a f => rfl) fun x f g => ?_
  · refine Action.ext_of_ends (fun s a t h => ?_) fun s e t h => ?_
    · obtain ⟨b, u, hx, hpure⟩ := Action.gives_bind_iff.1 h
      obtain ⟨rfl, rfl⟩ := Action.gives_pure_iff.1 hpure
      exact hx
    · rcases Action.fails_bind_iff.1 h with hx | ⟨b, u, -, hpure⟩
      · exact hx
      · exact absurd hpure Action.not_fails_pure
  · refine Action.ext_of_ends (fun s c w h => ?_) fun s e w h => ?_
    · obtain ⟨b, u, h, hg⟩ := Action.gives_bind_iff.1 h
      obtain ⟨a, t, hx, hf⟩ := Action.gives_bind_iff.1 h
      exact Action.gives_bind_iff.2 ⟨a, t, hx, Action.gives_bind_iff.2 ⟨b, u, hf, hg⟩⟩
    · rcases Action.fails_bind_iff.1 h with h | ⟨b, u, h, hg⟩
      · rcases Action.fails_bind_iff.1 h with hx | ⟨a, t, hx, hf⟩
        · exact Action.fails_bind_iff.2 (.inl hx)
        · exact Action.fails_bind_iff.2 (.inr ⟨a, t, hx, Action.fails_bind_iff.2 (.inl hf)⟩)
      · obtain ⟨a, t, hx, hf⟩ := Action.gives_bind_iff.1 h
        exact Action.fails_bind_iff.2
          (.inr ⟨a, t, hx, Action.fails_bind_iff.2 (.inr ⟨b, u, hf, hg⟩)⟩)

/-! ### Disciplines -/

/-- **What is said of a run**: how a store may change as long as nothing fails, and which faults may
arise. -/
structure Discipline where
  /-- The changes. -/
  Allows : Store → Store → Prop
  /-- Nothing has to change. -/
  refl : ∀ s, Allows s s
  /-- One change may follow another one. -/
  trans : ∀ {s t u}, Allows s t → Allows t u → Allows s u
  /-- The faults. -/
  Tolerates : Fault → Prop

namespace Action

variable {α β : Type} {d : Discipline} {x : Action α} {f : α → Action β} {s : Store}

/-- **An action obeys a discipline** when it begins in a store. -/
structure Obeys (d : Discipline) (x : Action α) (s : Store) : Prop where
  /-- What it changes if it gives a value. -/
  allows : ∀ {a t}, x.Gives s a t → d.Allows s t
  /-- How it fails otherwise. -/
  tolerates : ∀ {e t}, x.Fails s e t → d.Tolerates e

theorem obeys_pure (d : Discipline) (a : α) (s : Store) : (pure a : Action α).Obeys d s := by
  refine ⟨fun h => ?_, fun h => absurd h not_fails_pure⟩
  obtain ⟨-, rfl⟩ := gives_pure_iff.1 h
  exact d.refl _

theorem obeys_look (d : Discipline) (f : Store → α) (s : Store) : (look f).Obeys d s := by
  refine ⟨fun h => ?_, fun h => absurd h not_fails_look⟩
  obtain ⟨-, rfl⟩ := gives_look_iff.1 h
  exact d.refl _

/-- **One action and then another one** obey a discipline if both do. -/
theorem Obeys.bind (hx : x.Obeys d s) (hf : ∀ a t, x.Gives s a t → (f a).Obeys d t) :
    (x >>= f).Obeys d s := by
  constructor
  · intro b u h
    obtain ⟨a, t, hgives, h⟩ := gives_bind_iff.1 h
    exact d.trans (hx.allows hgives) ((hf a t hgives).allows h)
  · intro e u h
    rcases fails_bind_iff.1 h with h | ⟨a, t, hgives, h⟩
    · exact hx.tolerates h
    · exact (hf a t hgives).tolerates h

/-- An action that does nothing to the store before another one. -/
theorem Obeys.look_bind {g : Store → α} (hf : (f (g s)).Obeys d s) : (look g >>= f).Obeys d s := by
  refine (obeys_look d g s).bind fun a t h => ?_
  obtain ⟨rfl, rfl⟩ := gives_look_iff.1 h
  exact hf

end Action

end TokenTemplate
