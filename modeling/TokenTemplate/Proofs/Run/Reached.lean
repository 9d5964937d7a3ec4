import TokenTemplate.Proofs.Run.Moment

/-!
# What holds of all that happens in a run

A run obeys a `TokenTemplate.Discipline` if everything that its instructions do obeys it,
`TokenTemplate.Stretch.obeys_of_reached`. There is one rule for each way in which a run is put
together: instructions one after another, segments of a text, turns of a loop, arms of a match. The
bodies that an instruction enters are smaller than the instruction, so the rules are enough.
-/

namespace TokenTemplate

/-! ### Rules -/

namespace Action

variable {α β γ : Type} {d : Discipline} {x : Action α} {s : Store}

/-- Whether the value of an action is used does not matter. -/
theorem obeys_of_discard (h : (discard x).Obeys d s) : x.Obeys d s := by
  constructor
  · intro a t hgives
    exact h.allows (gives_discard_iff.2 ⟨a, hgives⟩)
  · exact fun hfails => h.tolerates (fails_discard_iff.2 hfails)

/-- A fault has no value, so its type does not matter. -/
theorem Obeys.bind_fail {f : α → Fault} (h : (x >>= fun a => (fail (f a) : Action β)).Obeys d s) :
    (x >>= fun a => (fail (f a) : Action γ)).Obeys d s := by
  constructor
  · intro a t hgives
    obtain ⟨b, u, -, hfail⟩ := gives_bind_iff.1 hgives
    exact absurd hfail not_gives_fail
  · intro e t hfails
    have hfails' : (x >>= fun a => (fail (f a) : Action β)).Fails s e t := by
      refine fails_bind_iff.2 ?_
      rcases fails_bind_iff.1 hfails with hx | ⟨b, u, hx, hfail⟩
      · exact .inl hx
      · exact .inr ⟨b, u, hx, fails_fail_iff.2 (fails_fail_iff.1 hfail)⟩
    exact h.tolerates hfails'

/-- **Actions for the elements of a list**, one after another. -/
theorem obeys_mapM {f : α → Action β} {row : List α}
    (h : ∀ before a after bs t, row = before ++ a :: after → (before.mapM f).Gives s bs t →
      (f a).Obeys d t) : (row.mapM f).Obeys d s := by
  induction row generalizing s with
  | nil => exact obeys_pure d [] s
  | cons a rest ih =>
    rw [List.mapM_cons]
    have hhead : (f a).Obeys d s := h [] a rest [] s rfl (gives_pure_iff.2 ⟨rfl, rfl⟩)
    refine hhead.bind fun b t hb => ?_
    refine Obeys.bind (ih fun before a' after bs u hrest hbefore => ?_) fun bs u _ => obeys_pure d _ u
    -- what comes before an element of the rest begins with the head
    refine h (a :: before) a' after (b :: bs) u (by rw [hrest, List.cons_append]) ?_
    rw [List.mapM_cons]
    exact gives_bind_iff.2 ⟨b, t, hb, gives_bind_iff.2 ⟨bs, u, hbefore, gives_pure_iff.2 ⟨rfl, rfl⟩⟩⟩

end Action

section Run

variable {ev : Evaluator} {target : Nat} {d : Discipline}

/-- A routine is run by running its instructions. -/
theorem Routine.run_stretch (r : Routine) (env : Environment) (s : Store) :
    (r.stretch env s).run ev target = r.execute ev target env := by
  cases r
  rw [Routine.execute]
  rfl

/-- The run of a routine begins with its first instruction. -/
theorem Routine.run_start (r : Routine) (b : Bindings) (s : Store) :
    (r.start target b s).run ev target = r.run ev target b :=
  r.run_stretch _ s

theorem Stretch.meets_head (i : Instruction) (rest : List Instruction) (env : Environment)
    (filename : String) (s : Store) :
    Stretch.Meets ev target ⟨i :: rest, env, filename, s⟩ ⟨i, env, filename, s⟩ :=
  have h : (executeAll ev target env filename []).Gives s () s := Action.gives_pure_iff.2 ⟨rfl, rfl⟩
  .mk h

theorem Stretch.Meets.cons {i : Instruction} {rest : List Instruction} {env : Environment}
    {filename : String} {s t : Store} {m : Moment}
    (hi : (i.execute ev target env filename).Gives s () t)
    (h : Stretch.Meets ev target ⟨rest, env, filename, t⟩ m) :
    Stretch.Meets ev target ⟨i :: rest, env, filename, s⟩ m := by
  obtain @⟨before, after, j, env, filename, s', u, hbefore⟩ := h
  have hcons : (executeAll ev target env filename (i :: before)).Gives s () u :=
    Action.gives_bind_iff.2 ⟨(), _, hi, hbefore⟩
  exact .mk hcons

/-- **Instructions**, one after another. -/
theorem Stretch.obeys {st : Stretch}
    (h : ∀ m, st.Meets ev target m → (m.run ev target).Obeys d m.store) :
    (st.run ev target).Obeys d st.store := by
  obtain ⟨row, env, filename, s⟩ := st
  change (executeAll ev target env filename row).Obeys d s
  induction row generalizing s with
  | nil => exact Action.obeys_pure d () s
  | cons i rest ih =>
    rw [executeAll]
    refine Action.Obeys.bind (h ⟨i, env, filename, s⟩ (meets_head ..)) fun _ t hi => ?_
    exact ih t fun m hm => h m (hm.cons hi)

/-- **A segment of a text**: its expression is evaluated, and the text of the value is used. -/
theorem Segment.obeys_text {env : Environment} {filename : String} {segment : Segment} {s : Store}
    (hsite : ∀ x, segment = .site x → (x.evaluate ev env.flatten filename).Obeys d s)
    (hsited : ∀ x v t, segment = .site x → (x.evaluate ev env.flatten filename).Gives s v t →
      v ≠ .none → (Action.ofStore (·.textOf v)).Obeys d t) :
    (segment.text ev env filename).Obeys d s := by
  cases segment with
  | literal text => exact Action.obeys_pure d text s
  | site x =>
    refine (hsite x rfl).bind fun v t hv => ?_
    -- a site without a value has no text, and the store is not asked for one
    by_cases hnone : v = .none
    · subst hnone
      exact Action.obeys_pure d "" t
    · have htext := hsited x v t rfl hv hnone
      cases v <;> first | exact htext | exact absurd rfl hnone

/-- **The arms of a match**, one after another. -/
theorem obeys_executeArms {env : Environment} {filename : String} {v : Value}
    {arms : List (Case × Routine)} {s : Store}
    (hcaptures : ∀ before c body after t, arms = before ++ (c, body) :: after →
      Skips ev env filename v before s t → (c.captures ev v env.flatten filename).Obeys d t)
    (hbody : ∀ before c body after t b u, arms = before ++ (c, body) :: after →
      Skips ev env filename v before s t → (c.captures ev v env.flatten filename).Gives t (some b) u →
      (body.execute ev target (env.child b)).Obeys d u) :
    (executeArms ev target env filename v arms).Obeys d s := by
  induction arms generalizing s with
  | nil => exact Action.obeys_pure d () s
  | cons arm rest ih =>
    obtain ⟨c, body⟩ := arm
    rw [executeArms]
    refine Action.Obeys.bind (hcaptures [] c body rest s rfl .nil) fun found t hfound => ?_
    cases found with
    | some b => exact hbody [] c body rest s b t rfl .nil hfound
    | none =>
      refine ih (fun before c' body' after u hrest hskips => ?_)
        fun before c' body' after u b w hrest hskips => ?_
      · exact hcaptures ((c, body) :: before) c' body' after u (by rw [hrest, List.cons_append])
          (.cons hfound hskips)
      · exact hbody ((c, body) :: before) c' body' after u b w (by rw [hrest, List.cons_append])
          (.cons hfound hskips)

/-! ### Loops -/

namespace Loop

variable (ev target)

/-- Runs the turns of a loop that are left, each with the environment of the one before. -/
def run (l : Loop) (it fuel : Nat) (previous : Option (Bindings × Environment)) : Action Unit :=
  ev.loop (ev.loopTurn l.pattern l.env l.filename (fun inner => l.body.execute ev target inner)
    fun inner => executeOptional ev target l.join inner) it fuel (previous.map Prod.snd)

/-- One turn of a loop, and then those that are left. -/
theorem run_succ (l : Loop) (it fuel : Nat) (previous : Option (Bindings × Environment)) :
    l.run ev target it (fuel + 1) previous = (do
      match ← ev.next it with
      | none => return ()
      | some v =>
        let b ← ev.loopCaptures l.pattern l.env l.filename v
        l.between ev target previous
        l.body.execute ev target (l.env.child b)
        l.run ev target it fuel (some (b, l.env.child b))) := by
  rw [run, Evaluator.loop]
  refine congrArg _ (funext fun item => ?_)
  cases item with
  | none => exact pure_bind _ _
  | some v =>
    cases previous with
    | none => simp [Evaluator.loopTurn, between, run]
    | some p => simp [Evaluator.loopTurn, between, run]

variable {ev target} {l : Loop} {s t : Store} {it fuel : Nat}
  {previous : Option (Bindings × Environment)}

/-- What a loop item captures is captured, or it is complained about. -/
theorem obeys_loopCaptures {v : Value}
    (hcaptures : (l.pattern.captures ev v l.env.flatten l.filename).Obeys d s)
    (hmismatch : ∀ t, (l.pattern.captures ev v l.env.flatten l.filename).Gives s none t →
      ((Deed.mismatch l.pattern v).run ev target l.env l.filename).Obeys d t) :
    (ev.loopCaptures l.pattern l.env l.filename v).Obeys d s := by
  refine Action.Obeys.bind hcaptures fun found t hfound => ?_
  cases found with
  | some b => exact Action.obeys_pure d b t
  | none => exact (hmismatch t hfound).bind_fail

theorem gives_loopCaptures_iff {v : Value} {b : Bindings} :
    (ev.loopCaptures l.pattern l.env l.filename v).Gives s b t ↔
      (l.pattern.captures ev v l.env.flatten l.filename).Gives s (some b) t := by
  constructor
  · intro h
    obtain ⟨found, u, hfound, h⟩ := Action.gives_bind_iff.1 h
    cases found with
    | some c =>
      obtain ⟨rfl, rfl⟩ := Action.gives_pure_iff.1 h
      exact hfound
    | none =>
      obtain ⟨_, _, -, hfail⟩ := Action.gives_bind_iff.1 h
      exact absurd hfail Action.not_gives_fail
  · exact fun h => Action.gives_bind_iff.2 ⟨some b, t, h, Action.gives_pure_iff.2 ⟨rfl, rfl⟩⟩

/-- **The turns of a loop**, one after another. -/
theorem obeys
    (hdoes : ∀ deed u, (l.moment s).Does ev target deed u →
      (deed.run ev target l.env l.filename).Obeys d u)
    (henters : ∀ layer st, (l.moment s).Enters ev target layer st →
      (st.run ev target).Obeys d st.store)
    (h : l.Turns ev target s it fuel previous t) : (l.run ev target it fuel previous).Obeys d t := by
  induction fuel generalizing previous t with
  | zero => exact hdoes _ t (.giveUp h)
  | succ fuel ih =>
    -- one turn; the turns after it are those of a loop that has got one turn further
    rw [run_succ]
    have hnext : (ev.next it).Obeys d t := Action.obeys_of_discard (hdoes _ t (.next h))
    refine hnext.bind fun item u hitem => ?_
    cases item with
    | none => exact Action.obeys_pure d () u
    | some v =>
      have hcaptures : (l.pattern.captures ev v l.env.flatten l.filename).Obeys d u :=
        Action.obeys_of_discard (hdoes _ u (.item h hitem))
      refine (obeys_loopCaptures hcaptures fun w hw => hdoes _ w (.mismatch h hitem hw)).bind
        fun b w hb => ?_
      have hmatched := gives_loopCaptures_iff.1 hb
      have hbetween : (l.between ev target previous).Obeys d w := by
        cases hprevious : previous with
        | none => exact Action.obeys_pure d () w
        | some p =>
          cases hjoin : l.join with
          | none =>
            rw [between, hjoin]
            exact Action.obeys_pure d () w
          | some join =>
            rw [between, hjoin, executeOptional, ← Routine.run_stretch join p.2 w]
            exact henters _ _ (.join hjoin (hprevious ▸ h) hitem hmatched)
      refine hbetween.bind fun _ x hx => ?_
      have hbody : (l.body.execute ev target (l.env.child b)).Obeys d x := by
        rw [← Routine.run_stretch _ _ x]
        exact henters _ _ (.body h hitem hmatched hx)
      exact hbody.bind fun _ y hy => ih (.turn h hitem hmatched hx hy)

end Loop

/-! ### Whole runs -/

/-- **An instruction obeys a discipline** if all that it does itself, and the bodies that it enters,
do. -/
theorem Moment.obeys {m : Moment}
    (hdoes : ∀ deed t, m.Does ev target deed t → (deed.run ev target m.env m.filename).Obeys d t)
    (henters : ∀ layer st, m.Enters ev target layer st → (st.run ev target).Obeys d st.store) :
    (m.run ev target).Obeys d m.store := by
  obtain ⟨i, env, filename, s⟩ := m
  cases i with
  | append text => exact hdoes _ _ .append
  | layout w => exact hdoes _ _ .layout
  | spliceName n span =>
    rw [Moment.run, Instruction.execute]
    cases h : env.get? n with
    | some v => exact hdoes _ _ (.name h)
    | none => exact hdoes _ _ (.unknown h)
  | splice x =>
    rw [Moment.run, Instruction.execute]
    exact (Action.obeys_of_discard (hdoes _ s .splice)).bind fun v t hv => hdoes _ _ (.spliced hv)
  | interpolate segments =>
    rw [Moment.run, Instruction.execute]
    refine (Action.obeys_mapM fun before segment after texts t hsplit hbefore => ?_).bind
      fun texts t htexts => hdoes _ _ (.interpolated htexts)
    subst hsplit
    refine Segment.obeys_text (fun x hx => ?_) fun x v u hx hv hnone => ?_
    · subst hx
      exact Action.obeys_of_discard (hdoes _ t (.site hbefore))
    · subst hx
      exact Action.obeys_of_discard (hdoes _ u (.sited hbefore hv hnone))
  | branch x yes no =>
    rw [Moment.run, Instruction.execute]
    -- one body is entered at most, and which one is decided by the store after the condition
    refine (Action.obeys_of_discard (hdoes _ s .condition)).bind fun v t hv => ?_
    refine Action.Obeys.look_bind ?_
    by_cases htruth : t.truth v = true
    · rw [if_pos htruth, ← Routine.run_stretch yes env t]
      exact henters _ _ (.yes hv htruth)
    · rw [if_neg htruth]
      cases no with
      | none => exact Action.obeys_pure d () t
      | some no =>
        rw [executeOptional, ← Routine.run_stretch no env t]
        exact henters _ _ (.no hv (Bool.eq_false_iff.2 htruth))
  | iterate pattern source body join =>
    let l : Loop := ⟨pattern, source, body, join, env, filename⟩
    rw [Moment.run, Instruction.execute]
    refine (Action.obeys_of_discard (hdoes _ s (.source (l := l)))).bind fun v t hv => ?_
    refine (Action.obeys_of_discard (hdoes _ t (.items (l := l) hv))).bind fun it u hit => ?_
    exact Loop.obeys (l := l) hdoes henters (.start hv hit)
  | dispatch x arms =>
    rw [Moment.run, Instruction.execute]
    refine (Action.obeys_of_discard (hdoes _ s .subject)).bind fun v t hv => ?_
    -- an arm is tried after those before it have been skipped
    refine obeys_executeArms (fun before c body after u hsplit hskips => ?_)
      fun before c body after u b w hsplit hskips hb => ?_
    · subst hsplit
      exact Action.obeys_of_discard (hdoes _ u (.arm hv hskips))
    · subst hsplit
      rw [← Routine.run_stretch body _ w]
      exact henters _ _ (.arm hv hskips hb)
  | rebind name body =>
    have hbody := henters (some (.scope name)) _ .scope
    rw [Routine.run_stretch] at hbody
    cases name with
    | none => exact hbody
    | some n => exact hbody
  | unsupported text => exact hdoes _ _ .unsupported

theorem Stretch.Meets.sizeOf_lt {st : Stretch} {m : Moment} (h : st.Meets ev target m) :
    sizeOf m.instruction < sizeOf st.instructions := by
  obtain ⟨-⟩ := h
  exact List.sizeOf_lt_of_mem (List.mem_append_right _ List.mem_cons_self)

theorem Moment.Enters.sizeOf_lt {m : Moment} {layer : Option Layer} {st : Stretch}
    (h : m.Enters ev target layer st) : sizeOf st.instructions < sizeOf m.instruction := by
  have hroutine : ∀ r : Routine, sizeOf r.instructions < sizeOf r := fun r => by
    cases r
    simp only [Routine.mk.sizeOf_spec]
    omega
  cases h with
  | @yes x yes no =>
    have := hroutine yes
    simp only [Routine.stretch, Instruction.branch.sizeOf_spec]
    omega
  | @no x yes no =>
    have := hroutine no
    simp only [Routine.stretch, Instruction.branch.sizeOf_spec, Option.some.sizeOf_spec]
    omega
  | @join l join _ _ _ _ _ _ _ _ _ _ hjoin =>
    have := hroutine join
    simp only [Routine.stretch, Loop.moment, Instruction.iterate.sizeOf_spec, hjoin,
      Option.some.sizeOf_spec]
    omega
  | @body l =>
    have := hroutine l.body
    simp only [Routine.stretch, Loop.moment, Instruction.iterate.sizeOf_spec]
    omega
  | @arm x before after c body =>
    have := hroutine body
    have hmem : (c, body) ∈ before ++ (c, body) :: after :=
      List.mem_append_right _ List.mem_cons_self
    have := List.sizeOf_lt_of_mem hmem
    simp only [Prod.mk.sizeOf_spec] at this
    simp only [Routine.stretch, Instruction.dispatch.sizeOf_spec]
    omega
  | @scope name body =>
    have := hroutine body
    simp only [Routine.stretch, Instruction.rebind.sizeOf_spec]
    omega

/-- What a body gets to, the run around it gets to. -/
theorem Moment.Reached.of_enters {start st : Stretch} {m m' : Moment} {layer : Option Layer}
    {layers : List Layer} (hmeets : start.Meets ev target m) (henters : m.Enters ev target layer st)
    (h : Reached ev target st layers m') : Reached ev target start (layer.toList ++ layers) m' := by
  induction h with
  | first h =>
    rw [List.append_nil]
    exact .next (.first hmeets) henters h
  | next h henters' hmeets' ih =>
    rw [← List.append_assoc]
    exact .next ih henters' hmeets'

/-- What is reached from a part of a row is reached from the row. -/
theorem Moment.Reached.of_meets {start st : Stretch} {m : Moment} {layers : List Layer}
    (hmeets : ∀ m, st.Meets ev target m → start.Meets ev target m)
    (h : Reached ev target st layers m) : Reached ev target start layers m := by
  induction h with
  | first h => exact .first (hmeets _ h)
  | next _ henters hmeets' ih => exact .next ih henters hmeets'

section Append

variable {is js : List Instruction} {env : Environment} {filename : String} {s t u : Store}
  {m : Moment}

theorem gives_executeAll_append_iff :
    (executeAll ev target env filename (is ++ js)).Gives s () u ↔
      ∃ t, (executeAll ev target env filename is).Gives s () t ∧
        (executeAll ev target env filename js).Gives t () u := by
  induction is generalizing s with
  | nil =>
    constructor
    · exact fun h => ⟨s, Action.gives_pure_iff.2 ⟨rfl, rfl⟩, h⟩
    · rintro ⟨t, hs, h⟩
      obtain ⟨-, rfl⟩ := Action.gives_pure_iff.1 hs
      exact h
  | cons i is ih =>
    rw [List.cons_append, executeAll, executeAll, Action.gives_bind_iff]
    constructor
    · rintro ⟨_, w, hi, h⟩
      obtain ⟨t, his, hjs⟩ := ih.1 h
      exact ⟨t, Action.gives_bind_iff.2 ⟨(), w, hi, his⟩, hjs⟩
    · rintro ⟨t, h, hjs⟩
      obtain ⟨_, w, hi, his⟩ := Action.gives_bind_iff.1 h
      exact ⟨(), w, hi, ih.2 ⟨t, his, hjs⟩⟩

/-- The first part of a row is met with the row. -/
theorem Stretch.Meets.append_right (h : Stretch.Meets ev target ⟨is, env, filename, s⟩ m) :
    Stretch.Meets ev target ⟨is ++ js, env, filename, s⟩ m := by
  obtain ⟨hbefore⟩ := h
  rw [List.append_assoc, List.cons_append]
  exact .mk hbefore

/-- The rest of a row is met with the row, once the first part has been executed. -/
theorem Stretch.Meets.append_left (his : (executeAll ev target env filename is).Gives s () t)
    (h : Stretch.Meets ev target ⟨js, env, filename, t⟩ m) :
    Stretch.Meets ev target ⟨is ++ js, env, filename, s⟩ m := by
  obtain ⟨hbefore⟩ := h
  rw [← List.append_assoc]
  exact .mk (gives_executeAll_append_iff.2 ⟨t, his, hbefore⟩)

end Append

/-- **A run obeys a discipline** if everything that happens in it does. -/
theorem Stretch.obeys_of_reached {start : Stretch}
    (h : ∀ layers m, Moment.Reached ev target start layers m → ∀ deed t, m.Does ev target deed t →
      (deed.run ev target m.env m.filename).Obeys d t) : (start.run ev target).Obeys d start.store := by
  -- the bodies that an instruction enters are smaller than the row that it stands in
  induction hsize : sizeOf start.instructions using Nat.strongRecOn generalizing start with
  | _ n ih =>
    subst hsize
    refine Stretch.obeys fun m hm => Moment.obeys (h [] m (.first hm)) fun layer st hst => ?_
    refine ih _ (Nat.lt_trans hst.sizeOf_lt hm.sizeOf_lt) (fun layers m' hm' => ?_) rfl
    exact h _ m' (.of_enters hm hst hm')

/-! ### Moments that are reached are executed -/

section Executed

variable {e : Fault} {u : Store}

/-- An instruction that fails is the end of its row. -/
theorem Stretch.Meets.fails {st : Stretch} {m : Moment} (h : st.Meets ev target m)
    (hm : (m.run ev target).Fails m.store e u) : (st.run ev target).Fails st.store e u := by
  obtain @⟨before, after, i, env, filename, s, t, hbefore⟩ := h
  change (executeAll ev target env filename (before ++ i :: after)).Fails s e u
  induction before generalizing s with
  | nil =>
    obtain ⟨-, rfl⟩ := Action.gives_pure_iff.1 hbefore
    exact Action.fails_bind_iff.2 (.inl hm)
  | cons j before ih =>
    obtain ⟨_, w, hj, hrest⟩ := Action.gives_bind_iff.1 hbefore
    exact Action.fails_bind_iff.2 (.inr ⟨(), w, hj, ih hrest⟩)

theorem Skips.fails {env : Environment} {filename : String} {v : Value}
    {before after : List (Case × Routine)} {s t : Store} (h : Skips ev env filename v before s t)
    (hafter : (executeArms ev target env filename v after).Fails t e u) :
    (executeArms ev target env filename v (before ++ after)).Fails s e u := by
  induction h with
  | nil => exact hafter
  | cons hcaptures h ih =>
    rw [List.cons_append, executeArms]
    exact Action.fails_bind_iff.2 (.inr ⟨none, _, hcaptures, ih hafter⟩)

/-- A turn that fails is the end of its loop. -/
theorem Loop.Turns.fails {l : Loop} {s t : Store} {it fuel : Nat}
    {previous : Option (Bindings × Environment)} (h : l.Turns ev target s it fuel previous t)
    (hrun : (l.run ev target it fuel previous).Fails t e u) :
    ((l.moment s).run ev target).Fails s e u := by
  induction h with
  | start hsource hitems =>
    rw [Moment.run, Loop.moment, Instruction.execute]
    exact Action.fails_bind_iff.2 (.inr ⟨_, _, hsource,
      Action.fails_bind_iff.2 (.inr ⟨_, _, hitems, hrun⟩)⟩)
  | turn h hnext hcaptures hjoin hbody ih =>
    refine ih ?_
    rw [Loop.run_succ]
    refine Action.fails_bind_iff.2 (.inr ⟨_, _, hnext, ?_⟩)
    refine Action.fails_bind_iff.2 (.inr ⟨_, _, Loop.gives_loopCaptures_iff.2 hcaptures, ?_⟩)
    refine Action.fails_bind_iff.2 (.inr ⟨(), _, hjoin, ?_⟩)
    exact Action.fails_bind_iff.2 (.inr ⟨(), _, hbody, hrun⟩)

/-- A body that fails is the end of the instruction that enters it. -/
theorem Moment.Enters.fails {m : Moment} {layer : Option Layer} {st : Stretch}
    (h : m.Enters ev target layer st) (hst : (st.run ev target).Fails st.store e u) :
    (m.run ev target).Fails m.store e u := by
  cases h with
  | yes h htruth =>
    rw [Routine.run_stretch] at hst
    rw [Moment.run, Instruction.execute]
    refine Action.fails_bind_iff.2 (.inr ⟨_, _, h, ?_⟩)
    refine Action.fails_bind_iff.2 (.inr ⟨_, _, Action.gives_look_iff.2 ⟨rfl, rfl⟩, ?_⟩)
    rw [if_pos htruth]
    exact hst
  | no h htruth =>
    rw [Routine.run_stretch] at hst
    rw [Moment.run, Instruction.execute]
    refine Action.fails_bind_iff.2 (.inr ⟨_, _, h, ?_⟩)
    refine Action.fails_bind_iff.2 (.inr ⟨_, _, Action.gives_look_iff.2 ⟨rfl, rfl⟩, ?_⟩)
    rw [if_neg (by simp [htruth]), executeOptional]
    exact hst
  | join hjoin h hnext hcaptures =>
    rw [Routine.run_stretch] at hst
    refine h.fails ?_
    rw [Loop.run_succ]
    refine Action.fails_bind_iff.2 (.inr ⟨_, _, hnext, ?_⟩)
    refine Action.fails_bind_iff.2 (.inr ⟨_, _, Loop.gives_loopCaptures_iff.2 hcaptures, ?_⟩)
    refine Action.fails_bind_iff.2 (.inl ?_)
    rw [Loop.between, hjoin, executeOptional]
    exact hst
  | body h hnext hcaptures hjoin =>
    rw [Routine.run_stretch] at hst
    refine h.fails ?_
    rw [Loop.run_succ]
    refine Action.fails_bind_iff.2 (.inr ⟨_, _, hnext, ?_⟩)
    refine Action.fails_bind_iff.2 (.inr ⟨_, _, Loop.gives_loopCaptures_iff.2 hcaptures, ?_⟩)
    exact Action.fails_bind_iff.2 (.inr ⟨(), _, hjoin, Action.fails_bind_iff.2 (.inl hst)⟩)
  | arm h hskips hcaptures =>
    rw [Routine.run_stretch] at hst
    rw [Moment.run, Instruction.execute]
    refine Action.fails_bind_iff.2 (.inr ⟨_, _, h, hskips.fails ?_⟩)
    rw [executeArms]
    exact Action.fails_bind_iff.2 (.inr ⟨_, _, hcaptures, hst⟩)
  | @scope name =>
    rw [Routine.run_stretch] at hst
    rw [Moment.run]
    cases name <;> exact hst

/-- **An instruction that is reached is executed**: if it fails, the run fails in the same way. -/
theorem Moment.Reached.fails {start : Stretch} {layers : List Layer} {m : Moment}
    (h : Reached ev target start layers m) (hm : (m.run ev target).Fails m.store e u) :
    (start.run ev target).Fails start.store e u := by
  induction h with
  | first h => exact h.fails hm
  | next h henters hmeets ih => exact ih (henters.fails (hmeets.fails hm))

end Executed

end Run

end TokenTemplate
