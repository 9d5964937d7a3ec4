import TokenTemplate.Proofs.Run.Splice
import TokenTemplate.Proofs.Veil.Method
import TokenTemplate.Proofs.Veil.Statement

/-!
# Runs behind a veil

A run mirrors what is hidden if each of its instructions keeps to names that stand for what is in
sight when it is executed: `TokenTemplate.Veil.mirrors_stretch`. Under some layers the receiver has
the names `TokenTemplate.Layer.Names`, and no others. A value that writes itself is handed the
receiver (`TokenTemplate.Moment.HandsTo`); that this mirrors what is hidden too has to be known.
-/

namespace TokenTemplate

/-! ### The names of a receiver -/

/-- What a layer has captured. -/
def Layer.captured : Layer → Bindings
  | .item captured => captured
  | .arm captured => captured
  | .scope _ => []

/-- **The names of a receiver under some layers**: the one that the routine has for it, and those of
the scopes, as far as nothing that was captured further in has them. -/
inductive Layer.Names (receiver : String) : List Layer → String → Prop
  /-- The name of the routine. -/
  | root : Names receiver [] receiver
  /-- The name of a scope. -/
  | scope {layers : List Layer} {n : String} : Names receiver (layers ++ [.scope (some n)]) n
  /-- A name from further out. -/
  | outer {layers : List Layer} {layer : Layer} {n : String} (h : Names receiver layers n)
      (hn : n ∉ layer.captured.map Prod.fst) : Names receiver (layers ++ [layer]) n

namespace Bindings

theorem mem_set {b : Bindings} {m n : String} {v v' : Value} (h : (n, v) ∈ b.set m v') :
    n = m ∧ v = v' ∨ (n, v) ∈ b := by
  induction b with
  | nil => exact .inl (Prod.mk.inj (List.mem_singleton.1 h))
  | cons p b ih =>
    rw [set] at h
    split at h
    · rcases List.mem_cons.1 h with h | h
      · exact .inl (Prod.mk.inj h)
      · exact .inr (List.mem_cons_of_mem _ h)
    · rcases List.mem_cons.1 h with h | h
      · exact .inr (h ▸ List.mem_cons_self)
      · exact (ih h).imp_right (List.mem_cons_of_mem _)

/-- What a row is put on is seen for names only that the row does not bind. -/
theorem of_lookup_update {b c : Bindings} {n : String} {v : Value}
    (h : (b.update c).lookup n = some v) :
    (n, v) ∈ c ∨ n ∉ c.map Prod.fst ∧ b.lookup n = some v := by
  induction c generalizing b with
  | nil => exact .inr ⟨List.not_mem_nil, h⟩
  | cons p c ih =>
    rw [update, List.foldl_cons, ← update] at h
    rcases ih h with h | ⟨hn, h⟩
    · exact .inl (List.mem_cons_of_mem _ h)
    · rw [lookup_set] at h
      split at h
      · next hp => exact .inl (hp ▸ Option.some.inj h ▸ List.mem_cons_self)
      · next hp => exact .inr ⟨fun hmem => (List.mem_cons.1 hmem).elim hp hn, h⟩

end Bindings

namespace Environment

/-- **What the rows of an environment bind a name to**, if no row further in has the name. -/
def Binds : Environment → String → Value → Prop
  | [], _, _ => False
  | b :: outer, n, v => (n, v) ∈ b ∨ n ∉ b.map Prod.fst ∧ Binds outer n v

theorem binds_of_get? {env : Environment} {n : String} {v : Value} (h : env.get? n = some v) :
    env.Binds n v := by
  induction env with
  | nil => exact nomatch h
  | cons b outer ih =>
    rcases Option.or_eq_some_iff.1 h with h | ⟨hn, h⟩
    · exact .inl (mem_of_lookup h)
    · exact .inr ⟨not_mem_of_lookup hn, ih h⟩

theorem binds_of_mem_flatten {env : Environment} {n : String} {v : Value}
    (h : (n, v) ∈ env.flatten) : env.Binds n v := by
  have hlookup : env.flatten.lookup n = some v := (Bindings.lookup_eq_some_iff env.nodup_flatten).2 h
  clear h
  induction env with
  | nil => exact nomatch hlookup
  | cons b outer ih => exact (Bindings.of_lookup_update hlookup).imp_right (And.imp_right ih)

end Environment

section Handed

variable (ev : Evaluator) (target : Nat)

/-- **The receiver is handed to a function**: the one that a value writes itself with. -/
inductive Moment.HandsTo (m : Moment) : Value → Store → Prop
  /-- When the value is written. -/
  | mk {v f : Value} {fields : Bindings} {t : Store} (hdoes : m.Does ev target (.value v) t)
      (ho : t.objectOf? v = some (.record fields)) (hf : fields.lookup "into_tokens" = some f) :
      HandsTo m f t

end Handed

namespace Veil

variable {w : Veil} {s : Store} {v : Value} {ev : Evaluator} {target : Nat} {free : String → Prop}
  {env : Environment} {filename : String}

/-! ### What names stand for -/

/-- **All that names stand for is in sight**, unless they are not free. -/
def ShowsEnv (w : Veil) (s : Store) (env : Environment) (free : String → Prop) : Prop :=
  ∀ n v, env.Binds n v → w.Shows s v ∨ v = w.hidden ∧ ¬ free n

theorem ShowsEnv.mono (h : w.ShowsEnv s env free) {t : Store} (hle : w.Precedes s t) :
    w.ShowsEnv t env free :=
  fun n v hv => (h n v hv).imp_left fun hv => hv.mono hle

theorem ShowsEnv.flatten (h : w.ShowsEnv s env free) : w.ShowsNames s env.flatten free :=
  fun p hp => h p.1 p.2 (Environment.binds_of_mem_flatten hp)

theorem ShowsEnv.shows_get? (h : w.ShowsEnv s env free) {n : String} (hn : free n)
    (hv : env.get? n = some v) : w.Shows s v :=
  (h n v (Environment.binds_of_get? hv)).resolve_right fun h => h.2 hn

/-- **The receiver is bound to its names**, under some layers over the bindings of a run. -/
theorem names_of_binds {receiver : String} {b : Bindings} {layers : List Layer} {n : String}
    (hb : w.ShowsBound s b) (hlayers : ∀ l ∈ layers, w.ShowsBound s l.captured)
    (h : (Layer.rows target layers ++ [b.set receiver (.receiver target)]).Binds n v) :
    w.Shows s v ∨ v = .receiver target ∧ Layer.Names receiver layers n := by
  induction layers using List.reverseRecOn with
  | nil =>
    rcases Bindings.mem_set (h.resolve_right fun h => h.2) with ⟨rfl, rfl⟩ | h
    · exact .inr ⟨rfl, .root⟩
    · exact .inl (hb _ h)
  | append_singleton layers layer ih =>
    have hlayer := hlayers layer (List.mem_append_right _ List.mem_cons_self)
    have hrows : Layer.rows target (layers ++ [layer]) =
        layer.bindings target :: Layer.rows target layers := by
      simp [Layer.rows]
    rw [hrows] at h
    rcases h with h | ⟨hn, h⟩
    · cases layer with
      | item captured => exact .inl (hlayer _ h)
      | arm captured => exact .inl (hlayer _ h)
      | scope name =>
        cases name with
        | none => exact absurd h List.not_mem_nil
        | some m =>
          obtain ⟨rfl, rfl⟩ := Prod.mk.inj (List.mem_singleton.1 h)
          exact .inr ⟨rfl, .scope⟩
    · refine (ih (fun l hl => hlayers l (List.mem_append_left _ hl)) h).imp_right
        fun h => ⟨h.1, .outer h.2 ?_⟩
      cases layer with
      | item | arm => exact hn
      | scope => exact List.not_mem_nil

/-! ### Single instructions -/

theorem Mirrors.gives {α : Type} {x : Action α} {P : Store → α → Prop} (h : w.Mirrors x s P) :
    w.Mirrors x s fun t a => x.Gives s a t ∧ P t a :=
  ⟨h.outcome_eq, h.store_eq, h.covers, h.precedes, fun a ha => ⟨⟨ha, rfl⟩, h.value a ha⟩⟩

theorem mirrors_segment (hev : w.Guards ev) {segment : Segment}
    (h : ∀ e, segment = .site e → e.tree.KeepsTo free none) (hs : w.Covers s)
    (henv : w.ShowsEnv s env free) :
    w.Mirrors (Segment.text ev env filename segment) s fun _ _ => True := by
  cases segment with
  | literal t => exact .pure hs trivial
  | site e =>
    refine (mirrors_evaluate hev (h e rfl) hs henv.flatten filename).bind fun a t ht _ ha => ?_
    split
    · exact .pure ht trivial
    · exact .ofStore ht (.of_eq (textOf_raise ht ha)) fun _ => id

theorem mirrors_loopItems (source : Expression) (hs : w.Covers s) (hv : w.Shows s v) :
    w.Mirrors (Evaluator.loopItems source filename v) s fun t id => w.Shows t (.object id) :=
  (mirrors_iterate hs hv).reword

theorem mirrors_loopCaptures (hev : w.Guards ev) {c : Case} (hc : c.KeepsTo free)
    (hs : w.Covers s) (henv : w.ShowsEnv s env free) (hv : w.Shows s v) :
    w.Mirrors (ev.loopCaptures c env filename v) s w.ShowsBound := by
  rw [Evaluator.loopCaptures]
  refine (mirrors_captures hev hc hs henv.flatten hv filename).bind fun found t ht hle hfound => ?_
  split
  · next b => exact .pure ht (hfound b rfl)
  · exact .ofStore_bind ht (.of_eq (shown_raise ht (hv.mono hle))) fun _ _ => .fail _ ht

/-- **The first arm that a value matches.** -/
theorem mirrors_executeArms (hev : w.Guards ev) {arms : List (Case × Routine)}
    (hcase : ∀ c r, (c, r) ∈ arms → c.KeepsTo free) (hs : w.Covers s)
    (henv : w.ShowsEnv s env free) (hv : w.Shows s v)
    (hbody : ∀ before c body after t b u, arms = before ++ (c, body) :: after →
      Skips ev env filename v before s t → (c.captures ev v env.flatten filename).Gives t (some b) u →
      w.Covers u → w.Precedes s u → w.ShowsBound u b →
      w.Mirrors (body.execute ev target (env.child b)) u fun _ _ => True) :
    w.Mirrors (executeArms ev target env filename v arms) s fun _ _ => True := by
  induction arms generalizing s with
  | nil => exact .pure hs trivial
  | cons arm rest ih =>
    obtain ⟨c, body⟩ := arm
    rw [executeArms]
    refine (mirrors_captures hev (hcase _ _ List.mem_cons_self) hs henv.flatten hv filename).gives.bind
      fun found t ht hle hfound => ?_
    obtain ⟨hgives, hfound⟩ := hfound
    cases found with
    | some b => exact hbody [] c body rest s b t rfl .nil hgives ht hle (hfound b rfl)
    | none =>
      refine ih (fun c r h => hcase c r (List.mem_cons_of_mem _ h)) ht (henv.mono hle) (hv.mono hle)
        fun before c' body' after u b x hrest hskips hcaptures hx hle' hb => ?_
      exact hbody ((c, body) :: before) c' body' after u b x (by rw [hrest, List.cons_append])
        (.cons hgives hskips) hcaptures hx (hle.trans hle') hb

/-- **The turns of a loop**, one after another: what the items capture is in sight. -/
theorem mirrors_turns (hev : w.Guards ev) {l : Loop} {t : Store}
    (hpattern : l.pattern.KeepsTo free) (henv : w.ShowsEnv s l.env free)
    (henters : ∀ layer st, (l.moment s).Enters ev target layer st → w.Covers st.store →
      w.Precedes s st.store → (∀ x ∈ layer, w.ShowsBound st.store x.captured) →
      w.Mirrors (st.run ev target) st.store fun _ _ => True)
    {it fuel : Nat} {previous : Option (Bindings × Environment)}
    (h : l.Turns ev target s it fuel previous t) (ht : w.Covers t) (hle : w.Precedes s t)
    (hit : w.Shows t (.object it)) (hprevious : ∀ p ∈ previous, w.ShowsBound t p.1) :
    w.Mirrors (l.run ev target it fuel previous) t fun _ _ => True := by
  induction fuel generalizing previous t with
  | zero => exact .fail _ ht
  | succ fuel ih =>
    rw [Loop.run_succ]
    refine (hev.next ht hit).gives.bind fun item u hu hle' hitem => ?_
    obtain ⟨hnext, hitem⟩ := hitem
    cases item with
    | none => exact .pure hu trivial
    | some v =>
      refine (mirrors_loopCaptures hev hpattern hu (henv.mono (hle.trans hle'))
        (hitem v rfl)).gives.bind fun b x hx hle'' hb => ?_
      obtain ⟨hmatched, hb⟩ := hb
      rw [Loop.gives_loopCaptures_iff] at hmatched
      have hle₃ := (hle.trans hle').trans hle''
      -- the join is run in the environment of the item before, whose captures are still in sight
      have hbetween : w.Mirrors (l.between ev target previous) x fun _ _ => True := by
        cases previous with
        | none => exact .pure hx trivial
        | some p =>
          cases hjoin : l.join with
          | none =>
            rw [Loop.between, hjoin]
            exact .pure hx trivial
          | some join =>
            rw [Loop.between, hjoin, executeOptional, ← Routine.run_stretch join p.2 x]
            refine henters _ _ (.join hjoin h hnext hmatched) hx hle₃ fun layer hlayer => ?_
            obtain rfl := Option.mem_some_iff.1 hlayer
            exact (hprevious p rfl).mono (hle'.trans hle'')
      refine hbetween.gives.bind fun _ y hy hle₄ hjoined => ?_
      have hbody : w.Mirrors (l.body.execute ev target (l.env.child b)) y fun _ _ => True := by
        rw [← Routine.run_stretch _ _ y]
        refine henters _ _ (.body h hnext hmatched hjoined.1) hy (hle₃.trans hle₄)
          fun layer hlayer => ?_
        obtain rfl := Option.mem_some_iff.1 hlayer
        exact hb.mono hle₄
      refine hbody.gives.bind fun _ z hz hle₅ hdone => ?_
      refine ih (.turn h hnext hmatched hjoined.1 hdone.1) hz ((hle₃.trans hle₄).trans hle₅) ?_ ?_
      · exact hit.mono (((hle'.trans hle'').trans hle₄).trans hle₅)
      · intro p hp
        obtain rfl := Option.mem_some_iff.1 hp
        exact hb.mono (hle₄.trans hle₅)

/-- **An instruction mirrors what is hidden** if the bodies that it enters do. -/
theorem mirrors_moment (hev : w.Guards ev) {m : Moment} (hs : w.Covers m.store)
    (henv : w.ShowsEnv m.store m.env free) (hkeeps : m.instruction.KeepsTo free)
    (hhands : ∀ f t, m.HandsTo ev target f t → w.Covers t → w.Shows t f →
      w.Mirrors (ev.call f [.receiver target] []) t fun _ _ => True)
    (henters : ∀ layer st, m.Enters ev target layer st → w.Covers st.store →
      w.Precedes m.store st.store → (∀ x ∈ layer, w.ShowsBound st.store x.captured) →
      w.Mirrors (st.run ev target) st.store fun _ _ => True) :
    w.Mirrors (m.run ev target) m.store fun _ _ => True := by
  have hnone : ∀ t, ∀ x ∈ (none : Option Layer), w.ShowsBound t x.captured :=
    fun _ _ h => absurd h (Option.not_mem_none _)
  obtain ⟨i, env, filename, s⟩ := m
  cases hkeeps with
  | append => exact .writeText _ _ hs
  | layout => exact .writeSpace _ _ hs
  | @spliceName n span hn =>
    rw [Moment.run, Instruction.execute]
    cases h : env.get? n with
    | some v =>
      -- writing an object may hand the receiver to one of its functions
      exact mirrors_write hs (henv.shows_get? hn h) fun fields f ho hf =>
        hhands f s (.mk (.name h) ho hf) hs
    | none => exact .fail _ hs
  | splice hx =>
    rw [Moment.run, Instruction.execute]
    refine (mirrors_evaluate hev hx hs henv.flatten filename).gives.bind fun v t ht _ hv => ?_
    exact mirrors_write ht hv.2 fun fields f ho hf => hhands f t (.mk (.spliced hv.1) ho hf) ht
  | interpolate hx =>
    rw [Moment.run, Instruction.execute]
    refine (Mirrors.mapM (P := fun _ _ => True) hs (fun _ _ => trivial) fun segment hmem t ht hle => ?_).bind
      fun texts t ht _ _ => .writeText _ _ ht
    exact mirrors_segment hev (fun e he => hx e (he ▸ hmem)) ht (henv.mono hle)
  | @branch x yes no hx =>
    rw [Moment.run, Instruction.execute]
    refine (mirrors_evaluate hev hx hs henv.flatten filename).gives.bind fun v t ht hle hv => ?_
    refine .look_bind ht (truth_raise hv.2) ?_
    by_cases htruth : t.truth v = true
    · rw [if_pos htruth, ← Routine.run_stretch yes env t]
      exact henters _ _ (.yes hv.1 htruth) ht hle (hnone _)
    · rw [if_neg htruth]
      cases no with
      | none => exact .pure ht trivial
      | some no =>
        rw [executeOptional, ← Routine.run_stretch no env t]
        exact henters _ _ (.no hv.1 (Bool.eq_false_iff.2 htruth)) ht hle (hnone _)
  | @iterate pattern source body join hpattern hsource =>
    let l : Loop := ⟨pattern, source, body, join, env, filename⟩
    rw [Moment.run, Instruction.execute]
    refine (mirrors_evaluate hev hsource hs henv.flatten filename).gives.bind fun v t ht hle hv => ?_
    refine (mirrors_loopItems source ht hv.2).gives.bind fun it u hu hle' hit => ?_
    exact mirrors_turns (l := l) hev hpattern henv henters (.start hv.1 hit.1) hu (hle.trans hle') hit.2
      fun _ h => absurd h (Option.not_mem_none _)
  | @dispatch x arms hx hcase =>
    rw [Moment.run, Instruction.execute]
    refine (mirrors_evaluate hev hx hs henv.flatten filename).gives.bind fun v t ht hle hv => ?_
    refine mirrors_executeArms hev hcase ht (henv.mono hle) hv.2
      fun before c body after u b x hsplit hskips hcaptures hx hle' hb => ?_
    subst hsplit
    rw [← Routine.run_stretch body _ x]
    refine henters _ _ (.arm hv.1 hskips hcaptures) hx (hle.trans hle') fun layer hlayer => ?_
    obtain rfl := Option.mem_some_iff.1 hlayer
    exact hb
  | @rebind name body =>
    have hbody := henters (some (.scope name)) _ .scope hs (.refl w s) fun layer hlayer => by
      obtain rfl := Option.mem_some_iff.1 hlayer
      exact showsBound_nil
    rw [Routine.run_stretch] at hbody
    cases name with
    | none => exact hbody
    | some n => exact hbody
  | unsupported => exact .fail _ hs

/-! ### Whole runs -/

/-- **Instructions**, one after another. -/
theorem mirrors_instructions {st : Stretch} (hs : w.Covers st.store)
    (h : ∀ m, st.Meets ev target m → w.Covers m.store → w.Precedes st.store m.store →
      w.Mirrors (m.run ev target) m.store fun _ _ => True) :
    w.Mirrors (st.run ev target) st.store fun _ _ => True := by
  obtain ⟨row, env, filename, s⟩ := st
  change w.Mirrors (executeAll ev target env filename row) s _
  induction row generalizing s with
  | nil => exact .pure hs trivial
  | cons i rest ih =>
    rw [executeAll]
    have hhead := h ⟨i, env, filename, s⟩ (Stretch.meets_head ..) hs (.refl w s)
    refine hhead.gives.bind fun _ t ht hle hi => ih t ht fun m hm hcovers hle' => ?_
    exact h m (hm.cons hi.1) hcovers (hle.trans hle')

/-- **A run mirrors what is hidden** if all its instructions keep to names that are free under the
layers around them, and all functions that are handed the receiver mirror it. -/
theorem mirrors_stretch (hev : w.Guards ev) {st : Stretch} (free : List Layer → String → Prop)
    (hs : w.Covers st.store)
    (henv : ∀ s layers, w.Precedes st.store s → (∀ l ∈ layers, w.ShowsBound s l.captured) →
      w.ShowsEnv s (Layer.rows target layers ++ st.env) (free layers))
    (hkeeps : ∀ layers m, Moment.Reached ev target st layers m → m.instruction.KeepsTo (free layers))
    (hhands : ∀ layers m f t, Moment.Reached ev target st layers m → m.HandsTo ev target f t →
      w.Covers t → w.Shows t f → w.Mirrors (ev.call f [.receiver target] []) t fun _ _ => True) :
    w.Mirrors (st.run ev target) st.store fun _ _ => True := by
  -- the bodies that an instruction enters are smaller than the row that it stands in
  induction hsize : sizeOf st.instructions using Nat.strongRecOn generalizing st free with
  | _ n ih =>
    subst hsize
    refine mirrors_instructions hs fun m hm hcovers hle => ?_
    have hnames : w.ShowsEnv m.store m.env (free []) :=
      hm.env_eq ▸ henv m.store [] hle fun _ h => absurd h List.not_mem_nil
    refine mirrors_moment hev hcovers hnames (hkeeps [] m (.first hm))
      (fun f t h => hhands [] m f t (.first hm) h) fun layer st' henters hcovers' hle' hlayer => ?_
    refine ih _ (Nat.lt_trans henters.sizeOf_lt hm.sizeOf_lt)
      (fun layers => free (layer.toList ++ layers)) hcovers' ?_ ?_ ?_ rfl
    · intro s layers hle'' hlayers
      have hrows : Layer.rows target layers ++ st'.env =
          Layer.rows target (layer.toList ++ layers) ++ st.env := by
        rw [henters.env_eq, hm.env_eq]
        simp [Layer.rows]
      rw [hrows]
      refine henv s _ ((hle.trans hle').trans hle'') fun l hl => ?_
      rcases List.mem_append.1 hl with hl | hl
      · exact (hlayer l (Option.mem_toList.1 hl)).mono hle''
      · exact hlayers l hl
    · exact fun layers m' hm' => hkeeps _ m' (.of_enters hm henters hm')
    · exact fun layers m' f t hm' => hhands _ m' f t (.of_enters hm henters hm')

end Veil

end TokenTemplate
