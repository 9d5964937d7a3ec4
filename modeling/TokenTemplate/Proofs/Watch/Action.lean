import TokenTemplate.Proofs.Watch.Basic

/-!
# Actions that are watched

Two actions are compared: one that is stopped where a name is assigned, and one that is not. They end in the same way
if the name is not assigned; if it is, the first one has come to the end of its means, and the other one leaves a
store in which the name has been assigned: `TokenTemplate.Watch.Follows`. In both cases no more happens to the two
frames that are watched than may happen.

An action that has nothing to do with stopping is compared with itself. So this says of every action what it does to
the two frames.
-/

namespace TokenTemplate.Watch

variable {α β : Type} {w : Watch} {s t : Store} {x' x : Action α} {f' f : α → Action β}

/-- **An action that can be stopped follows another one** from a store on, up to where the name is assigned. -/
def FollowsFrom (w : Watch) (s : Store) (x' x : Action α) : Prop :=
  ∃ b : Bindings, w.Moves b s (x s).store ∧
    (x' s = x s ∧ w.name ∉ b.map Prod.fst ∨ (x' s).outcome = .error .exhausted ∧ w.name ∈ b.map Prod.fst)

/-- It does so from every store. -/
def Follows (w : Watch) (x' x : Action α) : Prop :=
  ∀ s, w.Covers s → w.FollowsFrom s x' x

/-- It does not matter how many objects there have been. -/
theorem FollowsFrom.of_upTo {n : Nat} (h : (w.upTo n).FollowsFrom s x' x) (hle : w.base ≤ n) : w.FollowsFrom s x' x := by
  obtain ⟨b, hmoves, hends⟩ := h
  exact ⟨b, hmoves.of_upTo hle, hends⟩

/-- An action that assigns nothing follows itself. -/
theorem followsFrom_of_moves (h : w.Moves [] s (x s).store) : w.FollowsFrom s x x :=
  ⟨[], h, .inl ⟨rfl, List.not_mem_nil⟩⟩

/-! ### Actions in a row -/

/-- **One action, and then another one.** It must not go on from what has been stopped. -/
theorem FollowsFrom.followedBy {k' k : Except Fault α → Action β} (hx : w.FollowsFrom s x' x)
    (hk : w.Covers (x s).store → w.FollowsFrom (x s).store (k' (x s).outcome) (k (x s).outcome))
    (hexhausted : ∀ t, (k' (.error .exhausted) t).outcome = .error .exhausted) :
    w.FollowsFrom s (x'.followedBy k') (x.followedBy k) := by
  obtain ⟨b, hmoves, h⟩ := hx
  obtain ⟨c, hmoves', h'⟩ := hk hmoves.covers
  refine ⟨b ++ c, hmoves.trans hmoves', ?_⟩
  rw [List.map_append, List.mem_append]
  rcases h with ⟨hsame, hname⟩ | ⟨hstopped, hname⟩
  · rcases h' with ⟨hsame', hname'⟩ | ⟨hstopped', hname'⟩
    · refine .inl ⟨Step.ext ?_ ?_, not_or.2 ⟨hname, hname'⟩⟩
      · rw [Action.outcome_followedBy, Action.outcome_followedBy, hsame, hsame']
      · rw [Action.store_followedBy, Action.store_followedBy, hsame, hsame']
    · refine .inr ⟨?_, .inr hname'⟩
      rw [Action.outcome_followedBy, hsame]
      exact hstopped'
  · refine .inr ⟨?_, .inl hname⟩
    rw [Action.outcome_followedBy, hstopped]
    exact hexhausted _

/-- One action, and then another one with its value. -/
theorem FollowsFrom.bind (hx : w.FollowsFrom s x' x)
    (hf : ∀ a t, x.Gives s a t → w.Covers t → w.FollowsFrom t (f' a) (f a)) :
    w.FollowsFrom s (x' >>= f') (x >>= f) := by
  rw [Action.bind_eq_followedBy, Action.bind_eq_followedBy]
  refine hx.followedBy (fun ht => ?_) fun _ => rfl
  rcases h : (x s).outcome with e | a
  · exact followsFrom_of_moves ht.moves_refl
  · exact hf a _ ⟨h, rfl⟩ ht

/-- Another action after a fault. -/
theorem FollowsFrom.recover {k' k : Fault → Action α} (hx : w.FollowsFrom s x' x)
    (hk : ∀ e t, w.Covers t → w.FollowsFrom t (k' e) (k e))
    (hexhausted : ∀ t, (k' .exhausted t).outcome = .error .exhausted) :
    w.FollowsFrom s (x'.recover k') (x.recover k) := by
  rw [Action.recover_eq_followedBy, Action.recover_eq_followedBy]
  refine hx.followedBy (fun ht => ?_) hexhausted
  rcases (x s).outcome with e | a
  · exact hk e _ ht
  · exact followsFrom_of_moves ht.moves_refl

namespace Follows

theorem bind (hx : w.Follows x' x) (hf : ∀ a, w.Follows (f' a) (f a)) :
    w.Follows (x' >>= f') (x >>= f) :=
  fun s hs => (hx s hs).bind fun a t _ ht => hf a t ht

theorem recover {k' k : Fault → Action α} (hx : w.Follows x' x) (hk : ∀ e, w.Follows (k' e) (k e))
    (hexhausted : ∀ t, (k' .exhausted t).outcome = .error .exhausted) :
    w.Follows (x'.recover k') (x.recover k) :=
  fun s hs => (hx s hs).recover (fun e t ht => hk e t ht) hexhausted

/-! ### Single actions -/

theorem pure (a : α) : w.Follows (Pure.pure a) (Pure.pure a) :=
  fun _ hs => followsFrom_of_moves hs.moves_refl

theorem fail (e : Fault) : w.Follows (Action.fail e : Action α) (Action.fail e) :=
  fun _ hs => followsFrom_of_moves hs.moves_refl

theorem failWith (k : ErrorKind) : w.Follows (Action.failWith k : Action α) (Action.failWith k) :=
  fail _

theorem ofStore (f : Store → Except Fault α) : w.Follows (Action.ofStore f) (Action.ofStore f) :=
  fun _ hs => followsFrom_of_moves hs.moves_refl

theorem ofExcept (o : Except Fault α) : w.Follows (Action.ofExcept o) (Action.ofExcept o) :=
  ofStore _

theorem look (f : Store → α) : w.Follows (Action.look f) (Action.look f) :=
  fun _ hs => followsFrom_of_moves hs.moves_refl

/-- What is seen in a store is used by another action. -/
theorem look_bind {f : Store → α} {g' g : α → Action β}
    (h : ∀ s, w.Covers s → w.FollowsFrom s (g' (f s)) (g (f s))) :
    w.Follows (Action.look f >>= g') (Action.look f >>= g) :=
  fun s hs => (look f s hs).bind fun a t hgives ht => by
    obtain ⟨rfl, rfl⟩ := Action.gives_look_iff.1 hgives
    exact h t ht

theorem map (hx : w.Follows x' x) (f : α → β) : w.Follows (f <$> x') (f <$> x) := by
  rw [map_eq_pure_bind, map_eq_pure_bind]
  exact hx.bind fun a => pure (f a)

theorem discard (hx : w.Follows x' x) : w.Follows (discard x') (discard x) :=
  hx.bind fun _ => pure ()

theorem reword (hx : w.Follows x' x) {f : Fault → Fault} (hf : f .exhausted = .exhausted) :
    w.Follows (x'.reword f) (x.reword f) :=
  hx.recover (fun e => fail (f e)) fun _ => congrArg Except.error hf

/-! ### Objects -/

/-- **A new object** may be anything but a comprehension that may not go on. -/
theorem allocate {o : Object} (ho : ∀ g, o.generation? = some g → w.Fits g) :
    w.Follows (Action.allocate o) (Action.allocate o) :=
  fun _ hs => followsFrom_of_moves (hs.moves_allocate ho)

/-- No comprehension is made. -/
theorem allocate_of_none {o : Object} (ho : o.generation? = none) :
    w.Follows (Action.allocate o) (Action.allocate o) :=
  allocate fun g hg => absurd (ho.symm.trans hg).symm (Option.some_ne_none g)

theorem new {o : Object} (ho : o.generation? = none) : w.Follows (Action.new o) (Action.new o) :=
  (allocate_of_none ho).bind fun _ => pure _

/-- **Another object is changed.** -/
theorem setObject {id : Nat} {o : Object} (hid : w.Apart id) (ho : ∀ g, o.generation? = some g → w.Fits g) :
    w.Follows (Action.setObject id o) (Action.setObject id o) :=
  fun _ hs => followsFrom_of_moves (hs.moves_setStore hid ho)

theorem setObject_of_none {id : Nat} {o : Object} (hid : w.Apart id) (ho : o.generation? = none) :
    w.Follows (Action.setObject id o) (Action.setObject id o) :=
  setObject hid fun g hg => absurd (ho.symm.trans hg).symm (Option.some_ne_none g)

theorem made (v : Value) : w.Follows (Action.made v) (Action.made v) :=
  fun _ hs => followsFrom_of_moves (hs.moves_of_objects_eq rfl)

theorem int (n : Int) : w.Follows (Action.int n) (Action.int n) :=
  made _

theorem real (a : Float) : w.Follows (Action.real a) (Action.real a) :=
  made _

theorem text (a : String) : w.Follows (Action.text a) (Action.text a) :=
  made _

theorem keepCall (args : List Value) : w.Follows (Action.keepCall args) (Action.keepCall args) :=
  fun _ hs => followsFrom_of_moves (hs.moves_of_objects_eq rfl)

/-! ### Receivers -/

theorem newReceiver : w.Follows Action.newReceiver Action.newReceiver :=
  fun _ hs => followsFrom_of_moves (hs.moves_of_objects_eq rfl)

theorem writeSpace (id : Nat) (a : Whitespace) : w.Follows (Action.writeSpace id a) (Action.writeSpace id a) :=
  fun _ hs => followsFrom_of_moves (hs.moves_of_objects_eq rfl)

theorem writeText (id : Nat) (a : String) : w.Follows (Action.writeText id a) (Action.writeText id a) := by
  intro s hs
  refine followsFrom_of_moves (hs.moves_of_objects_eq ?_)
  rw [Action.writeText]
  split <;> rfl

theorem copy (id source : Nat) : w.Follows (Action.copy id source) (Action.copy id source) :=
  fun _ hs => followsFrom_of_moves (hs.moves_of_objects_eq rfl)

/-! ### Rows of actions -/

theorem mapM {g' g : α → Action β} {row : List α} (h : ∀ a ∈ row, w.Follows (g' a) (g a)) :
    w.Follows (row.mapM g') (row.mapM g) := by
  induction row with
  | nil => exact pure []
  | cons a row ih =>
    obtain ⟨ha, hrow⟩ := List.forall_mem_cons.1 h
    rw [List.mapM_cons, List.mapM_cons]
    exact ha.bind fun b => (ih hrow).bind fun bs => pure (b :: bs)

theorem foldlM {g' g : β → α → Action β} {row : List α} (h : ∀ b, ∀ a ∈ row, w.Follows (g' b a) (g b a))
    (b : β) : w.Follows (row.foldlM g' b) (row.foldlM g b) := by
  induction row generalizing b with
  | nil => exact pure b
  | cons a row ih =>
    rw [List.foldlM_cons, List.foldlM_cons]
    exact (h b a List.mem_cons_self).bind fun c => ih (fun c a' ha' => h c a' (List.mem_cons_of_mem _ ha')) c

theorem forM {g' g : α → Action PUnit} {row : List α} (h : ∀ a ∈ row, w.Follows (g' a) (g a)) :
    w.Follows (row.forM g') (row.forM g) := by
  induction row with
  | nil => exact pure ()
  | cons a row ih =>
    obtain ⟨ha, hrow⟩ := List.forall_mem_cons.1 h
    exact ha.bind fun _ => ih hrow

theorem filterM {g' g : α → Action Bool} {row : List α} (h : ∀ a ∈ row, w.Follows (g' a) (g a)) :
    w.Follows (row.filterM g') (row.filterM g) := by
  have hrow (kept : List α) : w.Follows (List.filterAuxM g' row kept) (List.filterAuxM g row kept) := by
    induction row generalizing kept with
    | nil => exact pure kept
    | cons a row ih =>
      obtain ⟨ha, hrow⟩ := List.forall_mem_cons.1 h
      rw [List.filterAuxM, List.filterAuxM]
      exact ha.bind fun _ => ih hrow _
  exact (hrow []).bind fun kept => pure kept.reverse

/-- **What only inspects** does not touch the two frames. -/
theorem of_inspects (hx : x.Inspects) : w.Follows x x := by
  induction hx with
  | pure a => exact pure a
  | fail e => exact fail e
  | look f => exact look f
  | ofStore f => exact ofStore f
  | made v => exact made v
  | allocate ho => exact allocate_of_none ho
  | followedBy _ _ hexhausted ihx ihf =>
    exact fun s hs => (ihx s hs).followedBy (fun ht => ihf _ _ ht) hexhausted

end Follows

/-! ### What operations make -/

theorem follows_toAction {m : Made} (hm : ∀ o, m = .object o → o.generation? = none) :
    w.Follows m.toAction m.toAction := by
  cases m with
  | value v => exact .made v
  | texts parts => exact (Follows.mapM fun p _ => .text _).bind fun texts => .new rfl
  | object o => exact .new (hm o rfl)

/-! ### Names -/

/-- **A name is bound in another frame.** -/
theorem follows_bindIn {frame : Nat} (h : w.Apart frame) (n : String) (v : Value) :
    w.Follows (Scope.bindIn frame n v) (Scope.bindIn frame n v) :=
  (Follows.look _).bind fun _ => .setObject_of_none h rfl

theorem follows_bindHere {sc : Scope} (h : w.Apart sc.frame) (n : String) (v : Value) :
    w.Follows (sc.bindHere n v) (sc.bindHere n v) := by
  rw [Scope.bindHere_eq]
  exact follows_bindIn h n v

theorem follows_unbindHere {sc : Scope} (h : w.Apart sc.frame) (n : String) :
    w.Follows (sc.unbindHere n) (sc.unbindHere n) :=
  (Follows.ofStore _).bind fun _ => (Follows.look _).bind fun _ => .setObject_of_none h rfl

theorem follows_locals (sc : Scope) : w.Follows sc.locals sc.locals :=
  (Follows.look _).bind fun _ => .new rfl

/-- **A new frame** is there from then on. -/
theorem followsFrom_allocate_bind {names : List (String × Option Value)} {f' f : Nat → Action β} (hs : w.Covers s)
    (h : ∀ id t, w.base ≤ id → w.Apart id → (w.upTo (id + 1)).Covers t →
      (w.upTo (id + 1)).FollowsFrom t (f' id) (f id)) :
    w.FollowsFrom s (Action.allocate (.frame names) >>= f') (Action.allocate (.frame names) >>= f) := by
  have hnew : w.Follows (Action.allocate (.frame names)) (Action.allocate (.frame names)) := .allocate_of_none rfl
  refine (hnew s hs).bind fun id t hgives ht => ?_
  obtain rfl : s.objects.size = id := Except.ok.inj hgives.outcome_eq
  obtain rfl := hgives.store_eq
  have hsize : s.objects.size + 1 = (s.objects.push (.frame names)).size := (Array.size_push _).symm
  refine (h _ _ hs.base_le hs.apart_size (ht.upTo (Nat.le_of_eq hsize))).of_upTo ?_
  exact hs.base_le.trans (Nat.le_succ _)

/-- **A scope inside another one** has a frame that is new. -/
theorem followsFrom_enter_bind {sc : Scope} {own : List String} {comprehension : Bool} {g' g : Scope → Action β}
    (hs : w.Covers s) (h : ∀ id t, w.base ≤ id → w.Apart id → (w.upTo (id + 1)).Covers t →
      (w.upTo (id + 1)).FollowsFrom t (g' ⟨⟨id, comprehension⟩ :: sc.levels, sc.globals⟩)
        (g ⟨⟨id, comprehension⟩ :: sc.levels, sc.globals⟩)) :
    w.FollowsFrom s (sc.enter own comprehension >>= g') (sc.enter own comprehension >>= g) := by
  rw [Scope.enter, bind_assoc, bind_assoc]
  exact followsFrom_allocate_bind hs h

/-- The bindings of a payload are in a frame that is new. -/
theorem followsFrom_ofBindings_bind {b : Bindings} {g' g : Scope → Action β} (hs : w.Covers s)
    (h : ∀ id t, w.base ≤ id → w.Apart id → (w.upTo (id + 1)).Covers t →
      (w.upTo (id + 1)).FollowsFrom t (g' ⟨[], id⟩) (g ⟨[], id⟩)) :
    w.FollowsFrom s (Scope.ofBindings b >>= g') (Scope.ofBindings b >>= g) := by
  rw [Scope.ofBindings, bind_assoc, bind_assoc]
  exact followsFrom_allocate_bind hs h

end TokenTemplate.Watch
