import TokenTemplate.Proofs.Veil.Scope

/-!
# Evaluators behind a veil

An evaluator guards the veil (`TokenTemplate.Veil.Guards`) if everything that it does mirrors what is
hidden, as long as it is given what is in sight. What the rules for payloads share is done by every such
evaluator in this way: to go through the items of a value, and to look for a value among them.
-/

namespace TokenTemplate.Veil

/-- **An evaluator guards the veil.** -/
structure Guards (w : Veil) (ev : Evaluator) : Prop where
  /-- When it evaluates an expression. -/
  eval : ∀ {s sc free own e}, w.Covers s → w.Suits s sc free own → e.KeepsTo free own →
    w.Mirrors (ev.eval sc e) s w.Shows
  /-- When it evaluates the name of the function for all names, to call it. -/
  locals : ∀ {s sc free own}, w.Covers s → w.Suits s sc free own →
    "locals" ∈ own.getD [] ∨ free "locals" →
    w.Mirrors (ev.eval sc (.name "locals")) s fun t v => w.Shows t v ∨ v = .function .locals
  /-- When it calls a value. -/
  call : ∀ {s f args named}, w.Covers s → w.Shows s f → w.ShowsAll s args → w.ShowsBound s named →
    w.Mirrors (ev.call f args named) s w.Shows
  /-- When it gets the next item. -/
  next : ∀ {s id}, w.Covers s → w.Shows s (.object id) → w.Mirrors (ev.next id) s w.ShowsIf
  /-- When it runs a template on another receiver. -/
  populate : ∀ {s t id b}, w.Covers s → t.IsModest → id ≠ w.target → w.ShowsBound s b →
    w.Mirrors (ev.populate t id b) s fun _ _ => True

variable {w : Veil} {s : Store} {v : Value} {ev : Evaluator}

/-! ### Single values -/

theorem showsAll_nil : w.ShowsAll s [] :=
  fun _ h => absurd h List.not_mem_nil

theorem showsAll_cons {vs : List Value} : w.ShowsAll s (v :: vs) ↔ w.Shows s v ∧ w.ShowsAll s vs :=
  List.forall_mem_cons

theorem showsAll_singleton : w.ShowsAll s [v] ↔ w.Shows s v :=
  List.forall_mem_singleton

theorem showsAll_append {vs vs' : List Value} :
    w.ShowsAll s (vs ++ vs') ↔ w.ShowsAll s vs ∧ w.ShowsAll s vs' :=
  List.forall_mem_append

theorem showsBound_nil : w.ShowsBound s [] :=
  fun _ h => absurd h List.not_mem_nil

theorem showsBound_cons {n : String} {b : Bindings} :
    w.ShowsBound s ((n, v) :: b) ↔ w.Shows s v ∧ w.ShowsBound s b :=
  List.forall_mem_cons

theorem showsBound_append {b c : Bindings} :
    w.ShowsBound s (b ++ c) ↔ w.ShowsBound s b ∧ w.ShowsBound s c :=
  List.forall_mem_append

theorem showsIf_none : w.ShowsIf s none :=
  fun _ h => absurd h.symm (Option.some_ne_none _)

theorem showsIf_some : w.ShowsIf s (some v) ↔ w.Shows s v :=
  ⟨fun h => h v rfl, fun h _ ha => Option.some.inj ha ▸ h⟩

/-! ### What operations make -/

theorem mirrors_toAction (hs : w.Covers s) {m : Made} (hm : w.ShowsMade s m) :
    w.Mirrors m.toAction s w.Shows := by
  cases m with
  | value v => exact .made hs hm
  | texts parts =>
    refine (Mirrors.mapM (P := w.Shows) hs Shows.mono fun p _ t ht _ => .text _ ht).bind
      fun texts t ht _ htexts => ?_
    refine .new ht (fun v hv => htexts v ?_) rfl
    rwa [List.toList_toArray] at hv
  | object o => exact .new hs hm.1 hm.2

theorem mirrors_make (hs : w.Covers s) {f : Store → Except Fault Made}
    (h : Agrees (w.ShowsMade s) (f (w.raise s)) (f s)) : w.Mirrors (Action.make f) s w.Shows :=
  .ofStore_bind hs h fun _ hm => mirrors_toAction hs hm

/-! ### Going through items -/

/-- What the items of a value are got from. -/
theorem iteration?_shows (hs : w.Covers s) (hv : w.Shows s v) :
    (w.raise s).iteration? v = s.iteration? v ∧ ∀ r, s.iteration? v = some r →
      r.elim (fun id => w.Shows s (.object id)) (w.Pending s) := by
  cases v with
  | range | receiver =>
    refine ⟨rfl, fun r h => ?_⟩
    obtain rfl := Option.some.inj h
    exact hv
  | text t o =>
    refine ⟨rfl, fun r h => ?_⟩
    obtain rfl := Option.some.inj h
    intro a ha
    obtain ⟨c, -, rfl⟩ := List.mem_map.1 ha
    exact trivial
  | object id =>
    refine ⟨rfl, fun r h => ?_⟩
    have ho := fun o => hs.innocent_of_object? (o := o) hv
    rw [Store.iteration?] at h
    split at h
    · next ho' =>
      obtain rfl := Option.some.inj h
      exact ho _ ho'
    · next ho' =>
      obtain rfl := Option.some.inj h
      exact ho _ ho'
    · obtain rfl := Option.some.inj h
      exact hv
    · obtain rfl := Option.some.inj h
      exact hv
    · next ho' =>
      obtain rfl := Option.some.inj h
      exact ho _ ho'
    · obtain rfl := Option.some.inj h
      exact hv
    · exact nomatch h
  | _ => exact ⟨rfl, fun r h => nomatch h⟩

/-- **An iterator for the items of a value.** -/
theorem mirrors_iterate (hs : w.Covers s) (hv : w.Shows s v) :
    w.Mirrors (Action.iterate v) s fun t id => w.Shows t (.object id) := by
  obtain ⟨heq, hshows⟩ := iteration?_shows hs hv
  refine .look_bind hs heq ?_
  split
  · next id h => exact .pure hs (hshows _ h)
  · next i h =>
    have hi : w.Innocent s (.iterator i) := hshows _ h
    exact (Mirrors.allocate hs hi).imp fun t id hid => ⟨hid.2, _, hid.1, rfl⟩
  · exact .failWith _ hs

/-- **A loop keeps what each step keeps.** -/
theorem mirrors_loop (hev : w.Guards ev) {σ α : Type}
    {step : σ → Option Value → Action (σ ⊕ α)} {I : Store → σ → Prop} {P : Store → α → Prop}
    {id : Nat} (hid : w.Shows s (.object id)) (hI : ∀ {t u x}, I t x → w.Precedes t u → I u x)
    (hstep : ∀ x item t, w.Covers t → w.Precedes s t → I t x → w.ShowsIf t item →
      w.Mirrors (step x item) t fun u r => r.elim (I u) (P u))
    {fuel : Nat} {x : σ} (hs : w.Covers s) (hx : I s x) :
    w.Mirrors (ev.loop step id fuel x) s P := by
  induction fuel generalizing s x with
  | zero => exact .fail _ hs
  | succ fuel ih =>
    rw [Evaluator.loop]
    refine (hev.next hs hid).bind fun item t ht hle hitem => ?_
    refine (hstep x item t ht hle (hI hx hle) hitem).bind fun r u hu hle' hr => ?_
    cases r with
    | inl y =>
      refine ih (hid.mono (hle.trans hle')) (fun x item t' ht' hle'' => ?_) hu hr
      exact hstep x item t' ht' ((hle.trans hle').trans hle'')
    | inr a => exact .pure hu hr

/-- **All items of an iterator.** -/
theorem mirrors_collect (hev : w.Guards ev) (hs : w.Covers s) {id : Nat}
    (hid : w.Shows s (.object id)) : w.Mirrors (ev.collect id) s w.ShowsAll := by
  refine mirrors_loop hev (I := w.ShowsAll) hid ShowsAll.mono ?_ hs showsAll_nil
  intro row item t ht _ hrow hitem
  cases item with
  | none => exact .pure ht fun v hv => hrow v (List.mem_reverse.1 hv)
  | some v => exact .pure ht (showsAll_cons.2 ⟨hitem v rfl, hrow⟩)

theorem mirrors_needRoom (hs : w.Covers s) (hv : w.Shows s v) :
    w.Mirrors (Evaluator.needRoom v) s fun _ _ => True := by
  rw [Evaluator.needRoom]
  refine .look_bind hs (length?_raise hv) ?_
  dsimp only
  split
  · exact .failWith _ hs
  · split
    · exact .failWith _ hs
    · exact .pure hs trivial

/-- **All items of a value.** -/
theorem mirrors_itemsOf (hev : w.Guards ev) (hs : w.Covers s) (hv : w.Shows s v) :
    w.Mirrors (ev.itemsOf v) s w.ShowsAll := by
  refine (mirrors_needRoom hs hv).bind fun _ t ht hle _ => ?_
  exact (mirrors_iterate ht (hv.mono hle)).bind fun id u hu _ hid => mirrors_collect hev hu hid

theorem mirrors_addAll (hev : w.Guards ev) (hs : w.Covers s) {table : SlotTable Value}
    (ht : table.All (w.Shows s)) (hv : w.Shows s v) :
    w.Mirrors (ev.addAll table v) s fun t table => table.All (w.Shows t) := by
  rw [Evaluator.addAll]
  refine .look_bind hs (objectOf?_raise v) ?_
  split
  · next more h =>
    exact .ofStore hs (agrees_mergeSets hs ht (hs.innocent_of_objectOf? hv h)) fun _ => id
  · next entries h =>
    refine .ofStore hs (agrees_addItems hs (ht.reserve _) fun a ha => ?_) fun _ => id
    obtain ⟨p, hp, rfl⟩ := List.mem_map.1 ha
    exact (hs.innocent_of_objectOf? hv h p hp).1
  · refine (mirrors_iterate hs hv).bind fun id t ht' hle hid => ?_
    refine mirrors_loop hev (I := fun t table => table.All (w.Shows t)) hid
      (fun h hle => ShowsAll.mono h hle) ?_ ht' (ShowsAll.mono ht hle)
    intro table item u hu _ htable hitem
    cases item with
    | none => exact .pure hu htable
    | some v =>
      exact .ofStore_bind hu (agrees_addItem hu htable (hitem v rfl)) fun _ h => .pure hu h

theorem mirrors_untilDone {α : Type} {step : Action (Option α)} {P : Store → α → Prop}
    (hstep : ∀ t, w.Covers t → w.Precedes s t →
      w.Mirrors step t fun u r => ∀ a, r = some a → P u a) {fuel : Nat} (hs : w.Covers s) :
    w.Mirrors (Evaluator.untilDone step fuel) s P := by
  induction fuel generalizing s with
  | zero => exact .fail _ hs
  | succ fuel ih =>
    rw [Evaluator.untilDone]
    refine (hstep s hs (.refl w s)).bind fun r t ht hle hr => ?_
    split
    · next a => exact .pure ht (hr a rfl)
    · exact ih (fun u hu hle' => hstep u hu (hle.trans hle')) ht

theorem mirrors_isAmongNext (hev : w.Guards ev) (hs : w.Covers s) (hv : w.Shows s v) {id : Nat}
    (hid : w.Shows s (.object id)) : w.Mirrors (ev.isAmongNext v id) s fun _ _ => True := by
  refine mirrors_loop hev (I := fun _ _ => True) hid (fun _ _ => trivial) ?_ hs trivial
  intro _ item t ht hle _ hitem
  cases item with
  | none => exact .pure ht trivial
  | some a =>
    have hequal := Agrees.of_eq (sameOrEqual_raise ht a v (hitem a rfl) (hv.mono hle))
    refine .ofStore_bind ht hequal fun b _ => ?_
    split <;> exact .pure ht trivial

/-- **Whether a value is in another one.** -/
theorem mirrors_contains (hev : w.Guards ev) (hs : w.Covers s) {container : Value}
    (hcontainer : w.Shows s container) (hv : w.Shows s v) :
    w.Mirrors (ev.contains container v) s fun _ _ => True := by
  have ho := fun o => hs.innocent_of_objectOf? (o := o) hcontainer
  have hgone : ∀ {α : Type} {P : α → Prop} {x y : Except Fault α}, Agrees P x y →
      Agrees (fun _ => True) x y := fun h => h.imp fun _ _ => trivial
  have hamong : w.Mirrors (Action.iterate container >>= fun id => ev.isAmongNext v id) s
      fun _ _ => True :=
    (mirrors_iterate hs hcontainer).bind fun id t ht hle hid =>
      mirrors_isAmongNext hev ht (hv.mono hle) hid
  rw [Evaluator.contains]
  refine .look_bind hs (objectOf?_raise _) ?_
  split
  · exact .ofStore_bind hs (Agrees.of_eq rfl) fun _ _ => .pure hs trivial
  · split
    · exact .pure hs trivial
    · exact hamong
  · next h => exact .ofStore_bind hs (agrees_lookup? hs hcontainer hv) fun _ _ => .pure hs trivial
  · next h => exact .ofStore_bind hs (agrees_lookup? hs (ho _ h) hv) fun _ _ => .pure hs trivial
  · next h =>
    refine .look_bind hs (objectOf?_raise _) ?_
    split
    · next key a ha =>
      obtain ⟨hkey, ha⟩ := showsAll_cons.1 (hs.innocent_of_objectOf? hv ha)
      refine .ofStore_bind hs (agrees_lookup? hs (ho _ h) hkey) fun found hfound => ?_
      split
      · next u =>
        have hequal := sameOrEqual_raise hs u a (hfound u rfl) (showsAll_singleton.1 ha)
        exact .ofStore hs (Agrees.of_eq hequal) fun _ => id
      · exact .pure hs trivial
    · exact .pure hs trivial
  · next table h =>
    refine .ofStore hs (R := fun _ => True) ?_ fun _ => id
    simp only [objectOf?_raise, needsKey_raise, isAmong_raise hs hv (ho _ h)]
    exact .of_eq rfl
  · exact hamong

end TokenTemplate.Veil
