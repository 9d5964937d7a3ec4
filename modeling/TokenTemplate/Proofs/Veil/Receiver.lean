import TokenTemplate.Evaluation.Receiver
import TokenTemplate.Evaluation.View
import TokenTemplate.Proofs.Veil.Items
import TokenTemplate.Proofs.Veil.Shown

/-!
# Writing behind a veil

Values in sight are written in the same way whatever is hidden, `TokenTemplate.Veil.mirrors_write`: be
it to the receiver behind the veil, of which only a value that writes itself gets to know, or to
another one.

The operators between two values are here too, since a text on the left of one is filled as if it was
written.
-/

namespace TokenTemplate.Veil

variable {w : Veil} {s : Store} {v v' : Value} {ev : Evaluator} {id : Nat}

/-! ### Writing a value -/

theorem mem_receiversOf? {items : List Value} {sources : List Nat}
    (h : Evaluator.receiversOf? items = some sources) : ∀ i ∈ sources, .receiver i ∈ items := by
  unfold Evaluator.receiversOf? at h
  split at h
  · exact nomatch h
  · induction items generalizing sources with
    | nil =>
      obtain rfl := Option.some.inj h
      exact fun i hi => absurd hi List.not_mem_nil
    | cons a items ih =>
      simp only [List.mapM_cons, Option.bind_eq_bind, Option.bind_eq_some_iff, Option.pure_def,
        Option.some.injEq] at h
      obtain ⟨i, hi, is, his, rfl⟩ := h
      have ha : a = .receiver i := by
        split at hi
        · exact congrArg Value.receiver (Option.some.inj hi)
        · exact nomatch hi
      have hrest : ∀ j ∈ is, .receiver j ∈ items := by
        cases items with
        | nil =>
          obtain rfl := Option.some.inj his
          exact fun j hj => absurd hj List.not_mem_nil
        | cons => exact ih Bool.false_ne_true his
      exact List.forall_mem_cons.2
        ⟨ha ▸ List.mem_cons_self, fun j hj => List.mem_cons_of_mem _ (hrest j hj)⟩

theorem mirrors_writeTextOf (hs : w.Covers s) (hv : w.Shows s v) :
    w.Mirrors (Evaluator.writeTextOf id v) s fun _ _ => True :=
  .ofStore_bind hs (.of_eq (textOf_raise hs hv)) fun t _ => .writeText id t hs

theorem mirrors_writeItem (hs : w.Covers s) (i : Item) :
    w.Mirrors (Evaluator.writeItem id i) s fun _ _ => True := by
  cases i with
  | space ws => exact .writeSpace id ws hs
  | text t => exact .writeText id t hs

/-- **A value is written.** One that writes itself is called with the receiver, and then it is up to this
call. -/
theorem mirrors_write (hs : w.Covers s) (hv : w.Shows s v)
    (hcall : ∀ fields f, s.objectOf? v = some (.record fields) →
      fields.lookup "into_tokens" = some f → w.Shows s f →
      w.Mirrors (ev.call f [.receiver id] []) s fun _ _ => True) :
    w.Mirrors (ev.write id v) s fun _ _ => True := by
  have htext : w.Mirrors (Evaluator.writeTextOf id v) s fun _ _ => True :=
    mirrors_writeTextOf hs hv
  have hcopy : ∀ items sources, w.ShowsAll s items → Evaluator.receiversOf? items = some sources →
      w.Mirrors (sources.forM (Action.copy id)) s fun _ _ => True := fun items sources hitems h =>
    .forM hs fun i hi t ht _ => .copy id ht (hitems _ (mem_receiversOf? h i hi))
  rw [Evaluator.write]
  refine .look_bind hs (objectOf?_raise _) ?_
  split
  · exact .pure hs trivial
  · exact .copy id hs hv
  · exact .forM hs fun i _ t ht _ => mirrors_writeItem ht i
  · next fields _ _ h =>
    split
    · next f hf =>
      have hfields : w.ShowsBound s fields := hs.innocent_of_objectOf? hv h
      exact (hcall fields f h hf (hfields.lookup _ f hf)).discard
    · exact htext
  · refine .look_bind hs (rowOf_raise _) ?_
    split
    · next sources h => exact hcopy _ sources (hs.shows_rowOf hv) h
    · exact htext
  · refine .look_bind hs (rowOf_raise _) ?_
    split
    · next sources h => exact hcopy _ sources (hs.shows_rowOf hv) h
    · exact htext
  · exact htext

/-- To another receiver values are written by an evaluator that guards the veil. -/
theorem mirrors_writeApart (hev : w.Guards ev) (hid : id ≠ w.target) (hs : w.Covers s)
    (hv : w.Shows s v) : w.Mirrors (ev.write id v) s fun _ _ => True :=
  mirrors_write hs hv fun _ _ _ _ hf =>
    (hev.call hs hf (showsAll_singleton.2 (show w.Shows _ (.receiver id) from hid))
      showsBound_nil).imp fun _ _ _ => trivial

theorem mirrors_writeAll (hev : w.Guards ev) (hid : id ≠ w.target) (hs : w.Covers s)
    (hv : w.Shows s v) : w.Mirrors (ev.writeAll id v) s fun _ _ => True := by
  refine (mirrors_iterate hs hv).bind fun it t ht _ hit => ?_
  refine mirrors_loop hev (I := fun _ _ => True) hit (fun _ _ => trivial) ?_ ht trivial
  intro _ item u hu _ _ hitem
  split
  · exact .pure hu trivial
  · exact (Mirrors.writeSpace id _ hu).bind fun _ x hx _ _ => .pure hx trivial
  · exact (mirrors_writeApart hev hid hu (hitem _ rfl)).bind fun _ x hx _ _ => .pure hx trivial

theorem mirrors_writeNested (hs : w.Covers s)
    (hwrite : ∀ t, w.Covers t → w.Precedes s t → w.Mirrors (ev.write id v) t fun _ _ => True) :
    w.Mirrors (ev.writeNested id v) s fun _ _ => True := by
  refine (Mirrors.writeSpace id _ hs).bind fun _ t ht hle _ => ?_
  refine (Mirrors.writeSpace id _ ht).bind fun _ u hu hle' _ => ?_
  refine (hwrite u hu (hle.trans hle')).bind fun _ x hx _ _ => ?_
  exact (Mirrors.writeSpace id _ hx).bind fun _ y hy _ _ => .writeSpace id _ hy

theorem isEmptyReceiver_raise (hid : id ≠ w.target) :
    (w.raise s).isEmptyReceiver id = s.isEmptyReceiver id := by
  rw [Store.isEmptyReceiver, items_raise hid, Store.isEmptyReceiver]

/-! ### Operators -/

theorem isSetView_raise (v : Value) : (w.raise s).isSetView v = s.isSetView v := by
  rw [Store.isSetView, Store.isSetView, objectOf?_raise]

theorem mirrors_setOfOperand (hev : w.Guards ev) (hs : w.Covers s) (hv : w.Shows s v) :
    w.Mirrors (ev.setOfOperand v) s fun t table => table.All (w.Shows t) := by
  rw [Evaluator.setOfOperand]
  refine .look_bind hs (objectOf?_raise _) ?_
  split
  · next dict h => exact mirrors_addAll hev hs all_empty (hs.innocent_of_objectOf? hv h)
  · exact mirrors_addAll hev hs all_empty hv

theorem mirrors_itemsIn (hev : w.Guards ev) (hs : w.Covers s) (hv : w.Shows s v)
    (hv' : w.Shows s v') :
    w.Mirrors (ev.itemsIn v v') s fun t table => table.All (w.Shows t) := by
  refine (mirrors_iterate hs hv).bind fun it t ht hle hit => ?_
  refine mirrors_loop hev (I := fun t table => SlotTable.All (w.Shows t) table) hit
    (fun h hle => ShowsAll.mono h hle) ?_ ht all_empty
  intro table item u hu hle' htable hitem
  cases item with
  | none => exact .pure hu htable
  | some a =>
    refine (mirrors_contains hev hu (hv'.mono (hle.trans hle')) (hitem a rfl)).bind
      fun found x hx hle'' _ => ?_
    have htable : table.All (w.Shows x) := ShowsAll.mono htable hle''
    split
    · exact .ofStore_bind hx (agrees_addItem hx htable ((hitem a rfl).mono hle''))
        fun _ h => .pure hx h
    · exact .pure hx htable

theorem mirrors_commonWithView (hev : w.Guards ev) (hs : w.Covers s) (hv : w.Shows s v)
    (hv' : w.Shows s v') :
    w.Mirrors (ev.commonWithView v v') s fun t table => table.All (w.Shows t) := by
  have heither : ∀ b : Bool, w.Mirrors (if b then ev.itemsIn v v' else ev.itemsIn v' v) s
      fun t table => table.All (w.Shows t) := by
    intro b
    split
    · exact mirrors_itemsIn hev hs hv hv'
    · exact mirrors_itemsIn hev hs hv' hv
  refine .look_bind hs (length?_raise hv) (.look_bind hs (length?_raise hv') ?_)
  refine .look_bind hs (objectOf?_raise _) (.look_bind hs (isSetView_raise _) ?_)
  exact heither _

theorem mirrors_itemsOfOne (hev : w.Guards ev) (hs : w.Covers s) (hv : w.Shows s v)
    (hv' : w.Shows s v') :
    w.Mirrors (ev.itemsOfOne v v') s fun t table => table.All (w.Shows t) := by
  have ho' := fun o => hs.innocent_of_objectOf? (o := o) hv'
  -- the items of one value that are not in the other one
  have hfilter : ∀ {t a items}, w.Covers t → w.Shows t a → w.ShowsAll t items →
      w.Mirrors (items.filterM fun x => (!·) <$> ev.contains a x) t w.ShowsAll := by
    intro t a items ht ha hitems
    refine (Mirrors.filterM ht fun x hx u hu hle => ?_).imp_of_precedes
      fun u kept hle hkept x hx => (hitems x (hkept x hx)).mono hle
    exact (mirrors_contains hev hu (ha.mono hle) ((hitems x hx).mono hle)).map fun _ _ _ => trivial
  unfold Evaluator.itemsOfOne
  refine .look_bind hs (objectOf?_raise _) (.look_bind hs (objectOf?_raise _) ?_)
  split
  · refine (mirrors_itemsOf hev hs hv').bind fun items t ht hle hitems => ?_
    refine (hfilter ht (hv.mono hle) hitems).bind fun others u hu hle' hothers => ?_
    have hle := hle.trans hle'
    refine (mirrors_itemsOf hev hu (hv.mono hle)).bind fun items' x hx hle'' hitems' => ?_
    refine (hfilter hx (hv'.mono (hle.trans hle'')) hitems').bind fun own y hy hle₃ hown => ?_
    have hothers := (hothers.mono hle'').mono hle₃
    exact .ofStore hy (agrees_addItems hy all_empty (showsAll_append.2 ⟨hothers, hown⟩)) fun _ => id
  · refine (mirrors_setOfOperand hev hs hv).bind fun table t ht hle htable => ?_
    have hmore : ∀ {u others}, w.Covers u → w.Precedes t u → w.ShowsAll u others →
        w.Mirrors (Action.ofStore fun s => exchange s others table) u
          fun t table => table.All (w.Shows t) := fun hu hle' hothers =>
      .ofStore hu (agrees_exchange hu hothers (ShowsAll.mono htable hle')) fun _ => id
    split
    · next more h => exact hmore ht (.refl w t) (ShowsAll.mono (ho' _ h) hle)
    · next entries h =>
      refine hmore ht (.refl w t) fun a ha => ?_
      obtain ⟨p, hp, rfl⟩ := List.mem_map.1 ha
      exact ((ho' _ h : w.ShowsEntries s entries) p hp).1.mono hle
    · refine ((mirrors_addAll hev ht all_empty (hv'.mono hle)).map (Q := w.ShowsAll) fun _ _ h => h).bind
        fun others u hu hle' hothers => hmore hu hle' hothers

theorem mirrors_viewOp (hev : w.Guards ev) (hs : w.Covers s) (op : Payload.BinaryOp)
    (hv : w.Shows s v) (hv' : w.Shows s v') :
    w.Mirrors (ev.viewOp op v v') s fun t table => table.All (w.Shows t) := by
  unfold Evaluator.viewOp
  split
  · refine .look_bind hs (isSetView_raise _) ?_
    split
    · exact mirrors_commonWithView hev hs hv hv'
    · exact mirrors_commonWithView hev hs hv' hv
  · refine (mirrors_setOfOperand hev hs hv).bind fun table t ht hle htable => ?_
    exact mirrors_addAll hev ht htable (hv'.mono hle)
  · refine (mirrors_setOfOperand hev hs hv).bind fun table t ht hle htable => ?_
    refine (mirrors_itemsOf hev ht (hv'.mono hle)).bind fun others u hu hle' hothers => ?_
    exact .ofStore hu (agrees_withoutValues hu hothers (ShowsAll.mono htable hle')) fun _ => id
  · exact mirrors_itemsOfOne hev hs hv hv'
  · exact .failWith _ hs

/-- **An operator between two values.** -/
theorem mirrors_binary (hev : w.Guards ev) (hs : w.Covers s) (op : Payload.BinaryOp)
    (hv : w.Shows s v) (hv' : w.Shows s v') : w.Mirrors (ev.binary op v v') s w.Shows := by
  unfold Evaluator.binary
  split
  · exact .ofStore_bind hs (.of_eq (fill_raise hs _ hv')) fun t _ => .made hs trivial
  · refine .look_bind hs (by rw [isSetView_raise, isSetView_raise]) ?_
    split
    · exact (mirrors_viewOp hev hs _ hv hv').bind fun table t ht _ htable => .new ht htable rfl
    · exact mirrors_make hs (agrees_binary hs op hv hv')

end TokenTemplate.Veil
