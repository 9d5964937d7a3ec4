import TokenTemplate.Proofs.Veil.Call
import TokenTemplate.Proofs.Veil.Receiver

/-!
# Methods behind a veil

A method of what is in sight is called, and so any value in sight is:
`TokenTemplate.Veil.mirrors_callValue`. What a method writes goes to another receiver than the one
behind the veil, for its own receiver is in sight.
-/

namespace TokenTemplate.Veil

variable {w : Veil} {s : Store} {v v' : Value} {ev : Evaluator} {args : List Value}
  {named : Bindings} {id : Nat}

/-! ### Lists and dictionaries -/

theorem mirrors_callListMethod (hs : w.Covers s) (hv : w.Shows s v) (m : ListMethod)
    (hargs : w.ShowsAll s args) : w.Mirrors (Evaluator.callListMethod v m args) s w.Shows := by
  have hrow := hs.shows_rowOf hv
  unfold Evaluator.callListMethod
  refine .look_bind hs (rowOf_raise v) (.look_bind hs (objectOf?_raise _) ?_)
  split
  · next id items a h =>
    have hitems : w.ShowsAll s items.toList := hs.innocent_of_objectOf? hv h
    refine (Mirrors.setObject_of_names? hs (o := .list _) (fun b hb => ?_) rfl hv).bind
      fun _ t ht _ _ => .pure ht trivial
    rw [Array.toList_push] at hb
    exact showsAll_append.2 ⟨hitems, hargs⟩ b hb
  · have ha := showsAll_singleton.1 hargs
    exact .ofStore_bind hs (Agrees.filterM fun b hb =>
      .of_eq (sameOrEqual_raise hs b _ (hrow b hb) ha)) fun found _ => .int _ hs
  · exact .failWith _ hs
  · have ha := (showsAll_cons.1 hargs).1
    refine (Mirrors.ofExcept (P := fun _ _ => True) hs fun _ _ => trivial).bind
      fun bounds t ht hle _ => ?_
    refine .ofStore_bind ht (Agrees.foldlM (Q := fun _ => True) trivial fun n b hb _ => ?_)
      fun before _ => ?_
    · have hb := (hrow b (List.mem_of_mem_take (List.mem_of_mem_drop hb))).mono hle
      split
      · refine (Agrees.of_eq (sameOrEqual_raise ht b _ hb (ha.mono hle))).bind fun c _ _ => ?_
        split <;> exact .ok trivial
      · exact .ok trivial
    · split
      · exact .int _ ht
      · exact .failWith _ ht
  · exact .failWith _ hs

theorem mirrors_callDictMethod (hs : w.Covers s) (hv : w.Shows s v) (m : DictMethod)
    (hargs : w.ShowsAll s args) : w.Mirrors (Evaluator.callDictMethod v m args) s w.Shows := by
  unfold Evaluator.callDictMethod
  split
  · next id key rest =>
    obtain ⟨hkey, hrest⟩ := showsAll_cons.1 hargs
    split
    · exact .failWith _ hs
    · refine .ofStore_bind hs (agrees_lookup? hs hv hkey) fun found hfound => .pure hs ?_
      exact hfound.getD ((hrest.getElem? 0).getD trivial)
  · exact .failWith _ hs
  · exact .new hs (o := .view _ _) hv rfl
  · exact .failWith _ hs

/-! ### Receivers and templates -/

theorem mirrors_callReceiverMethod (hev : w.Guards ev) (hid : id ≠ w.target) (hs : w.Covers s)
    (m : ReceiverMethod) (hargs : w.ShowsAll s args) :
    w.Mirrors (ev.callReceiverMethod id m args) s w.Shows := by
  have hdone : ∀ {x : Action Unit}, w.Mirrors x s (fun _ _ => True) →
      w.Mirrors (x >>= fun _ => pure .none) s w.Shows :=
    fun h => h.bind fun _ t ht _ _ => .pure ht trivial
  unfold Evaluator.callReceiverMethod
  split
  · exact hdone (mirrors_writeApart hev hid hs (showsAll_singleton.1 hargs))
  · exact hdone (mirrors_writeAll hev hid hs (showsAll_singleton.1 hargs))
  · exact hdone (.writeSpace id _ hs)
  · exact hdone (mirrors_writeNested hs fun t ht hle =>
      mirrors_writeApart hev hid ht ((showsAll_singleton.1 hargs).mono hle))
  · exact .look_bind hs (isEmptyReceiver_raise hid) (.pure hs trivial)
  · exact .look_bind hs (by rw [items_raise hid]) (.text _ hs)
  · exact .failWith _ hs
  · exact .look_bind hs (by rw [items_raise hid]) (.text _ hs)
  · refine .look_bind hs (isEmptyReceiver_raise hid) ?_
    split
    · exact .text _ hs
    · exact .failWith _ hs
  · exact .failWith _ hs

theorem mirrors_callReceiver (hev : w.Guards ev) (hid : id ≠ w.target) (hs : w.Covers s)
    (m : ReceiverMethod) (hargs : w.ShowsAll s args) (hnamed : w.ShowsBound s named) :
    w.Mirrors (ev.callReceiver id m args named) s w.Shows := by
  unfold Evaluator.callReceiver
  split
  · exact mirrors_callReceiverMethod hev hid hs m hargs
  · split
    · exact mirrors_callReceiverMethod hev hid hs m
        (showsAll_singleton.2 (showsBound_cons.1 hnamed).1)
    · exact .failWith _ hs
  · exact .failWith _ hs

theorem mirrors_populateValue (hev : w.Guards ev) (hs : w.Covers s) {t : Template}
    (ht : t.IsModest) (hv : w.Shows s v) (hnamed : w.ShowsBound s named) :
    w.Mirrors (ev.populateValue t v named) s w.Shows := by
  unfold Evaluator.populateValue
  split
  · exact (hev.populate hs ht hv hnamed).bind fun _ u hu _ _ => .pure hu hv
  · exact .failWith _ hs

theorem mirrors_callTemplateMethod (hev : w.Guards ev) (hs : w.Covers s) {t : Template}
    (ht : t.IsModest) (m : TemplateMethod) (hargs : w.ShowsAll s args)
    (hnamed : w.ShowsBound s named) :
    w.Mirrors (ev.callTemplateMethod t m args named) s w.Shows := by
  unfold Evaluator.callTemplateMethod
  split
  · refine (Mirrors.newReceiver hs).bind fun id u hu hle hid => ?_
    exact (hev.populate hu ht hid (hnamed.mono hle)).bind fun _ x hx _ _ => .pure hx hid
  · refine (Mirrors.newReceiver hs).bind fun id u hu hle hid => ?_
    refine (hev.populate hu ht hid (hnamed.mono hle)).bind fun _ x hx _ _ => ?_
    exact .look_bind hx (by rw [items_raise hid]) (.text _ hx)
  · exact mirrors_populateValue hev hs ht (showsAll_singleton.1 hargs) hnamed
  · split
    · next v hv => exact mirrors_populateValue hev hs ht (hnamed.lookup _ v hv) (hnamed.filter _)
    · exact .failWith _ hs
  · exact .failWith _ hs

/-! ### Texts -/

theorem mirrors_callTextMethod (hev : w.Guards ev) (hs : w.Covers s) (hv : w.Shows s v)
    (m : TextMethod) (hargs : w.ShowsAll s args) (hnamed : w.ShowsBound s named) :
    w.Mirrors (ev.callTextMethod v m args named) s w.Shows := by
  unfold Evaluator.callTextMethod
  split
  · refine (mirrors_noNames hs named).bind fun _ t ht hle _ => ?_
    split
    · have hitems := mirrors_itemsOf hev ht ((showsAll_singleton.1 hargs).mono hle)
      refine hitems.bind fun items u hu hle' hitems => ?_
      refine (Mirrors.ofExcept (P := fun _ _ => True) hu fun _ _ => trivial).bind
        fun texts x hx hle'' _ => ?_
      split
      · exact .pure hx ((showsAll_singleton.1 hitems).mono hle'')
      · exact (Mirrors.ofExcept (P := fun _ _ => True) hx fun _ _ => trivial).bind
          fun text y hy _ _ => .text _ hy
    · exact .failWith _ ht
  · refine (mirrors_onlyNames hs _ named).bind fun _ t ht hle _ => ?_
    have hargs := hargs.mono hle
    have hnamed := hnamed.mono hle
    refine (mirrors_optionalArgument ht hargs hnamed _ _).bind fun sep u hu hle' _ => ?_
    refine (mirrors_optionalArgument hu (hargs.mono hle') (hnamed.mono hle') _ _).bind
      fun limit x hx hle'' _ => ?_
    split
    · exact .failWith _ hx
    · exact mirrors_make hx (agrees_textMethod _ (hv.mono ((hle.trans hle').trans hle'')) _)
  · refine (mirrors_noNames hs named).bind fun _ t ht hle _ => ?_
    exact mirrors_make ht (agrees_textMethod m (hv.mono hle) args)

/-! ### Calling a value -/

theorem mirrors_callMethodOf (hev : w.Guards ev) (hs : w.Covers s) (hv : w.Shows s v) (m : Method)
    (hargs : w.ShowsAll s args) (hnamed : w.ShowsBound s named) :
    w.Mirrors (ev.callMethodOf v m args named) s w.Shows := by
  unfold Evaluator.callMethodOf
  split
  · exact mirrors_callTextMethod hev hs hv _ hargs hnamed
  · exact (mirrors_noNames hs named).bind fun _ t ht hle _ =>
      mirrors_callListMethod ht (hv.mono hle) _ (hargs.mono hle)
  · exact (mirrors_noNames hs named).bind fun _ t ht hle _ =>
      mirrors_callDictMethod ht (hv.mono hle) _ (hargs.mono hle)
  · exact mirrors_callReceiver hev hv hs _ hargs hnamed
  · refine .look_bind hs (objectOf?_raise _) ?_
    split
    · next t h =>
      exact mirrors_callTemplateMethod hev hs (hs.innocent_of_objectOf? hv h) _ hargs hnamed
    · exact .failWith _ hs
  · exact .failWith _ hs

theorem mirrors_callMethod (hev : w.Guards ev) (hs : w.Covers s) (hv : w.Shows s v) (m : Method)
    (hargs : w.ShowsAll s args) (hnamed : w.ShowsBound s named) :
    w.Mirrors (ev.callMethod v m args named) s w.Shows := by
  unfold Evaluator.callMethod
  split
  · obtain ⟨hself, hargs⟩ := showsAll_cons.1 hargs
    refine .look_bind hs rfl ?_
    split
    · exact mirrors_callMethodOf hev hs hself m hargs hnamed
    · exact .failWith _ hs
  · exact .failWith _ hs
  · exact mirrors_callMethodOf hev hs hv m hargs hnamed

/-- **A value in sight** is called. -/
theorem mirrors_callValue (hev : w.Guards ev) (hs : w.Covers s) (hv : w.Shows s v)
    (hargs : w.ShowsAll s args) (hnamed : w.ShowsBound s named) :
    w.Mirrors (ev.callValue v args named) s w.Shows := by
  have ho := fun o => hs.innocent_of_objectOf? (o := o) hv
  unfold Evaluator.callValue
  refine .look_bind hs (objectOf?_raise _) ?_
  split
  · exact mirrors_callFunction hev hs _ hargs hnamed
  · exact mirrors_makeKind hev hs _ hargs hnamed
  · next h => exact mirrors_callClosure hev hs (ho _ h) hargs hnamed
  · next self m _ _ h =>
    have hself : w.Shows s self := ho _ h
    exact mirrors_callMethod hev hs hself m hargs hnamed
  · next returns _ _ h =>
    have hreturns : w.ShowsIf s returns := ho _ h
    refine (mirrors_noNames hs named).bind fun _ t ht hle _ => ?_
    refine (Mirrors.keepCall ht).bind fun _ u hu hle' _ => .pure hu ?_
    have hle := hle.trans hle'
    refine ShowsIf.getD (fun a ha => ?_) trivial
    rcases Option.or_eq_some_iff.1 ha with ha | ⟨-, ha⟩
    · exact (hreturns a ha).mono hle
    · exact (hargs.head? a ha).mono hle
  · exact .failWith _ hs

end TokenTemplate.Veil
