import TokenTemplate.Evaluation.Call
import TokenTemplate.Proofs.Veil.Iteration

/-!
# Calls behind a veil

A function that a payload has made, one that every payload has, and a kind: calling any of them with
what is in sight mirrors what is hidden, and gives what is in sight.
-/

namespace TokenTemplate.Veil

variable {w : Veil} {s : Store} {v v' : Value} {ev : Evaluator} {args : List Value}
  {named : Bindings}

/-! ### Arguments -/

theorem ShowsBound.filter (h : w.ShowsBound s named) (p : String × Value → Bool) :
    w.ShowsBound s (named.filter p) :=
  fun q hq => h q (List.mem_filter.1 hq).1

theorem ShowsIf.getD {o : Option Value} (h : w.ShowsIf s o) (hv : w.Shows s v) :
    w.Shows s (o.getD v) := by
  cases o with
  | none => exact hv
  | some a => exact h a rfl

theorem ShowsAll.getElem? (h : w.ShowsAll s args) (i : Nat) : w.ShowsIf s args[i]? :=
  fun v hv => h v (List.mem_of_getElem? hv)

theorem ShowsAll.head? (h : w.ShowsAll s args) : w.ShowsIf s args.head? :=
  fun v hv => h v (List.mem_of_head? hv)

theorem mirrors_noNames (hs : w.Covers s) (named : Bindings) :
    w.Mirrors (noNames named) s fun _ _ => True := by
  rw [noNames]
  split
  · exact .pure hs trivial
  · exact .failWith _ hs

theorem mirrors_onlyNames (hs : w.Covers s) (allowed : List String) (named : Bindings) :
    w.Mirrors (onlyNames allowed named) s fun _ _ => True := by
  rw [onlyNames]
  split
  · exact .pure hs trivial
  · exact .failWith _ hs

theorem mirrors_optionalArgument (hs : w.Covers s) (hargs : w.ShowsAll s args)
    (hnamed : w.ShowsBound s named) (position : Nat) (n : String) :
    w.Mirrors (optionalArgument args named position n) s w.ShowsIf := by
  unfold optionalArgument
  split
  · exact .failWith _ hs
  · next v hv _ => exact .pure hs (showsIf_some.2 (hargs.getElem? _ v hv))
  · exact .pure hs (hnamed.lookup n)

theorem mirrors_wholeArgument (hs : w.Covers s) (v : Value) :
    w.Mirrors (wholeArgument v) s fun _ _ => True :=
  .ofExcept hs fun _ _ => trivial

theorem mirrors_choiceArgument (hs : w.Covers s) (v : Value) :
    w.Mirrors (choiceArgument v) s fun _ _ => True := by
  refine (mirrors_wholeArgument hs v).bind fun n t ht _ _ => ?_
  split
  · exact .pure ht trivial
  · exact .failWith _ ht

/-! ### Functions of a payload -/

/-- What fills the parameters of a function is in sight. -/
structure ShowsFilling (w : Veil) (s : Store) (f : Evaluator.Filling) : Prop where
  /-- The arguments by position. -/
  args : w.ShowsAll s f.args
  /-- The arguments by name. -/
  named : w.ShowsBound s f.named
  /-- The values of parameters. -/
  filled : w.ShowsBound s f.filled

theorem mirrors_fill (hs : w.Covers s) {f : Evaluator.Filling} (hf : w.ShowsFilling s f)
    {p : BoundParameter} (hp : w.ShowsIf s p.default) :
    w.Mirrors (Evaluator.fill f p) s w.ShowsFilling := by
  have hmore : ∀ {t v}, w.Precedes s t → w.Shows t v → w.ShowsBound t (f.filled ++ [(p.name, v)]) :=
    fun hle hv => showsBound_append.2 ⟨hf.filled.mono hle, showsBound_cons.2 ⟨hv, showsBound_nil⟩⟩
  unfold Evaluator.fill
  extract_lets byName
  have hbyName : w.Mirrors byName s w.ShowsFilling := by
    dsimp only [byName]
    split
    · next v hv =>
      exact .pure hs ⟨hf.args, hf.named.filter _, hmore (.refl w s) (hf.named.lookup _ v hv)⟩
    · next v _ hv => exact .pure hs ⟨hf.args, hf.named, hmore (.refl w s) (hp v hv)⟩
    · exact .failWith _ hs
  have hargs := hf.args
  split
  · next v args heq =>
    rw [heq] at hargs
    obtain ⟨hv, hargs⟩ := showsAll_cons.1 hargs
    exact .pure hs ⟨hargs, hf.named, hmore (.refl w s) hv⟩
  · split
    · next v hv => exact .pure hs ⟨hf.args, hf.named, hmore (.refl w s) (hp v hv)⟩
    · exact .failWith _ hs
  · next v args heq =>
    rw [heq] at hargs
    obtain ⟨hv, hargs⟩ := showsAll_cons.1 hargs
    split
    · exact .failWith _ hs
    · exact .pure hs ⟨hargs, hf.named, hmore (.refl w s) hv⟩
  · exact hbyName
  · refine (Mirrors.new hs (o := .tuple _) hargs rfl).bind fun v t ht hle hv => .pure ht ?_
    exact ⟨showsAll_nil, hf.named.mono hle, hmore hle hv⟩
  · exact hbyName
  · refine (Mirrors.new hs (o := .dict _) hf.named.entries rfl).bind
      fun v t ht hle hv => .pure ht ?_
    exact ⟨hf.args.mono hle, showsBound_nil, hmore hle hv⟩

/-- **A function of a payload** is called. -/
theorem mirrors_callClosure (hev : w.Guards ev) (hs : w.Covers s)
    {parameters : List BoundParameter} {body : Payload.Expr} {own : List String} {scope : Scope}
    (hclosure : w.Innocent s (.closure parameters body own scope)) (hargs : w.ShowsAll s args)
    (hnamed : w.ShowsBound s named) :
    w.Mirrors (ev.callClosure parameters body own scope args named) s w.Shows := by
  obtain ⟨hdefaults, free, around, hsuits, hbody⟩ := hclosure
  refine (Mirrors.foldlM (P := w.ShowsFilling) hs ⟨hargs, hnamed, showsBound_nil⟩
    fun f p hp t ht hle hf => ?_).bind fun f t ht hle hf => ?_
  · exact mirrors_fill ht hf ((hdefaults p hp).mono hle)
  · split
    · exact .failWith _ ht
    · refine (mirrors_enter ht (hsuits.mono hle) own false).bind fun inner u hu hle' hinner => ?_
      refine (Mirrors.forM hu fun p hp x hx hle'' => ?_).bind fun _ x hx hle'' _ => ?_
      · exact mirrors_bindHere hx (hinner.mono hle'') p.1
          ((hf.filled p hp).mono (hle'.trans hle''))
      · exact hev.eval hx (hinner.mono hle'') hbody

/-! ### Functions over items -/

theorem mirrors_someItem (hev : w.Guards ev) (hs : w.Covers s) (wanted : Bool)
    (hv : w.Shows s v) : w.Mirrors (ev.someItem wanted v) s fun _ _ => True := by
  refine (mirrors_iterate hs hv).bind fun id t ht _ hid => ?_
  refine mirrors_loop hev (I := fun _ _ => True) hid (fun _ _ => trivial) ?_ ht trivial
  intro _ item u hu _ _ hitem
  split
  · exact .pure hu trivial
  · refine .look_bind hu (truth_raise (hitem _ rfl)) ?_
    split <;> exact .pure hu trivial

theorem mirrors_withKey (hev : w.Guards ev) (hs : w.Covers s) {key : Value} (hkey : w.Shows s key)
    (hv : w.Shows s v) :
    w.Mirrors (ev.withKey key v) s fun t p => w.Shows t p.1 ∧ w.Shows t p.2 := by
  unfold Evaluator.withKey
  split
  · exact .pure hs ⟨hv, hv⟩
  · exact (hev.call hs hkey (showsAll_singleton.2 hv) showsBound_nil).bind
      fun a t ht hle ha => .pure ht ⟨ha, hv.mono hle⟩

theorem mirrors_extreme (hev : w.Guards ev) (hs : w.Covers s) (op : Payload.CompareOp) {key : Value}
    (hkey : w.Shows s key) (hv : w.Shows s v) : w.Mirrors (ev.extreme op key v) s w.ShowsIf := by
  let I : Store → Option (Value × Value) → Prop := fun t best =>
    ∀ p, best = some p → w.Shows t p.1 ∧ w.Shows t p.2
  have hsome : ∀ {t p}, w.Shows t p.1 ∧ w.Shows t p.2 → I t (some p) :=
    fun h q hq => Option.some.inj hq ▸ h
  refine (mirrors_iterate hs hv).bind fun id t ht hle hid => ?_
  refine Mirrors.bind (P := I) (mirrors_loop hev (I := I) hid ?_ ?_ ht ?_) ?_
  · exact fun h hle p hp => ⟨(h p hp).1.mono hle, (h p hp).2.mono hle⟩
  · intro best item u hu hle' hbest hitem
    split
    · exact .pure hu hbest
    · next v =>
      refine (mirrors_withKey hev hu (hkey.mono (hle.trans hle')) (hitem v rfl)).bind
        fun x y hy hle'' hx => ?_
      split
      · exact .pure hy (hsome hx)
      · next q =>
        have hq := hbest q rfl
        have hq : w.Shows y q.1 ∧ w.Shows y q.2 := ⟨hq.1.mono hle'', hq.2.mono hle''⟩
        refine .ofStore_bind hy (.of_eq (ordered_raise hy op _ _ hx.1 hq.1)) fun b _ => ?_
        split
        · exact .pure hy (hsome hx)
        · exact .pure hy (hsome hq)
  · exact fun p hp => absurd hp.symm (Option.some_ne_none p)
  · intro best u hu _ hbest
    refine .pure hu fun a ha => ?_
    obtain ⟨p, hp, rfl⟩ := Option.map_eq_some_iff.1 ha
    exact (hbest p hp).2

theorem mirrors_extremeOf (hev : w.Guards ev) (hs : w.Covers s) (op : Payload.CompareOp)
    (hargs : w.ShowsAll s args) (hnamed : w.ShowsBound s named) :
    w.Mirrors (ev.extremeOf op args named) s w.Shows := by
  have hkey : w.Shows s ((named.lookup "key").getD .none) := (hnamed.lookup "key").getD trivial
  refine (mirrors_onlyNames hs _ named).bind fun _ t ht hle _ => ?_
  have hkey := hkey.mono hle
  split
  · exact .failWith _ ht
  · next v =>
    have hv := (showsAll_singleton.1 hargs).mono hle
    refine (mirrors_extreme hev ht op hkey hv).bind fun best u hu hle' hbest => ?_
    split
    · exact .pure hu (hbest _ rfl)
    · next d hd => exact .pure hu ((hnamed.lookup _ d hd).mono (hle.trans hle'))
    · exact .failWith _ hu
  · split
    · exact .failWith _ ht
    · refine (Mirrors.new ht (o := .tuple _) (hargs.mono hle) rfl).bind fun v u hu hle' hv => ?_
      refine (mirrors_extreme hev hu op (hkey.mono hle') hv).bind fun best x hx _ hbest => ?_
      split
      · exact .pure hx (hbest _ rfl)
      · exact .failWith _ hx

theorem mirrors_sortItems (hev : w.Guards ev) (hs : w.Covers s) (hargs : w.ShowsAll s args)
    (hnamed : w.ShowsBound s named) : w.Mirrors (ev.sortItems args named) s w.Shows := by
  have hkey : w.Shows s ((named.lookup "key").getD .none) := (hnamed.lookup "key").getD trivial
  refine (mirrors_onlyNames hs _ named).bind fun _ t ht hle _ => ?_
  have hkey := hkey.mono hle
  split
  · next v =>
    have hv := (showsAll_singleton.1 hargs).mono hle
    refine (mirrors_itemsOf hev ht hv).bind fun items u hu hle' hitems => ?_
    have hkey := hkey.mono hle'
    extract_lets finish
    -- the direction is known
    have hfinish : ∀ descending x, w.Covers x → w.Precedes u x →
        w.Mirrors (finish descending) x w.Shows := by
      intro descending x hx hle''
      refine (Mirrors.mapM (P := fun t (p : Value × Value) => w.Shows t p.1 ∧ w.Shows t p.2) hx
        (fun h hle => ⟨h.1.mono hle, h.2.mono hle⟩) fun a ha y hy hle₃ =>
          mirrors_withKey hev hy (hkey.mono (hle''.trans hle₃))
            ((hitems a ha).mono (hle''.trans hle₃))).bind fun keyed y hy hle₃ hkeyed => ?_
      have hrow : w.ShowsEntries y (if descending then keyed.reverse else keyed) := by
        split
        · exact fun p hp => hkeyed p (List.mem_reverse.1 hp)
        · exact hkeyed
      refine .ofStore_bind hy (agrees_sortByKey hy hrow) fun sorted hsorted => ?_
      refine .new hy (o := .list _) (fun a ha => ?_) rfl
      rw [List.toList_toArray] at ha
      obtain ⟨p, hp, rfl⟩ := List.mem_map.1 ha
      split at hp
      · exact (hsorted p (List.mem_reverse.1 hp)).2
      · exact (hsorted p hp).2
    split
    · exact (Mirrors.pure (P := fun _ _ => True) hu trivial).bind
        fun descending x hx hle'' _ => hfinish descending x hx hle''
    · exact ((mirrors_choiceArgument hu _).map (Q := fun _ _ => True) fun _ _ _ => trivial).bind
        fun descending x hx hle'' _ => hfinish descending x hx hle''
  · exact .failWith _ ht

theorem mirrors_sumItems (hev : w.Guards ev) (hs : w.Covers s) (hargs : w.ShowsAll s args)
    (hnamed : w.ShowsBound s named) : w.Mirrors (ev.sumItems args named) s w.Shows := by
  refine (mirrors_onlyNames hs _ named).bind fun _ t ht hle _ => ?_
  split
  · next v rest =>
    have hargs := hargs.mono hle
    split
    · exact .failWith _ ht
    · refine (mirrors_optionalArgument ht hargs (hnamed.mono hle) 1 "start").bind
        fun start u hu hle' hstart => ?_
      have hstart : w.Shows u (start.getD (.ofInt 0)) := hstart.getD trivial
      refine (mirrors_iterate hu ((showsAll_cons.1 hargs).1.mono hle')).bind
        fun id x hx hle'' hid => ?_
      have hstart := hstart.mono hle''
      split
      · exact .failWith _ hx
      · next heq _ =>
        refine mirrors_loop hev (I := w.Shows) hid Shows.mono ?_ hx hstart
        intro total item y hy _ htotal hitem
        split
        · exact .pure hy htotal
        · exact (mirrors_make hy (agrees_binary hy .add htotal (hitem _ rfl))).bind
            fun a z hz _ ha => .pure hz ha
  · exact .failWith _ ht

theorem isOfKind_raise (v : Value) (fuel : Nat) :
    Evaluator.isOfKind (w.raise s) v fuel = Evaluator.isOfKind s v fuel := by
  induction fuel with
  | zero => rfl
  | succ fuel ih =>
    funext k
    unfold Evaluator.isOfKind
    simp only [objectOf?_raise, kindOf_raise, ih]

theorem isCallable_raise (v : Value) : Evaluator.isCallable (w.raise s) v = Evaluator.isCallable s v := by
  unfold Evaluator.isCallable
  simp only [objectOf?_raise]

/-- **A function that every payload has** is called. -/
theorem mirrors_callFunction (hev : w.Guards ev) (hs : w.Covers s) (f : Function)
    (hargs : w.ShowsAll s args) (hnamed : w.ShowsBound s named) :
    w.Mirrors (ev.callFunction f args named) s w.Shows := by
  unfold Evaluator.callFunction
  split
  · exact mirrors_extremeOf hev hs _ hargs hnamed
  · exact mirrors_extremeOf hev hs _ hargs hnamed
  · exact mirrors_sortItems hev hs hargs hnamed
  · exact mirrors_sumItems hev hs hargs hnamed
  -- the other ones take no names; the cases are those of the table
  · refine (mirrors_noNames hs named).bind fun _ t ht hle _ => ?_
    have hargs := hargs.mono hle
    split
    · have hv := showsAll_singleton.1 hargs
      split
      · split
        · exact .int _ ht
        · exact .pure ht hv
      · exact .real _ ht
      · exact .int _ ht
      · exact .real _ ht
      · exact .failWith _ ht
    · exact (mirrors_someItem hev ht _ (showsAll_singleton.1 hargs)).bind
        fun _ u hu _ _ => .pure hu trivial
    · exact (mirrors_someItem hev ht _ (showsAll_singleton.1 hargs)).bind
        fun _ u hu _ _ => .pure hu trivial
    · next v k =>
      refine .ofStore_bind ht (.of_eq ?_) fun _ _ => .pure ht trivial
      rw [isOfKind_raise]
      rfl
    · exact (mirrors_iterate ht (showsAll_singleton.1 hargs)).bind
        fun id u hu _ hid => .pure hu hid
    · next g stop _ _ _ _ _ =>
      obtain ⟨hf, hstop⟩ := showsAll_cons.1 hargs
      refine .look_bind ht (isCallable_raise g) ?_
      split
      · exact .new ht (o := .iterator _) (show w.Pending t (.calls g stop) from
          ⟨hf, showsAll_singleton.1 hstop⟩) rfl
      · exact .failWith _ ht
    · refine .look_bind ht (length?_raise (showsAll_singleton.1 hargs)) ?_
      split
      · split
        · exact .int _ ht
        · exact .failWith _ ht
      · exact .failWith _ ht
    · next v rest =>
      obtain ⟨hv, hrest⟩ := showsAll_cons.1 hargs
      refine .look_bind ht (objectOf?_raise _) ?_
      split
      · exact .failWith _ ht
      · next id _ _ _ =>
        refine (hev.next ht hv).bind fun item u hu hle' hitem => ?_
        split
        · exact .pure hu (hitem _ rfl)
        · next d hd => exact .pure hu ((hrest.head? d hd).mono hle')
        · exact .failWith _ hu
      · exact .failWith _ ht
    · exact .ofStore_bind ht (.of_eq (shown_raise ht (showsAll_singleton.1 hargs)))
        fun t' _ => .text t' ht
    · exact .failWith _ ht

/-! ### Kinds -/

theorem mirrors_makeWhole (hs : w.Covers s) (hargs : w.ShowsAll s args) :
    w.Mirrors (Evaluator.makeWhole args) s w.Shows := by
  unfold Evaluator.makeWhole
  split
  · exact .int 0 hs
  · split
    · exact .int _ hs
    · exact .failWith _ hs
  · refine (mirrors_wholeArgument hs _).bind fun base t ht _ _ => ?_
    split
    · exact .failWith _ ht
    · split
      · split
        · exact .int _ ht
        · exact .failWith _ ht
      · exact .failWith _ ht
  · split
    · exact .pure hs (showsAll_singleton.1 hargs)
    · exact .int _ hs
    · exact (Mirrors.ofExcept (P := fun _ _ => True) hs fun _ _ => trivial).bind
        fun n t ht _ _ => .int n ht
    · exact .failWith _ hs
  · exact .failWith _ hs

theorem mirrors_makeReal (hs : w.Covers s) (hargs : w.ShowsAll s args) :
    w.Mirrors (Evaluator.makeReal args) s w.Shows := by
  unfold Evaluator.makeReal
  split
  · exact .real 0 hs
  · split
    · exact .real _ hs
    · exact .failWith _ hs
  · split
    · exact .pure hs (showsAll_singleton.1 hargs)
    · exact (Mirrors.ofExcept (P := fun _ _ => True) hs fun _ _ => trivial).bind
        fun x t ht _ _ => .real x ht
    · exact .failWith _ hs
  · exact .failWith _ hs

theorem mirrors_makeDict (hev : w.Guards ev) (hs : w.Covers s) (hargs : w.ShowsAll s args)
    (hnamed : w.ShowsBound s named) : w.Mirrors (ev.makeDict args named) s w.Shows := by
  unfold Evaluator.makeDict
  extract_lets finish
  -- the entries of the argument are known
  have hfinish : ∀ base t, w.Covers t → w.Precedes s t → w.ShowsEntries t base →
      w.Mirrors (finish base) t w.Shows := by
    intro base t ht hle hbase
    refine (Mirrors.foldlM (P := w.ShowsEntries) ht hbase fun d p hp u hu hle' hd => ?_).bind
      fun entries u hu _ hentries => .new hu (o := .dict _) hentries rfl
    have hkey : w.Shows u (.ofText p.1) := trivial
    exact .ofStore hu (agrees_setEntry hu hkey ((hnamed p hp).mono (hle.trans hle')) hd)
      fun _ => id
  have hnil : ∀ t : Store, w.ShowsEntries t [] := fun t p hp => absurd hp List.not_mem_nil
  split
  · exact (Mirrors.pure hs (hnil s)).bind hfinish
  · next v =>
    have hv := showsAll_singleton.1 hargs
    refine .look_bind hs (objectOf?_raise _) ?_
    split
    · next entries h =>
      have hentries : w.ShowsEntries s entries := hs.innocent_of_objectOf? hv h
      exact (Mirrors.pure hs hentries).bind hfinish
    -- otherwise the argument is a row of pairs
    · refine (mirrors_itemsOf hev hs hv).bind fun items t ht hle hitems => ?_
      refine (Mirrors.foldlM (P := w.ShowsEntries) ht (hnil t)
        fun d item hitem u hu hle' hd => ?_).bind
          fun base u hu hle' hbase => hfinish base u hu (hle.trans hle') hbase
      refine (mirrors_itemsOf hev hu ((hitems item hitem).mono hle')).bind
        fun parts x hx hle'' hparts => ?_
      split
      · next k a =>
        obtain ⟨hk, ha⟩ := showsAll_cons.1 hparts
        refine .ofStore_bind hx (.of_eq (needsKey_raise k)) fun _ _ => ?_
        exact .ofStore hx (agrees_setEntry hx hk (showsAll_singleton.1 ha) (hd.mono hle''))
          fun _ => id
      · exact .failWith _ hx
  · exact (Mirrors.failWith _ hs (P := w.ShowsEntries)).bind hfinish

theorem mirrors_makeRange (hs : w.Covers s) (args : List Value) :
    w.Mirrors (Evaluator.makeRange args) s w.Shows := by
  refine (Mirrors.mapM (P := fun _ _ => True) hs (fun _ _ => trivial) fun a _ t ht _ =>
    mirrors_wholeArgument ht a).bind fun ns t ht _ _ => ?_
  split
  · exact .made ht trivial
  · exact .made ht trivial
  · split
    · exact .failWith _ ht
    · exact .made ht trivial
  · exact .failWith _ ht

theorem isSequence_raise (v : Value) : (w.raise s).isSequence v = s.isSequence v := by
  unfold Store.isSequence
  simp only [objectOf?_raise]

theorem mirrors_makeReversed (hs : w.Covers s) (hv : w.Shows s v) :
    w.Mirrors (Evaluator.makeReversed v) s w.Shows := by
  have ho := fun o => hs.innocent_of_objectOf? (o := o) hv
  unfold Evaluator.makeReversed
  extract_lets row
  have hrow : ∀ k items t, w.Covers t → w.ShowsAll t items →
      w.Mirrors (row k items) t w.Shows := fun k items t ht hitems =>
    .new ht (o := .iterator (.row k items.reverse))
      (fun a ha => hitems a (List.mem_reverse.1 ha)) rfl
  refine .look_bind hs (objectOf?_raise _) ?_
  split
  · exact (Mirrors.mapM (P := w.Shows) hs Shows.mono fun c _ t ht _ => .text _ ht).bind
      fun items t ht _ hitems => hrow _ _ t ht hitems
  · next h => exact hrow _ _ s hs (ho _ h)
  · next entries _ h =>
    refine hrow _ _ s hs fun a ha => ?_
    obtain ⟨p, hp, rfl⟩ := List.mem_map.1 ha
    exact ((ho _ h : w.ShowsEntries s entries) p hp).1
  · next part dict _ h =>
    refine .look_bind hs rfl ?_
    have hentries := hs.shows_entries (ho _ h : w.Shows s (.object dict))
    exact (Mirrors.mapM (P := w.Shows) hs Shows.mono fun p hp t ht hle =>
      mirrors_entryItem ht part ⟨(hentries p hp).1.mono hle, (hentries p hp).2.mono hle⟩).bind
        fun items t ht _ hitems => hrow _ _ t ht hitems
  · refine .look_bind hs (isSequence_raise _) ?_
    split
    · refine .look_bind hs (length?_raise hv) ?_
      exact .new hs (o := .iterator (.backward _ _)) hv rfl
    · exact .failWith _ hs

theorem mirrors_textOfValue (hs : w.Covers s) (hv : w.Shows s v) :
    w.Mirrors (Evaluator.textOfValue v) s w.Shows := by
  unfold Evaluator.textOfValue
  split
  · exact .pure hs trivial
  · exact .ofStore_bind hs (.of_eq (textOf_raise hs hv)) fun t _ => .text t hs

/-- **A value of a kind** is made. -/
theorem mirrors_makeKind (hev : w.Guards ev) (hs : w.Covers s) (k : Kind)
    (hargs : w.ShowsAll s args) (hnamed : w.ShowsBound s named) :
    w.Mirrors (ev.makeKind k args named) s w.Shows := by
  unfold Evaluator.makeKind
  split
  · exact mirrors_makeDict hev hs hargs hnamed
  · refine (mirrors_onlyNames hs _ named).bind fun _ t ht hle _ => ?_
    have hargs := hargs.mono hle
    have hnamed := hnamed.mono hle
    refine (mirrors_optionalArgument ht hargs hnamed _ _).bind fun start u hu hle' hstart => ?_
    refine (mirrors_optionalArgument hu (hargs.mono hle') (hnamed.mono hle') _ _).bind
      fun items x hx hle'' hitems => ?_
    split
    · next v _ =>
      refine (mirrors_wholeArgument hx _).bind fun count y hy hle₃ _ => ?_
      refine (mirrors_iterate hy ((hitems v rfl).mono hle₃)).bind fun id z hz _ hid => ?_
      exact .new hz (o := .iterator (.numbered _ _)) hid rfl
    · exact .failWith _ hx
  · refine (mirrors_onlyNames hs _ named).bind fun _ t ht hle _ => ?_
    split
    · exact .text _ ht
    · exact mirrors_textOfValue ht ((showsAll_singleton.1 hargs).mono hle)
    · exact mirrors_textOfValue ht ((showsBound_cons.1 hnamed).1.mono hle)
    · exact .failWith _ ht
  -- a whole number takes its base by position or by name
  · split
    · exact mirrors_makeWhole hs hargs
    · refine mirrors_makeWhole hs ?_
      obtain ⟨hv, hargs⟩ := showsAll_cons.1 hargs
      refine showsAll_cons.2 ⟨hv, showsAll_append.2 ⟨hargs, ?_⟩⟩
      exact showsAll_singleton.2 (showsBound_cons.1 hnamed).1
    · exact .failWith _ hs
  · refine (mirrors_onlyNames hs _ named).bind fun _ t ht hle _ => ?_
    have hargs := hargs.mono hle
    -- iterators that go side by side, whether or not they have to end together
    have hzip : ∀ together u, w.Covers u → w.Precedes t u →
        w.Mirrors (args.mapM Action.iterate >>= fun its =>
          Action.new (.iterator (.parallel its together))) u w.Shows := by
      intro together u hu hle'
      refine (Mirrors.mapM (P := fun t id => w.Shows t (.object id)) hu Shows.mono
        fun a ha x hx hle'' => mirrors_iterate hx ((hargs a ha).mono (hle'.trans hle''))).bind
          fun its x hx _ hits => ?_
      exact .new hx (o := .iterator (.parallel its together)) hits rfl
    split
    · next v hv =>
      refine .look_bind ht (truth_raise ((hnamed.lookup _ v hv).mono hle)) ?_
      exact hzip _ t ht (.refl w t)
    · exact (Mirrors.pure (P := fun _ _ => True) ht trivial).bind
        fun together u hu hle' _ => hzip together u hu hle'
  -- the other kinds take no names
  · refine (mirrors_noNames hs named).bind fun _ t ht hle _ => ?_
    have hargs := hargs.mono hle
    split
    · exact .pure ht trivial
    · exact .look_bind ht (truth_raise (showsAll_singleton.1 hargs)) (.pure ht trivial)
    · exact mirrors_makeReal ht hargs
    · exact .new ht (o := .list _) showsAll_nil rfl
    · refine (mirrors_itemsOf hev ht (showsAll_singleton.1 hargs)).bind
        fun items u hu _ hitems => .new hu (o := .list _) (fun a ha => hitems a ?_) rfl
      rwa [List.toList_toArray] at ha
    · exact .new ht (o := .tuple _) showsAll_nil rfl
    · refine .look_bind ht (objectOf?_raise _) ?_
      split
      · exact .pure ht (showsAll_singleton.1 hargs)
      · exact (mirrors_itemsOf hev ht (showsAll_singleton.1 hargs)).bind
          fun items u hu _ hitems => .new hu (o := .tuple _) hitems rfl
    · exact .new ht (o := .set _) all_empty rfl
    · exact (mirrors_addAll hev ht all_empty (showsAll_singleton.1 hargs)).bind
        fun table u hu _ htable => .new hu (o := .set _) htable rfl
    · exact mirrors_makeRange ht args
    · exact mirrors_makeReversed ht (showsAll_singleton.1 hargs)
    · exact .look_bind ht rfl (.pure ht trivial)
    · exact .failWith _ ht

end TokenTemplate.Veil
