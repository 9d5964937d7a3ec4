import TokenTemplate.Evaluation.Expression
import TokenTemplate.Proofs.Veil.Method

/-!
# Expressions behind a veil

An expression that keeps to names which suit its scope has a value in sight, and evaluating it mirrors
what is hidden: `TokenTemplate.Veil.mirrors_evalExpr`. There is one case for each rule of
`TokenTemplate.Payload.Expr.KeepsTo`.
-/

namespace TokenTemplate.Veil

variable {w : Veil} {s : Store} {v v' : Value} {ev : Evaluator} {sc : Scope} {free : String → Prop}
  {own : Option (List String)}

/-! ### Displays -/

theorem mirrors_evalItems (hev : w.Guards ev) {items : List Payload.Expr}
    (hitems : ∀ e ∈ items, e.KeepsTo free own) (hs : w.Covers s) (hsc : w.Suits s sc free own) :
    w.Mirrors (ev.evalItems sc items) s w.ShowsAll := by
  induction items generalizing s with
  | nil => exact .pure hs showsAll_nil
  | cons e items ih =>
    obtain ⟨he, hrest⟩ := List.forall_mem_cons.1 hitems
    unfold Evaluator.evalItems
    split
    · next heq => exact nomatch heq
    · next e' items' heq =>
      obtain ⟨rfl, rfl⟩ := List.cons.inj heq
      cases he with
      | starred he =>
        refine (hev.eval hs hsc he).bind fun a t ht hle ha => ?_
        refine (mirrors_itemsOf hev ht ha).bind fun vs u hu hle' hvs => ?_
        refine (ih hrest hu (hsc.mono (hle.trans hle'))).bind fun more x hx hle'' hmore => .pure hx ?_
        exact showsAll_append.2 ⟨hvs.mono hle'', hmore⟩
    · next e' items' _ heq =>
      obtain ⟨rfl, rfl⟩ := List.cons.inj heq
      refine (hev.eval hs hsc he).bind fun a t ht hle ha => ?_
      refine (ih hrest ht (hsc.mono hle)).bind fun more u hu hle' hmore => .pure hu ?_
      exact showsAll_cons.2 ⟨ha.mono hle', hmore⟩

theorem mirrors_evalSet (hev : w.Guards ev) {items : List Payload.Expr}
    (hitems : ∀ e ∈ items, e.KeepsTo free own) (hs : w.Covers s) (hsc : w.Suits s sc free own) :
    w.Mirrors (ev.evalSet sc items) s fun t table => table.All (w.Shows t) := by
  have hplain : ∀ e ∈ items.takeWhile fun e => !e.isStarred, e.KeepsTo free own :=
    fun e he => hitems e ((List.takeWhile_sublist _).subset he)
  refine (mirrors_evalItems hev hplain hs hsc).bind fun vs t ht hle hvs => ?_
  refine .ofStore_bind ht (agrees_addItems ht all_empty hvs) fun table htable => ?_
  refine .foldlM ht htable fun table e he u hu hle' htable => ?_
  have he := hitems e (List.mem_of_mem_drop he)
  have hsc := hsc.mono (hle.trans hle')
  split
  · cases he with
    | starred he =>
      exact (hev.eval hu hsc he).bind fun a x hx hle'' ha =>
        mirrors_addAll hev hx (ShowsAll.mono htable hle'') ha
  · exact (hev.eval hu hsc he).bind fun a x hx hle'' ha =>
      .ofStore hx (agrees_addItem hx (ShowsAll.mono htable hle'') ha) fun _ => id

theorem mirrors_evalEntries (hev : w.Guards ev) {entries : List Payload.Entry}
    (hkey : ∀ k v, .pair k v ∈ entries → k.KeepsTo free own)
    (hvalue : ∀ k v, .pair k v ∈ entries → v.KeepsTo free own)
    (hspread : ∀ e, .spread e ∈ entries → e.KeepsTo free own) (hs : w.Covers s)
    (hsc : w.Suits s sc free own) {d : List (Value × Value)} (hd : w.ShowsEntries s d) :
    w.Mirrors (ev.evalEntries sc entries d) s w.ShowsEntries := by
  induction entries generalizing s d with
  | nil => exact .pure hs hd
  | cons entry entries ih =>
    have ih := fun {t d} => ih (s := t) (d := d) (fun k v h => hkey k v (List.mem_cons_of_mem _ h))
      (fun k v h => hvalue k v (List.mem_cons_of_mem _ h))
      (fun e h => hspread e (List.mem_cons_of_mem _ h))
    cases entry with
    | pair k e =>
      refine (hev.eval hs hsc (hkey k e List.mem_cons_self)).bind fun key t ht hle hk => ?_
      have hsc := hsc.mono hle
      refine (hev.eval ht hsc (hvalue k e List.mem_cons_self)).bind fun a u hu hle' ha => ?_
      have hk := hk.mono hle'
      refine .ofStore_bind hu (.of_eq (needsKey_raise key)) fun _ _ => ?_
      refine .ofStore_bind hu (agrees_setEntry hu hk ha (hd.mono (hle.trans hle'))) fun d hd => ?_
      exact ih hu (hsc.mono hle') hd
    | spread e =>
      refine (hev.eval hs hsc (hspread e List.mem_cons_self)).bind fun a t ht hle ha => ?_
      refine .look_bind ht (objectOf?_raise _) ?_
      split
      · next more h =>
        have hmore : w.ShowsEntries t more := ht.innocent_of_objectOf? ha h
        refine .ofStore_bind ht (Agrees.foldlM (Q := w.ShowsEntries t) (hd.mono hle)
          fun d p hp hd => agrees_setEntry ht (hmore p hp).1 (hmore p hp).2 hd) fun d hd => ?_
        exact ih ht (hsc.mono hle) hd
      · exact .failWith _ ht

theorem mirrors_evalBound (hev : w.Guards ev) {e : Option Payload.Expr}
    (he : ∀ x, e = some x → x.KeepsTo free own) (hs : w.Covers s) (hsc : w.Suits s sc free own) :
    w.Mirrors (ev.evalBound sc e) s w.Shows := by
  cases e with
  | none => exact .pure hs trivial
  | some e => exact hev.eval hs hsc (he e rfl)

/-! ### Comparisons -/

theorem mirrors_compareValues (hev : w.Guards ev) (hs : w.Covers s) (op : Payload.CompareOp)
    (hv : w.Shows s v) (hv' : w.Shows s v') :
    w.Mirrors (ev.compareValues op v v') s fun _ _ => True := by
  have hequal := equal_raise hs v v' hv hv'
  unfold Evaluator.compareValues
  split
  · exact .ofStore hs (.of_eq hequal) fun _ => id
  · exact .ofStore hs (.of_eq (congrArg _ hequal)) fun _ => id
  · exact mirrors_contains hev hs hv' hv
  · exact (mirrors_contains hev hs hv' hv).map fun _ _ _ => trivial
  · exact .look hs (same_raise v v') trivial
  · exact .look hs (congrArg _ (same_raise v v')) trivial
  · exact .ofStore hs (.of_eq (ordered_raise hs op v v' hv hv')) fun _ => id

theorem mirrors_compareOperands (hev : w.Guards ev) (hs : w.Covers s) (op : Payload.CompareOp)
    (left right : Payload.Expr) (hv : w.Shows s v) (hv' : w.Shows s v') :
    w.Mirrors (ev.compareOperands op left right v v') s fun _ _ => True := by
  unfold Evaluator.compareOperands
  split
  · exact .look hs (alike_raise v v') trivial
  · exact .look hs (congrArg _ (alike_raise v v')) trivial
  · exact mirrors_compareValues hev hs _ hv hv'

theorem mirrors_evalChain (hev : w.Guards ev) {left : Payload.Expr}
    {rest : List (Payload.CompareOp × Payload.Expr)}
    (hrest : ∀ op e, (op, e) ∈ rest → e.KeepsTo free own) (hs : w.Covers s)
    (hsc : w.Suits s sc free own) (hv : w.Shows s v) :
    w.Mirrors (ev.evalChain sc left v rest) s w.Shows := by
  induction rest generalizing s left v with
  | nil => exact .pure hs trivial
  | cons p rest ih =>
    obtain ⟨op, e⟩ := p
    rw [Evaluator.evalChain]
    refine (hev.eval hs hsc (hrest op e List.mem_cons_self)).bind fun a t ht hle ha => ?_
    refine (mirrors_compareOperands hev ht op left e (hv.mono hle) ha).bind
      fun holds u hu hle' _ => ?_
    split
    · exact ih (fun op e h => hrest op e (List.mem_cons_of_mem _ h)) hu
        (hsc.mono (hle.trans hle')) (ha.mono hle')
    · exact .pure hu trivial

/-! ### Elements and attributes -/

theorem positionError_raise (v : Value) (n : Int) :
    (w.raise s).positionError v n = s.positionError v n := by
  unfold Store.positionError
  simp only [objectOf?_raise]

theorem mirrors_elementAt (hs : w.Covers s) (hv : w.Shows s v) {i : Value} (hi : w.Shows s i) :
    w.Mirrors (Evaluator.elementAt v i) s w.Shows := by
  unfold Evaluator.elementAt
  refine .look_bind hs (objectOf?_raise _) ?_
  split
  · refine .ofStore_bind hs (agrees_lookup? hs hv hi) fun found hfound => ?_
    split
    · exact .pure hs (hfound _ rfl)
    · exact .ofStore_bind hs (.of_eq (keyError_raise hs hi)) fun e _ => .fail e hs
  · refine .look_bind hs (isSequence_raise _) ?_
    split
    · exact .failWith _ hs
    · refine .look_bind hs (objectOf?_raise _) ?_
      split
      · next n _ =>
        refine .look_bind hs (length?_raise hv) ?_
        refine .look_bind hs (congrArg _ (funext (element?_raise hv))) ?_
        · split
          · next a ha =>
            obtain ⟨p, -, ha⟩ := Option.bind_eq_some_iff.1 ha
            exact mirrors_givenBy hs _ (hs.shows_element? hv p a ha)
          · exact .look_bind hs (positionError_raise _ _) (.fail _ hs)
      · exact mirrors_make hs (agrees_slice hs hv _ _ _)
      · exact .failWith _ hs

theorem shows_numberAttribute? (hv : w.Shows s v) (n : String) :
    w.ShowsIf s (Evaluator.numberAttribute? v n) := by
  unfold Evaluator.numberAttribute?
  split
  all_goals first
    | exact showsIf_some.2 hv
    | exact showsIf_some.2 trivial
    | exact showsIf_none

/-- **An attribute of a value in sight.** -/
theorem mirrors_attributeOf (hs : w.Covers s) (hv : w.Shows s v) (n : String) :
    w.Mirrors (Evaluator.attributeOf v n) s w.Shows := by
  unfold Evaluator.attributeOf
  refine .look_bind hs (objectOf?_raise _) ?_
  split
  · exact absurd rfl hv
  · split
    · exact .pure hs trivial
    · exact .pure hs trivial
    · exact .failWith _ hs
  · next fields _ _ h =>
    have hfields : w.ShowsBound s fields := hs.innocent_of_objectOf? hv h
    split
    · next a ha => exact .pure hs (hfields.lookup n a ha)
    · exact .failWith _ hs
  · split
    · exact .pure hs trivial
    · exact .pure hs trivial
    · split
      · exact .new hs (o := .method _ _) hv rfl
      · exact .failWith _ hs
  · have hmethod : ∀ u, Evaluator.methodOf? (w.raise s) u n = Evaluator.methodOf? s u n := fun u => by
      unfold Evaluator.methodOf?
      simp only [objectOf?_raise]
    refine .look_bind hs (hmethod _) ?_
    split
    · next a h => exact .made hs (shows_numberAttribute? hv n a h)
    · exact .new hs (o := .method _ _) hv rfl
    · exact .failWith _ hs

/-! ### Calls and functions -/

theorem mirrors_evalArguments (hev : w.Guards ev) {arguments : List Payload.Argument}
    (hpositional : ∀ e, .positional e ∈ arguments → e.KeepsTo free own)
    (hkeyword : ∀ n e, .keyword n e ∈ arguments → e.KeepsTo free own)
    (hspread : ∀ e, .spread e ∈ arguments → e.KeepsTo free own) (hs : w.Covers s)
    (hsc : w.Suits s sc free own) :
    w.Mirrors (ev.evalArguments sc arguments) s fun t p =>
      w.ShowsAll t p.1 ∧ w.ShowsBound t p.2 := by
  induction arguments generalizing s with
  | nil => exact .pure hs ⟨showsAll_nil, showsBound_nil⟩
  | cons argument arguments ih =>
    have ih := fun {t} => ih (s := t) (fun e h => hpositional e (List.mem_cons_of_mem _ h))
      (fun n e h => hkeyword n e (List.mem_cons_of_mem _ h))
      (fun e h => hspread e (List.mem_cons_of_mem _ h))
    cases argument with
    | positional e =>
      have he : ∀ x ∈ [e], x.KeepsTo free own :=
        List.forall_mem_singleton.2 (hpositional e List.mem_cons_self)
      refine (mirrors_evalItems hev he hs hsc).bind fun vs t ht hle hvs => ?_
      refine (ih ht (hsc.mono hle)).bind fun p u hu hle' hp => .pure hu ?_
      exact ⟨showsAll_append.2 ⟨hvs.mono hle', hp.1⟩, hp.2⟩
    | keyword n e =>
      refine (hev.eval hs hsc (hkeyword n e List.mem_cons_self)).bind fun a t ht hle ha => ?_
      refine (ih ht (hsc.mono hle)).bind fun p u hu hle' hp => ?_
      dsimp only
      split
      · exact .failWith _ hu
      · exact .pure hu ⟨hp.1, showsBound_cons.2 ⟨ha.mono hle', hp.2⟩⟩
    | spread e =>
      refine (hev.eval hs hsc (hspread e List.mem_cons_self)).bind fun a t ht hle ha => ?_
      refine .look_bind ht (objectOf?_raise _) ?_
      split
      · next entries h =>
        have hentries : w.ShowsEntries t entries := ht.innocent_of_objectOf? ha h
        refine (Mirrors.mapM (P := fun t (q : String × Value) => w.Shows t q.2) ht Shows.mono
          fun p hp u hu hle' => ?_).bind fun more u hu hle' hmore => ?_
        · split
          · exact .pure hu ((hentries p hp).2.mono hle')
          · exact .failWith _ hu
        · refine (ih hu (hsc.mono (hle.trans hle'))).bind fun p x hx hle'' hp => ?_
          have hmore : w.ShowsBound u more := hmore
          dsimp only
          split
          · exact .failWith _ hx
          · exact .pure hx ⟨hp.1, showsBound_append.2 ⟨hmore.mono hle'', hp.2⟩⟩
      · exact .failWith _ ht

theorem mirrors_bindParameter (hev : w.Guards ev) {p : Payload.Parameter}
    (hp : ∀ n kind e, p = .mk n kind (some e) → e.KeepsTo free own) (hs : w.Covers s)
    (hsc : w.Suits s sc free own) :
    w.Mirrors (ev.bindParameter sc p) s fun t p => w.ShowsIf t p.default := by
  obtain ⟨n, kind, default⟩ := p
  cases default with
  | none => exact .pure hs showsIf_none
  | some e =>
    exact (hev.eval hs hsc (hp n kind e rfl)).bind fun a t ht _ ha => .pure ht (showsIf_some.2 ha)

theorem mirrors_collectForm (hev : w.Guards ev) (hs : w.Covers s) (form : Payload.Form) {id : Nat}
    (hid : w.Shows s (.object id)) : w.Mirrors (ev.collectForm form id) s w.Shows := by
  unfold Evaluator.collectForm
  split
  · exact .pure hs hid
  · refine (mirrors_collect hev hs hid).bind fun items t ht _ hitems =>
      .new ht (o := .list _) (fun a ha => hitems a ?_) rfl
    rwa [List.toList_toArray] at ha
  · exact (mirrors_collect hev hs hid).bind fun items t ht _ hitems =>
      mirrors_make ht (agrees_setOf ht hitems)
  · refine (mirrors_collect hev hs hid).bind fun pairs t ht _ hpairs => ?_
    refine .ofStore_bind ht (R := w.ShowsEntries t) ?_ fun entries hentries =>
      .new ht (o := .dict _) hentries rfl
    refine Agrees.foldlM (fun p hp => absurd hp List.not_mem_nil) fun d p hp hd => ?_
    simp only [objectOf?_raise]
    split
    · next k a h =>
      obtain ⟨hk, ha⟩ := showsAll_cons.1 (ht.innocent_of_objectOf? (hpairs p hp) h)
      refine (Agrees.of_eq (needsKey_raise k)).bind fun _ _ _ => ?_
      exact agrees_setEntry ht hk (showsAll_singleton.1 ha) hd
    · exact .ok hd

/-! ### Expressions -/

theorem shows_ofConstant (c : Payload.Constant) : w.Shows s (.ofConstant c) := by
  cases c with
  | ellipsis => exact fun h => nomatch h
  | _ => exact trivial

/-- A function is called with arguments; for the one for all names this is to be right inside a
function. -/
theorem mirrors_applied (hev : w.Guards ev) {f : Value} {arguments : List Payload.Argument}
    (hpositional : ∀ e, .positional e ∈ arguments → e.KeepsTo free own)
    (hkeyword : ∀ n e, .keyword n e ∈ arguments → e.KeepsTo free own)
    (hspread : ∀ e, .spread e ∈ arguments → e.KeepsTo free own) (hs : w.Covers s)
    (hsc : w.Suits s sc free own) (hf : w.Shows s f) :
    w.Mirrors (ev.evalArguments sc arguments >>= fun p =>
      if f = .function .locals && p.1.isEmpty && p.2.isEmpty then sc.locals
      else ev.call f p.1 p.2) s w.Shows := by
  have hne : f ≠ .function .locals := fun h => by
    subst h
    exact hf rfl
  refine (mirrors_evalArguments hev hpositional hkeyword hspread hs hsc).bind
    fun p t ht hle hp => ?_
  rw [decide_eq_false hne]
  exact hev.call ht (hf.mono hle) hp.1 hp.2

/-- **The value of an expression.** -/
theorem mirrors_evalExpr (hev : w.Guards ev) (hs : w.Covers s) (hsc : w.Suits s sc free own)
    {e : Payload.Expr} (he : e.KeepsTo free own) : w.Mirrors (ev.evalExpr sc e) s w.Shows := by
  cases he with
  | constant => exact .pure hs (shows_ofConstant _)
  | name h => exact .ofStore hs (agrees_lookup_of_mayUse hs hsc h) fun _ => id
  | tuple h =>
    exact (mirrors_evalItems hev h hs hsc).bind fun vs t ht _ hvs => .new ht (o := .tuple _) hvs rfl
  | list h =>
    refine (mirrors_evalItems hev h hs hsc).bind fun vs t ht _ hvs =>
      .new ht (o := .list _) (fun a ha => hvs a ?_) rfl
    rwa [List.toList_toArray] at ha
  | set h =>
    rw [Evaluator.evalExpr]
    split
    · refine (mirrors_evalItems hev h hs hsc).bind fun vs t ht _ hvs => mirrors_make ht ?_
      exact (agrees_constantSet ht hvs).bind fun table _ htable => .ok ⟨htable.copy, rfl⟩
    · exact (mirrors_evalSet hev h hs hsc).bind fun table t ht _ htable =>
        .new ht (o := .set _) htable rfl
  | dict hkey hvalue hspread =>
    exact (mirrors_evalEntries hev hkey hvalue hspread hs hsc
      fun p hp => absurd hp List.not_mem_nil).bind fun d t ht _ hd => .new ht (o := .dict _) hd rfl
  | starred => exact .failWith _ hs
  | unary h =>
    refine (hev.eval hs hsc h).bind fun a t ht _ ha => mirrors_make ht ?_
    exact (agrees_unary _ ha).bind fun b _ hb => .ok hb
  | binary hl hr =>
    refine (hev.eval hs hsc hl).bind fun a t ht hle ha => ?_
    exact (hev.eval ht (hsc.mono hle) hr).bind fun b u hu hle' hb =>
      mirrors_binary hev hu _ (ha.mono hle') hb
  | both hl hr =>
    refine (hev.eval hs hsc hl).bind fun a t ht hle ha => .look_bind ht (truth_raise ha) ?_
    split
    · exact hev.eval ht (hsc.mono hle) hr
    · exact .pure ht ha
  | either hl hr =>
    refine (hev.eval hs hsc hl).bind fun a t ht hle ha => .look_bind ht (truth_raise ha) ?_
    split
    · exact .pure ht ha
    · exact hev.eval ht (hsc.mono hle) hr
  | compare hfirst hrest =>
    exact (hev.eval hs hsc hfirst).bind fun a t ht hle ha =>
      mirrors_evalChain hev hrest ht (hsc.mono hle) ha
  | conditional htest hyes hno =>
    refine (hev.eval hs hsc htest).bind fun a t ht hle ha => .look_bind ht (truth_raise ha) ?_
    split
    · exact hev.eval ht (hsc.mono hle) hyes
    · exact hev.eval ht (hsc.mono hle) hno
  | assign h =>
    refine (hev.eval hs hsc h).bind fun a t ht hle ha => ?_
    exact (mirrors_assign ht (hsc.mono hle) _ ha).bind fun _ u hu hle' _ => .pure hu (ha.mono hle')
  | «attribute» h =>
    exact (hev.eval hs hsc h).bind fun a t ht _ ha => mirrors_attributeOf ht ha _
  | @index _ e i he hi =>
    -- an index that is a slice is not evaluated as an expression of its own
    have helement : w.Mirrors (ev.eval sc e >>= fun v =>
        ev.eval sc i >>= Evaluator.elementAt v) s w.Shows := by
      refine (hev.eval hs hsc he).bind fun a t ht hle ha => ?_
      exact (hev.eval ht (hsc.mono hle) hi).bind fun b u hu hle' hb =>
        mirrors_elementAt hu (ha.mono hle') hb
    cases hi with
    | slice hlow hhigh hstep =>
      refine (hev.eval hs hsc he).bind fun a t ht hle ha => ?_
      have hsc := hsc.mono hle
      refine (mirrors_evalBound hev hlow ht hsc).bind fun low u hu hle' _ => ?_
      refine (mirrors_evalBound hev hhigh hu (hsc.mono hle')).bind fun high x hx hle'' _ => ?_
      have hle' := hle'.trans hle''
      refine (mirrors_evalBound hev hstep hx (hsc.mono hle')).bind fun step y hy hle₃ _ => ?_
      exact mirrors_make hy (agrees_slice hy (ha.mono (hle'.trans hle₃)) low high step)
    | _ => exact helement
  | slice hlow hhigh hstep =>
    refine (mirrors_evalBound hev hlow hs hsc).bind fun low t ht hle hl => ?_
    refine (mirrors_evalBound hev hhigh ht (hsc.mono hle)).bind fun high u hu hle' hh => ?_
    refine (mirrors_evalBound hev hstep hu (hsc.mono (hle.trans hle'))).bind
      fun step x hx hle'' hst => ?_
    exact .new hx (o := .slice low high step)
      ⟨hl.mono (hle'.trans hle''), hh.mono hle'', hst⟩ rfl
  | call hf hpositional hkeyword hspread =>
    exact (hev.eval hs hsc hf).bind fun f t ht hle hf =>
      mirrors_applied hev hpositional hkeyword hspread ht (hsc.mono hle) hf
  | locals h =>
    refine (hev.locals hs hsc h).bind fun f t ht hle hf => ?_
    have hsc := hsc.mono hle
    -- the function for all names is called where it shows, or makes a dictionary of own names
    rcases hf with hf | rfl
    · exact mirrors_applied hev (fun _ h => absurd h List.not_mem_nil)
        (fun _ _ h => absurd h List.not_mem_nil) (fun _ h => absurd h List.not_mem_nil) ht hsc hf
    · exact mirrors_locals ht hsc (hsc.own _ rfl).1
  | lambda hdefault hbody =>
    refine (Mirrors.mapM (P := fun t (p : BoundParameter) => w.ShowsIf t p.default) hs ShowsIf.mono
      fun p hp t ht hle => mirrors_bindParameter hev ?_ ht (hsc.mono hle)).bind
        fun ps t ht hle hps => ?_
    · rintro n kind e rfl
      exact hdefault n kind e hp
    · exact .new ht (o := .closure ps _ _ sc) ⟨hps, free, own, hsc.mono hle, hbody⟩ rfl
  | comprehension hfirst hsource htarget hcondition hkey helement =>
    exact (mirrors_comprehension hev hs hsc
      (.comprehension hfirst hsource htarget hcondition hkey helement)).bind
        fun id t ht _ hid => mirrors_collectForm hev ht _ hid

end TokenTemplate.Veil
