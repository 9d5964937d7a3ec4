import TokenTemplate.Evaluation.Iteration
import TokenTemplate.Proofs.Veil.Items

/-!
# Iterators behind a veil

The next item of an iterator that is in sight is in sight itself, and getting it mirrors what is
hidden: `TokenTemplate.Veil.mirrors_nextItem`. For the elements of a comprehension this comes down to
its clauses, whose targets bind names to what is in sight, and to its scope, which suits what the
clauses look up.
-/

namespace TokenTemplate.Veil

variable {w : Veil} {s : Store} {v : Value} {ev : Evaluator} {sc : Scope} {free : String → Prop}
  {own : Option (List String)}

/-! ### Assigning an item -/

/-- Only the targets get something, and only the parts of the value. -/
theorem mem_splitParts {targets : List Payload.Target} {parts : List Value}
    {pairs : List (Payload.Target × List Value)}
    (h : Evaluator.splitParts targets parts = some pairs) :
    ∀ p ∈ pairs, p.1 ∈ targets ∧ ∀ a ∈ p.2, a ∈ parts := by
  have hzip : ∀ (ts : List Payload.Target) (vs : List Value), ∀ p ∈ ts.zip (vs.map ([·])),
      p.1 ∈ ts ∧ ∀ a ∈ p.2, a ∈ vs := by
    intro ts vs p hp
    obtain ⟨h₁, h₂⟩ := List.of_mem_zip (a := p.1) (b := p.2) hp
    obtain ⟨b, hb, heq⟩ := List.mem_map.1 h₂
    refine ⟨h₁, fun a ha => ?_⟩
    rw [← heq, List.mem_singleton] at ha
    exact ha ▸ hb
  unfold Evaluator.splitParts at h
  extract_lets isStarred before at h
  split at h
  · split at h
    · obtain rfl := Option.some.inj h
      exact hzip targets parts
    · exact nomatch h
  · next t after hdrop =>
    have hafter : ∀ u ∈ t :: after, u ∈ targets := fun u hu => List.mem_of_mem_drop (hdrop ▸ hu)
    have hbefore : ∀ u ∈ before, u ∈ targets := fun u hu => (List.takeWhile_sublist _).subset hu
    split at h
    · exact nomatch h
    · extract_lets middle at h
      obtain rfl := Option.some.inj h
      intro p hp
      rcases List.mem_append.1 hp with hp | hp
      · obtain ⟨h₁, h₂⟩ := hzip _ _ p hp
        exact ⟨hbefore _ h₁, fun a ha => List.mem_of_mem_take (h₂ a ha)⟩
      · rcases List.mem_cons.1 hp with rfl | hp
        · exact ⟨hafter _ List.mem_cons_self, fun a ha =>
            List.mem_of_mem_drop (List.mem_of_mem_take ha)⟩
        · obtain ⟨h₁, h₂⟩ := hzip _ _ p hp
          exact ⟨hafter _ (List.mem_cons_of_mem _ h₁), fun a ha => List.mem_of_mem_drop (h₂ a ha)⟩

theorem mirrors_setElement (hs : w.Covers s) {container i : Value} (hc : w.Shows s container)
    (hi : w.Shows s i) (hv : w.Shows s v) :
    w.Mirrors (Evaluator.setElement container i v) s fun _ _ => True := by
  have ho := fun o => hs.innocent_of_objectOf? (o := o) hc
  rw [Evaluator.setElement]
  refine .look_bind hs (objectOf?_raise _) ?_
  split
  · next id entries h =>
    refine .ofStore_bind hs (Agrees.of_eq (needsKey_raise i)) fun _ _ => ?_
    refine .ofStore_bind hs (agrees_setEntry hs hi hv (ho _ h)) fun d hd => ?_
    exact .setObject_of_names? hs hd rfl hc
  · next id items h =>
    split
    · exact .failWith _ hs
    · split
      · refine .setObject_of_names? hs (fun a ha => ?_) rfl hc
        rw [Array.toList_setIfInBounds] at ha
        rcases List.mem_or_eq_of_mem_set ha with ha | rfl
        · exact ho _ h a ha
        · exact hv
      · exact .fail _ hs
  · exact .failWith _ hs

theorem ShowsBound.set {b : Bindings} (hb : w.ShowsBound s b) (n : String) (hv : w.Shows s v) :
    w.ShowsBound s (b.set n v) := by
  induction b with
  | nil => exact showsBound_cons.2 ⟨hv, hb⟩
  | cons p b ih =>
    obtain ⟨hp, hb⟩ := List.forall_mem_cons.1 hb
    rw [Bindings.set]
    split
    · exact List.forall_mem_cons.2 ⟨hv, hb⟩
    · exact List.forall_mem_cons.2 ⟨hp, ih hb⟩

theorem mirrors_setAttribute (hs : w.Covers s) {v' : Value} (hv : w.Shows s v) (n : String)
    (hv' : w.Shows s v') : w.Mirrors (Evaluator.setAttribute v n v') s fun _ _ => True := by
  rw [Evaluator.setAttribute]
  refine .look_bind hs (objectOf?_raise _) ?_
  split
  · next id fields h =>
    have hfields : w.ShowsBound s fields := hs.innocent_of_objectOf? hv h
    exact .setObject_of_names? hs (o := .record _) (hfields.set n hv') rfl hv
  · exact .failWith _ hs

/-- **Assigning values to a target.** -/
theorem mirrors_assignTarget (hev : w.Guards ev) {fuel : Nat} {target : Payload.Target}
    (htarget : target.KeepsTo free own) (hs : w.Covers s) (hsc : w.Suits s sc free own)
    {values : List Value} (hvalues : w.ShowsAll s values) :
    w.Mirrors (ev.assignTarget sc fuel target values) s fun _ _ => True := by
  induction fuel generalizing s target values with
  | zero => exact .failWith _ hs
  | succ fuel ih =>
    unfold Evaluator.assignTarget
    extract_lets assigned
    -- the value first has to be known
    have hassigned : ∀ v t, w.Covers t → w.Precedes s t → w.Shows t v →
        w.Mirrors (assigned v) t fun _ _ => True := by
      intro v t ht hle hv
      have hsc := hsc.mono hle
      cases htarget with
      | name => exact mirrors_bindHere ht hsc _ hv
      | «attribute» he =>
        refine (hev.eval ht hsc he).bind fun a u hu hle' ha => ?_
        exact mirrors_setAttribute hu ha _ (hv.mono hle')
      | index he hi =>
        refine (hev.eval ht hsc he).bind fun a u hu hle' ha => ?_
        refine (hev.eval hu (hsc.mono hle') hi).bind fun b x hx hle'' hb => ?_
        exact mirrors_setElement hx (ha.mono hle'') hb (hv.mono (hle'.trans hle''))
      | starred h => exact ih h ht hsc (showsAll_singleton.2 hv)
      | parts h =>
        refine (mirrors_itemsOf hev ht hv).bind fun items u hu hle' hitems => ?_
        split
        · exact .failWith _ hu
        · next pairs hpairs =>
          refine .forM hu fun p hp x hx hle'' => ?_
          obtain ⟨h₁, h₂⟩ := mem_splitParts hpairs p hp
          exact ih (h _ h₁) hx (hsc.mono (hle'.trans hle''))
            fun a ha => (hitems a (h₂ a ha)).mono hle''
    split
    · refine (Mirrors.new hs (o := .list _) (fun a ha => hvalues a ?_) rfl).bind hassigned
      rwa [List.toList_toArray] at ha
    · exact hassigned _ s hs (.refl w s) (showsAll_singleton.1 hvalues)
    · exact .failWith _ hs

/-! ### Comprehensions -/

theorem mirrors_allHold (hev : w.Guards ev) {cs : List Payload.Expr}
    (hcs : ∀ c ∈ cs, c.KeepsTo free own) (hs : w.Covers s) (hsc : w.Suits s sc free own) :
    w.Mirrors (ev.allHold sc cs) s fun _ _ => True := by
  induction cs generalizing s with
  | nil => exact .pure hs trivial
  | cons c cs ih =>
    obtain ⟨hc, hcs⟩ := List.forall_mem_cons.1 hcs
    rw [Evaluator.allHold]
    refine (hev.eval hs hsc hc).bind fun v t ht hle hv => .look_bind ht (truth_raise hv) ?_
    split
    · exact ih hcs ht (hsc.mono hle)
    · exact .pure ht trivial

theorem mirrors_element (hev : w.Guards ev) (hs : w.Covers s) {g : Generation}
    (hg : w.Tended s g free own) : w.Mirrors (ev.element g) s w.Shows := by
  rw [Evaluator.element]
  split
  · next k h =>
    refine (hev.eval hs hg.suits (hg.key k h)).bind fun a t ht hle ha => ?_
    refine (hev.eval ht (hg.suits.mono hle) hg.element).bind fun b u hu hle' hb => ?_
    exact .new hu (o := .tuple _) (showsAll_cons.2 ⟨ha.mono hle', showsAll_singleton.2 hb⟩) rfl
  · exact hev.eval hs hg.suits hg.element

theorem mirrors_iterateSource (hev : w.Guards ev) (hs : w.Covers s) (hsc : w.Suits s sc free own)
    {source : Payload.Expr} (h : source.KeepsTo free own) :
    w.Mirrors (ev.iterateSource sc source) s fun t id => w.Shows t (.object id) := by
  have hplain : w.Mirrors (ev.eval sc source >>= Action.iterate) s
      fun t id => w.Shows t (.object id) :=
    (hev.eval hs hsc h).bind fun v t ht _ hv => mirrors_iterate ht hv
  unfold Evaluator.iterateSource
  split
  · split
    · cases h with
      | set h =>
        refine (Mirrors.mapM (P := w.Shows) hs Shows.mono fun e he t ht hle =>
          hev.eval ht (hsc.mono hle) (h e he)).bind fun vs t ht _ hvs => ?_
        refine (mirrors_make ht ?_).bind fun v u hu _ hv => mirrors_iterate hu hv
        exact (agrees_constantSet ht hvs).bind fun table _ htable => .ok ⟨htable, rfl⟩
    · exact hplain
  · exact hplain

theorem mirrors_generate (hev : w.Guards ev) {g : Generation} {fuel : Nat} {active : List Nat}
    (hs : w.Covers s) (hg : w.Tended s g free own)
    (hactive : ∀ id ∈ active, w.Shows s (.object id)) :
    w.Mirrors (ev.generate g fuel active) s fun t r =>
      (∀ id ∈ r.1, w.Shows t (.object id)) ∧ w.ShowsIf t r.2 := by
  have hnothing : ∀ t : Store, (∀ id ∈ ([] : List Nat), w.Shows t (.object id)) ∧ w.ShowsIf t none :=
    fun t => ⟨fun _ h => absurd h List.not_mem_nil, showsIf_none⟩
  induction fuel generalizing s active with
  | zero => exact .fail _ hs
  | succ fuel ih =>
    cases active with
    | nil => exact .pure hs (hnothing s)
    | cons it outer =>
      obtain ⟨hit, houter⟩ := List.forall_mem_cons.1 hactive
      rw [Evaluator.generate]
      refine (hev.next hs hit).bind fun item t ht hle hitem => ?_
      have hg := hg.mono hle
      split
      · exact ih ht hg (shows_ids_mono houter hle)
      · next v =>
        split
        · exact .pure ht (hnothing t)
        · next target source conditions hclause =>
          have hmem := List.mem_of_getElem? hclause
          refine (mirrors_assignTarget hev (hg.target _ _ _ hmem) ht hg.suits
            (showsAll_singleton.2 (hitem v rfl))).bind fun _ u hu hle' _ => ?_
          have hg := hg.mono hle'
          refine (mirrors_allHold hev (hg.condition _ _ _ hmem) hu hg.suits).bind
            fun holds x hx hle'' _ => ?_
          have hg := hg.mono hle''
          have hactive := shows_ids_mono hactive ((hle.trans hle').trans hle'')
          split
          · split
            · refine (mirrors_element hev hx hg).bind fun a y hy hle₃ ha => .pure hy ?_
              exact ⟨shows_ids_mono hactive hle₃, showsIf_some.2 ha⟩
            · next inner hinner =>
              have hsource := hg.source _ _ _
                (List.mem_of_getElem? (List.getElem?_tail.trans hinner))
              refine (mirrors_iterateSource hev hx hg.suits hsource).bind fun id y hy hle₃ hid => ?_
              refine ih hy (hg.mono hle₃) (List.forall_mem_cons.2 ⟨hid, ?_⟩)
              exact shows_ids_mono hactive hle₃
          · exact ih hx hg hactive

/-- **The next element of a comprehension.** -/
theorem mirrors_nextElement (hev : w.Guards ev) (hs : w.Covers s) {id : Nat}
    (hid : w.Shows s (.object id)) {g : Generation} (hg : w.Pending s (.generation g)) :
    w.Mirrors (ev.nextElement id g) s w.ShowsIf := by
  obtain ⟨hactive, free, own, htended⟩ := hg
  have hover : ∀ t : Store, w.Innocent t (.iterator (.row (.other "generator") [])) :=
    fun t => showsAll_nil
  rw [Evaluator.nextElement]
  split
  · exact .failWith _ hs
  · refine (Mirrors.setObject_of_names? hs (o := .iterator _) ?_ rfl hid).bind fun _ t ht hle _ => ?_
    · exact ⟨hactive, free, own, { htended with }⟩
    · refine Mirrors.bind (P := fun t r => (∀ id ∈ r.1, w.Shows t (.object id)) ∧ w.ShowsIf t r.2)
        (Mirrors.recover ?_ fun e u hu hle' => ?_) fun r u hu hle' hr => ?_
      · exact mirrors_generate hev ht (htended.mono hle) (shows_ids_mono hactive hle)
      · refine (Mirrors.setObject_of_names? hu (hover u) rfl (hid.mono (hle.trans hle'))).bind
          fun _ x hx _ _ => ?_
        exact .fail _ hx
      · have hle := hle.trans hle'
        obtain ⟨active, found⟩ := r
        cases found with
        | none =>
          refine (Mirrors.setObject_of_names? hu (hover u) rfl (hid.mono hle)).bind
            fun _ x hx _ _ => ?_
          exact .pure hx showsIf_none
        | some v =>
          refine (Mirrors.setObject_of_names? hu (o := .iterator _) ?_ rfl (hid.mono hle)).bind
            fun _ x hx hle'' _ => ?_
          · exact ⟨hr.1, free, own, { htended.mono hle with }⟩
          · exact .pure hx (hr.2.mono hle'')

/-- A comprehension that begins. -/
theorem mirrors_comprehension (hev : w.Guards ev) (hs : w.Covers s) (hsc : w.Suits s sc free own)
    {form : Payload.Form} {e : Payload.Expr} {clauses : List Payload.Clause} {names : List String}
    (h : (Payload.Expr.comprehension form e clauses names).KeepsTo free own) :
    w.Mirrors (ev.comprehension sc form e clauses names) s fun t id => w.Shows t (.object id) := by
  cases h with
  | comprehension hfirst hsource htarget hcondition hkey helement =>
    unfold Evaluator.comprehension
    split
    · exact .failWith _ hs
    · refine (mirrors_iterateSource hev hs hsc (hfirst _ _ _ rfl)).bind fun id t ht hle hid => ?_
      refine (mirrors_enter ht (hsc.mono hle) names true).bind fun inner u hu hle' hinner => ?_
      have hpending : w.Innocent u (.iterator (.generation ⟨form, e, _, [id], inner, false⟩)) :=
        ⟨fun it hit => List.mem_singleton.1 hit ▸ hid.mono hle', free,
          Payload.within own names, hinner, hkey, helement, hsource, htarget, hcondition⟩
      exact (Mirrors.allocate hu hpending).imp
        fun x id hid => ⟨hid.2, _, hid.1, rfl⟩

/-! ### Other iterators -/

theorem mirrors_entryItem (hs : w.Covers s) (part : DictMethod) {p : Value × Value}
    (hp : w.Shows s p.1 ∧ w.Shows s p.2) : w.Mirrors (Evaluator.entryItem part p) s w.Shows := by
  cases part with
  | values => exact .pure hs hp.2
  | items =>
    exact .new hs (o := .tuple _) (showsAll_cons.2 ⟨hp.1, showsAll_singleton.2 hp.2⟩) rfl
  | _ => exact .pure hs hp.1

theorem mirrors_needEnd (hev : w.Guards ev) {ids : List Nat} (hs : w.Covers s)
    (hids : ∀ id ∈ ids, w.Shows s (.object id)) :
    w.Mirrors (ev.needEnd ids) s fun _ _ => True := by
  induction ids generalizing s with
  | nil => exact .pure hs trivial
  | cons id ids ih =>
    obtain ⟨hid, hids⟩ := List.forall_mem_cons.1 hids
    rw [Evaluator.needEnd]
    refine (hev.next hs hid).bind fun item t ht hle _ => ?_
    split
    · exact ih ht (shows_ids_mono hids hle)
    · exact .failWith _ ht

theorem mirrors_givenBy (hs : w.Covers s) (owner : Value) (hv : w.Shows s v) :
    w.Mirrors (Evaluator.givenBy owner v) s w.Shows := by
  unfold Evaluator.givenBy
  split
  · exact .made hs hv
  · exact .made hs hv
  · exact .pure hs hv

/-- All values of a row are in sight, if there is one. -/
def ShowsRow (w : Veil) (s : Store) (row : Option (List Value)) : Prop :=
  ∀ vs, row = some vs → w.ShowsAll s vs

theorem showsRow_none : w.ShowsRow s none :=
  fun _ h => absurd h.symm (Option.some_ne_none _)

theorem showsRow_some {vs : List Value} : w.ShowsRow s (some vs) ↔ w.ShowsAll s vs :=
  ⟨fun h => h vs rfl, fun h _ hvs => Option.some.inj hvs ▸ h⟩

theorem mirrors_nextOfEach (hev : w.Guards ev) (together : Bool) {row : List Value}
    {ids : List Nat} (hs : w.Covers s) (hrow : w.ShowsAll s row)
    (hids : ∀ id ∈ ids, w.Shows s (.object id)) :
    w.Mirrors (ev.nextOfEach together row ids) s w.ShowsRow := by
  induction ids generalizing s row with
  | nil => exact .pure hs (showsRow_some.2 fun v hv => hrow v (List.mem_reverse.1 hv))
  | cons id ids ih =>
    obtain ⟨hid, hids⟩ := List.forall_mem_cons.1 hids
    rw [Evaluator.nextOfEach]
    refine (hev.next hs hid).bind fun item t ht hle hitem => ?_
    split
    · next v =>
      exact ih ht (showsAll_cons.2 ⟨hitem v rfl, hrow.mono hle⟩) (shows_ids_mono hids hle)
    · split
      · split
        · exact (mirrors_needEnd hev ht (shows_ids_mono hids hle)).bind
            fun _ u hu _ _ => .pure hu showsRow_none
        · exact (Mirrors.failWith _ ht (P := fun _ _ => True)).bind
            fun _ u hu _ _ => .pure hu showsRow_none
      · exact .pure ht showsRow_none

/-- **The next item of an iterator.** -/
theorem mirrors_nextItem (hev : w.Guards ev) (hs : w.Covers s) {id : Nat}
    (hid : w.Shows s (.object id)) : w.Mirrors (ev.nextItem id) s w.ShowsIf := by
  -- what an iterator refers to is in sight
  have ho := fun o => hs.innocent_of_object? (o := o) hid
  unfold Evaluator.nextItem
  extract_lets become finish
  -- the iterator goes on, or has come to its end
  have hbecome : ∀ i {t}, w.Covers t → w.Precedes s t → w.Pending t i →
      w.Mirrors (become i) t fun _ _ => True := fun i t ht hle hi =>
    .setObject_of_names? ht (o := .iterator _) hi rfl (hid.mono hle)
  have hfinish : ∀ {t}, w.Covers t → w.Precedes s t →
      w.Mirrors (finish >>= fun _ => pure none) t w.ShowsIf := by
    intro t ht hle
    refine Mirrors.bind (P := fun _ _ => True) ?_ fun _ u hu _ _ => .pure hu showsIf_none
    exact .look_bind ht rfl (hbecome (.row _ []) ht hle showsAll_nil)
  refine .look_bind hs rfl ?_
  split
  · next k v rest h =>
    obtain ⟨hv, hrest⟩ := showsAll_cons.1 (ho _ h)
    refine (hbecome (.row k rest) hs (.refl w s) hrest).bind fun _ t ht hle _ => ?_
    split
    · exact (Mirrors.made ht (hv.mono hle)).bind fun a u hu _ ha => .pure hu (showsIf_some.2 ha)
    · exact .pure ht (showsIf_some.2 (hv.mono hle))
  · next owner p h =>
    have howner : w.Shows s owner := ho _ h
    refine .look_bind hs (element?_raise howner p) ?_
    split
    · next v hv =>
      have hv := hs.shows_element? howner p v hv
      refine (hbecome (.forward owner (p + 1)) hs (.refl w s) howner).bind fun _ t ht hle _ => ?_
      exact (mirrors_givenBy ht owner (hv.mono hle)).bind
        fun a u hu _ ha => .pure hu (showsIf_some.2 ha)
    · exact hfinish hs (.refl w s)
  · next owner p h =>
    have howner : w.Shows s owner := ho _ h
    refine .look_bind hs (element?_raise howner p) ?_
    split
    · next v hv =>
      have hv := hs.shows_element? howner p v hv
      refine (hbecome (.backward owner p) hs (.refl w s) howner).bind fun _ t ht hle _ => ?_
      exact (mirrors_givenBy ht owner (hv.mono hle)).bind
        fun a u hu _ ha => .pure hu (showsIf_some.2 ha)
    · exact hfinish hs (.refl w s)
  · next part dict p size h =>
    have hdict : w.Shows s (.object dict) := ho _ h
    refine .look_bind hs rfl ?_
    split
    · exact .fail _ hs
    · split
      · next entry hentry =>
        have hentry := hs.shows_entries hdict entry (List.mem_of_getElem? hentry)
        refine (hbecome (.entries part dict _ size) hs (.refl w s) hdict).bind fun _ t ht hle _ => ?_
        exact (mirrors_entryItem ht part ⟨hentry.1.mono hle, hentry.2.mono hle⟩).bind
          fun a u hu _ ha => .pure hu (showsIf_some.2 ha)
      · exact hfinish hs (.refl w s)
  · next items count h =>
    have hitems : w.Shows s (.object items) := ho _ h
    refine (hev.next hs hitems).bind fun item t ht hle hitem => ?_
    split
    · next v =>
      refine (hbecome (.numbered items _) ht hle (hitems.mono hle)).bind fun _ u hu hle' _ => ?_
      refine (Mirrors.made hu (v := .ofInt count) trivial).bind fun n x hx hle'' hn => ?_
      have hv := (hitem v rfl).mono (hle'.trans hle'')
      exact (Mirrors.new hx (o := .tuple _) (showsAll_cons.2 ⟨hn, showsAll_singleton.2 hv⟩) rfl).bind
        fun a y hy _ ha => .pure hy (showsIf_some.2 ha)
    · exact .pure ht showsIf_none
  · exact .pure hs showsIf_none
  · next ids together _ h =>
    refine (mirrors_nextOfEach hev together hs showsAll_nil (ho _ h)).bind fun row t ht _ hrow => ?_
    split
    · next vs =>
      exact (Mirrors.new ht (o := .tuple _) (hrow vs rfl) rfl).bind
        fun a u hu _ ha => .pure hu (showsIf_some.2 ha)
    · exact .pure ht showsIf_none
  · next f stop h =>
    obtain ⟨hf, hstop⟩ : w.Shows s f ∧ w.Shows s stop := ho _ h
    -- a call that says that it has ended is the end, and so is the value to stop at
    refine Mirrors.bind (P := w.ShowsIf) (.recover ?_ fun e t ht _ => ?_) fun v t ht hle hv => ?_
    · exact (hev.call hs hf showsAll_nil showsBound_nil).map fun t a ha => showsIf_some.2 ha
    · split
      · exact .pure ht showsIf_none
      · exact .fail _ ht
    · split
      · exact hfinish ht hle
      · next v =>
        have hequal := sameOrEqual_raise ht stop v (hstop.mono hle) (hv v rfl)
        refine .ofStore_bind ht (Agrees.of_eq hequal) fun b _ => ?_
        split
        · exact hfinish ht hle
        · exact .pure ht hv
  · next g h => exact mirrors_nextElement hev hs hid (ho _ h)
  · exact .pure hs showsIf_none

end TokenTemplate.Veil
