import TokenTemplate.Evaluation.View
import TokenTemplate.Proofs.Veil.Compare
import TokenTemplate.Proofs.Veil.SlotTable

/-!
# Operators behind a veil

What operators make of values in sight is in sight, and does not depend on the hidden items. So it is
with sorting, with sets, which compare their items, and with slices and the methods of texts.
-/

namespace TokenTemplate.Veil

variable {w : Veil} {s : Store} {v v' : Value}

/-! ### Sorting -/

section Sorting

variable {α : Type} {P : α → Prop} {below below' : α → α → Except Fault Bool}

theorem agrees_runWhile {fits fits' : α → α → Except Fault Bool}
    (h : ∀ a b, P a → P b → fits a b = fits' a b) {run xs : List α} {last : α}
    (hrun : ∀ a ∈ run, P a) (hlast : P last) (hxs : ∀ a ∈ xs, P a) :
    Agrees (fun p => (∀ a ∈ p.1, P a) ∧ ∀ a ∈ p.2, P a) (runWhile fits run last xs)
      (runWhile fits' run last xs) := by
  induction xs generalizing run last with
  | nil => exact .ok ⟨List.forall_mem_cons.2 ⟨hlast, hrun⟩, hxs⟩
  | cons x xs ih =>
    obtain ⟨hx, hxs⟩ := List.forall_mem_cons.1 hxs
    have hrun' := List.forall_mem_cons.2 ⟨hlast, hrun⟩
    rw [runWhile, runWhile, h last x hlast hx]
    refine (Agrees.of_eq rfl).bind fun b _ _ => ?_
    cases b with
    | true => exact ih hrun' hx hxs
    | false => exact .ok ⟨hrun', List.forall_mem_cons.2 ⟨hx, hxs⟩⟩

theorem agrees_firstRun (h : ∀ a b, P a → P b → below a b = below' a b) {xs : List α}
    (hxs : ∀ a ∈ xs, P a) :
    Agrees (fun p => (∀ a ∈ p.1, P a) ∧ ∀ a ∈ p.2, P a) (firstRun below xs) (firstRun below' xs) := by
  match xs, hxs with
  | [], hxs => exact .ok ⟨hxs, hxs⟩
  | [x], hxs => exact .ok ⟨hxs, fun a ha => nomatch ha⟩
  | x :: y :: rest, hxs =>
    obtain ⟨hx, hxs⟩ := List.forall_mem_cons.1 hxs
    obtain ⟨hy, hxs⟩ := List.forall_mem_cons.1 hxs
    have hrun : ∀ a ∈ [x], P a := fun a ha => List.mem_singleton.1 ha ▸ hx
    rw [firstRun, firstRun, h y x hy hx]
    refine (Agrees.of_eq rfl).bind fun b _ _ => ?_
    cases b with
    | true => exact agrees_runWhile (fun a b ha hb => h b a hb ha) hrun hy hxs
    | false =>
      refine (agrees_runWhile (fun a b ha hb => ?_) hrun hy hxs).bind fun p _ hp => .ok ?_
      · rw [h b a hb ha]
      · exact ⟨fun a ha => hp.1 a (List.mem_reverse.1 ha), hp.2⟩

theorem placeOf_congr (h : ∀ a b, P a → P b → below a b = below' a b) {row : Array α} {x : α}
    (hrow : ∀ a ∈ row.toList, P a) (hx : P x) (fuel low high : Nat) :
    placeOf below row x fuel low high = placeOf below' row x fuel low high := by
  induction fuel generalizing low high with
  | zero => rfl
  | succ fuel ih =>
    rw [placeOf, placeOf]
    split
    · rfl
    · dsimp only
      split
      · rfl
      · next y hy =>
        have hmem : y ∈ row.toList := Array.mem_toList_iff.2 (Array.mem_of_getElem? hy)
        rw [h x y hx (hrow y hmem), ih, ih]

theorem agrees_sortBy (h : ∀ a b, P a → P b → below a b = below' a b) {xs : List α}
    (hxs : ∀ a ∈ xs, P a) : Agrees (fun ys => ∀ a ∈ ys, P a) (sortBy below xs) (sortBy below' xs) := by
  rw [sortBy, sortBy]
  refine (agrees_firstRun h hxs).bind fun p _ hp => ?_
  refine (Agrees.foldlM (Q := fun row : Array α => ∀ a ∈ row.toList, P a) hp.1
    fun row x hx hrow => ?_).bind fun row _ hrow => .ok hrow
  rw [insertInto, insertInto, placeOf_congr h hrow (hp.2 x hx)]
  refine (Agrees.of_eq rfl).bind fun i _ _ => .ok fun a ha => ?_
  rw [Array.insertIdxIfInBounds] at ha
  split at ha
  · rcases Array.mem_insertIdx.1 (Array.mem_toList_iff.1 ha) with rfl | ha
    · exact hp.2 _ hx
    · exact hrow a (Array.mem_toList_iff.2 ha)
  · exact hrow a ha

end Sorting

theorem agrees_sortByKey (hs : w.Covers s) {row : List (Value × Value)}
    (hrow : w.ShowsEntries s row) :
    Agrees (w.ShowsEntries s) ((w.raise s).sortByKey row) (s.sortByKey row) :=
  agrees_sortBy (P := fun p : Value × Value => w.Shows s p.1 ∧ w.Shows s p.2)
    (fun _ _ ha hb => ordered_raise hs _ _ _ ha.1 hb.1) hrow

/-! ### Sets -/

section Sets

variable {table table' : SlotTable Value} {vs vs' : List Value}

theorem hashWithin?_raise (fuel : Nat) : (w.raise s).hashWithin? fuel = s.hashWithin? fuel := by
  induction fuel with
  | zero => rfl
  | succ fuel ih =>
    funext v
    unfold Store.hashWithin?
    rw [ih]
    rfl

@[simp] theorem add_raise : SlotTable.add (w.raise s) = SlotTable.add s := by
  funext table v
  have hhash : (w.raise s).hash? v = s.hash? v := congrFun (hashWithin?_raise _) v
  rw [SlotTable.add, SlotTable.add, hhash]

theorem all_add (ht : table.All (w.Shows s)) (hv : w.Shows s v) :
    (table.add s v).All (w.Shows s) :=
  ht.insert hv _

theorem all_adds (ht : table.All (w.Shows s)) (hvs : w.ShowsAll s vs) :
    (vs.foldl (SlotTable.add s) table).All (w.Shows s) := by
  induction vs generalizing table with
  | nil => exact ht
  | cons v vs ih =>
    obtain ⟨hv, hvs⟩ := List.forall_mem_cons.1 hvs
    exact ih (all_add ht hv) hvs

theorem all_empty : (SlotTable.empty : SlotTable Value).All (w.Shows s) :=
  SlotTable.all_ofSize _

theorem agrees_addItem (hs : w.Covers s) (ht : table.All (w.Shows s)) (hv : w.Shows s v) :
    Agrees (SlotTable.All (w.Shows s)) ((w.raise s).addItem table v) (s.addItem table v) := by
  rw [Store.addItem, Store.addItem, needsKey_raise, isAmong_raise hs hv ht, add_raise]
  refine (Agrees.of_eq rfl).bind fun _ _ _ => (Agrees.of_eq rfl).bind fun b _ _ => ?_
  cases b with
  | true => exact .ok ht
  | false => exact .ok (all_add ht hv)

theorem agrees_addItems (hs : w.Covers s) (ht : table.All (w.Shows s)) (hvs : w.ShowsAll s vs) :
    Agrees (SlotTable.All (w.Shows s)) (vs.foldlM (w.raise s).addItem table)
      (vs.foldlM s.addItem table) :=
  Agrees.foldlM ht fun _ v hv ht => agrees_addItem hs ht (hvs v hv)

theorem agrees_keepAmong (hs : w.Covers s) (wanted : Bool) (hvs' : w.ShowsAll s vs')
    (hvs : w.ShowsAll s vs) :
    Agrees (fun kept => ∀ a ∈ kept, a ∈ vs) (keepAmong (w.raise s) wanted vs' vs)
      (keepAmong s wanted vs' vs) := by
  rw [keepAmong, keepAmong]
  refine Agrees.filterM fun a ha => ?_
  rw [isAmong_raise hs (hvs a ha) hvs']
  exact .of_eq rfl

theorem agrees_mergeSets (hs : w.Covers s) (ht : table.All (w.Shows s))
    (ht' : table'.All (w.Shows s)) :
    Agrees (SlotTable.All (w.Shows s)) (mergeSets (w.raise s) table table')
      (mergeSets s table table') :=
  (agrees_keepAmong hs false ht ht').bind fun _ _ _ => .ok (ht.merge ht' _)

theorem agrees_constantSet (hs : w.Covers s) (hvs : w.ShowsAll s vs) :
    Agrees (SlotTable.All (w.Shows s)) (constantSet (w.raise s) vs) (constantSet s vs) :=
  (agrees_addItems hs all_empty hvs).bind fun _ _ ht => agrees_addItems hs all_empty ht

theorem agrees_withoutItems (hs : w.Covers s) (ht : table.All (w.Shows s))
    (ht' : table'.All (w.Shows s)) :
    Agrees (SlotTable.All (w.Shows s)) (withoutItems (w.raise s) table table')
      (withoutItems s table table') := by
  refine (agrees_keepAmong hs false ht' ht).bind fun kept _ hkept => ?_
  rw [add_raise]
  split
  · exact .ok (ht.copy.filter _).tidy
  · exact .ok (all_adds all_empty fun a ha => ht a (hkept a ha))

theorem agrees_exchange (hs : w.Covers s) (hvs : w.ShowsAll s vs) (ht : table.All (w.Shows s)) :
    Agrees (SlotTable.All (w.Shows s)) (exchange (w.raise s) vs table) (exchange s vs table) := by
  refine Agrees.foldlM ht fun table v hv ht => ?_
  have hone : w.ShowsAll s [v] := fun a ha => List.mem_singleton.1 ha ▸ hvs v hv
  refine (agrees_keepAmong hs false hone ht).bind fun kept _ _ => ?_
  rw [add_raise]
  split
  · exact .ok (ht.filter _)
  · exact .ok (all_add ht (hvs v hv))

theorem agrees_commonItems (hs : w.Covers s) (ht : table.All (w.Shows s))
    (ht' : table'.All (w.Shows s)) :
    Agrees (SlotTable.All (w.Shows s)) (commonItems (w.raise s) table table')
      (commonItems s table table') := by
  -- either one may be the smaller one
  have h : ∀ small large : SlotTable Value, small.All (w.Shows s) → large.All (w.Shows s) →
      Agrees (SlotTable.All (w.Shows s))
        (keepAmong (w.raise s) true large.toList small.toList >>= fun kept =>
          pure (kept.foldl (SlotTable.add (w.raise s)) .empty))
        (keepAmong s true large.toList small.toList >>= fun kept =>
          pure (kept.foldl (SlotTable.add s) .empty)) := by
    intro small large hsmall hlarge
    refine (agrees_keepAmong hs true hlarge hsmall).bind fun kept _ hkept => ?_
    rw [add_raise]
    exact .ok (all_adds all_empty fun a ha => hsmall a (hkept a ha))
  rw [commonItems, commonItems]
  by_cases hlt : table.size < table'.size
  · simp only [if_pos hlt]
    exact h _ _ ht ht'
  · simp only [if_neg hlt]
    exact h _ _ ht' ht

theorem agrees_withoutValues (hs : w.Covers s) (hvs : w.ShowsAll s vs)
    (ht : table.All (w.Shows s)) :
    Agrees (SlotTable.All (w.Shows s)) (withoutValues (w.raise s) vs table)
      (withoutValues s vs table) := by
  rw [withoutValues, withoutValues]
  have hkeys : (w.raise s).needsKey = s.needsKey := funext needsKey_raise
  rw [hkeys]
  refine (Agrees.of_eq rfl).bind fun _ _ _ => ?_
  exact (agrees_keepAmong hs false hvs ht).bind fun kept _ _ => .ok (ht.filter _).tidy

end Sets

/-! ### What operations make -/

/-- What an operation made is in sight. -/
def ShowsMade (w : Veil) (s : Store) : Made → Prop
  | .value v => w.Shows s v
  | .texts _ => True
  | .object o => w.Innocent s o ∧ o.names? = none

theorem agrees_setOf (hs : w.Covers s) {vs : List Value} (hvs : w.ShowsAll s vs) :
    Agrees (w.ShowsMade s) (setOf (w.raise s) vs) (setOf s vs) :=
  (agrees_addItems hs all_empty hvs).bind fun _ _ ht => .ok ⟨ht, rfl⟩

theorem agrees_setOp (hs : w.Covers s) (op : Payload.BinaryOp) {t t' : SlotTable Value}
    (ht : t.All (w.Shows s)) (ht' : t'.All (w.Shows s)) :
    Agrees (w.ShowsMade s) (setOp (w.raise s) op t t') (setOp s op t t') := by
  cases op with
  | and => exact (agrees_commonItems hs ht ht').bind fun _ _ h => .ok ⟨h, rfl⟩
  | or => exact (agrees_mergeSets hs ht.copy ht').bind fun _ _ h => .ok ⟨h, rfl⟩
  | xor => exact (agrees_exchange hs ht ht'.copy).bind fun _ _ h => .ok ⟨h, rfl⟩
  | sub => exact (agrees_withoutItems hs ht ht').bind fun _ _ h => .ok ⟨h, rfl⟩
  | _ => exact .error _

/-- Kinds lead nowhere. -/
theorem agrees_uniteKinds (v v' : Value) :
    Agrees (w.ShowsMade s) (uniteKinds (w.raise s) v v') (uniteKinds s v v') := by
  have hkinds : kindsOf? (w.raise s) = kindsOf? s := by
    funext v
    unfold kindsOf?
    rw [objectOf?_raise]
  unfold uniteKinds
  rw [hkinds]
  split
  · split
    · exact .error _
    · split
      · exact .ok trivial
      · exact .ok ⟨trivial, rfl⟩
  · exact .error _

theorem agrees_objectOp (hs : w.Covers s) (op : Payload.BinaryOp) (hv : w.Shows s v)
    (hv' : w.Shows s v') :
    Agrees (w.ShowsMade s) (objectOp (w.raise s) op v v') (objectOp s op v v') := by
  have ho := fun o => hs.innocent_of_objectOf? (o := o) hv
  have ho' := fun o => hs.innocent_of_objectOf? (o := o) hv'
  unfold objectOp
  simp only [objectOf?_raise]
  split
  · next h h' =>
    refine .ok ⟨fun a ha => ?_, rfl⟩
    rw [Array.toList_append, List.mem_append] at ha
    exact ha.elim (ho _ h a) (ho' _ h' a)
  · next h h' =>
    refine .ok ?_
    split
    · exact hv'
    · split
      · exact hv
      · exact ⟨fun a ha => (List.mem_append.1 ha).elim (ho _ h a) (ho' _ h' a), rfl⟩
  · next h h' =>
    refine (Agrees.foldlM (Q := w.ShowsEntries s) (ho _ h) fun d p hp hd => ?_).bind
      fun d _ hd => .ok ⟨hd, rfl⟩
    exact agrees_setEntry hs (ho' _ h' p hp).1 (ho' _ h' p hp).2 hd
  · next h h' => exact agrees_setOp hs _ (ho _ h) (ho' _ h')
  · exact agrees_uniteKinds v v'
  · exact .error _

theorem mem_of_repeated {α : Type} {tooLong : ErrorKind} {n : Int} {row row' : List α}
    (h : repeated tooLong n row = .ok row') : ∀ a ∈ row', a ∈ row := by
  rw [repeated] at h
  split at h
  · exact nomatch h
  · split at h
    · exact Except.ok.inj h ▸ fun a ha => nomatch ha
    · split at h
      · exact nomatch h
      · split at h
        · exact nomatch h
        · intro a ha
          rw [← Except.ok.inj h, List.mem_flatten] at ha
          obtain ⟨l, hl, ha⟩ := ha
          exact List.eq_of_mem_replicate hl ▸ ha

theorem agrees_repeatSequence (hs : w.Covers s) (hv : w.Shows s v) (n : Int) :
    Agrees (w.ShowsMade s) (repeatSequence (w.raise s) v n) (repeatSequence s v n) := by
  have ho := fun o => hs.innocent_of_objectOf? (o := o) hv
  have hrow : ∀ (k : ErrorKind) (items : List Value), w.ShowsAll s items →
      Agrees (w.ShowsAll s) (repeated k n items) (repeated k n items) :=
    fun k items hitems => ⟨rfl, fun row hrow a ha => hitems a (mem_of_repeated hrow a ha)⟩
  unfold repeatSequence
  simp only [objectOf?_raise]
  split
  · refine (Agrees.of_eq rfl).bind fun row _ _ => .ok ?_
    split
    · exact hv
    · exact trivial
  · split
    · next h => exact (hrow _ _ (ho _ h)).bind fun row _ hrow => .ok ⟨hrow, rfl⟩
    · next h =>
      refine (hrow _ _ (ho _ h)).bind fun row _ hrow => .ok ?_
      split
      · exact hv
      · exact ⟨hrow, rfl⟩
    · exact .error _


/-! ### Numbers -/

theorem agrees_complexOp (op : Payload.BinaryOp) (a b : Number.Complex) :
    Agrees (w.Shows s) (complexOp op a b) (complexOp op a b) := by
  unfold complexOp
  repeat' split
  all_goals first | exact .ok trivial | exact .error _

theorem agrees_realPower (x y : Float) :
    Agrees (w.Shows s) (realPower x y) (realPower x y) := by
  unfold realPower
  split
  · exact .error _
  · split
    · exact agrees_complexOp _ _ _
    · dsimp only
      split
      · exact .error _
      · exact .ok trivial

theorem agrees_wholeOp (op : Payload.BinaryOp) (m n : Int) :
    Agrees (w.Shows s) (wholeOp op m n) (wholeOp op m n) := by
  unfold wholeOp
  repeat' split
  all_goals first
    | exact .ok trivial
    | exact .error _
    | exact (Agrees.of_eq rfl).bind fun _ _ _ => (Agrees.of_eq rfl).bind fun _ _ _ =>
        agrees_realPower _ _

theorem agrees_numberOp (op : Payload.BinaryOp) (p q : Number.Quantity) :
    Agrees (w.Shows s) (numberOp op p q) (numberOp op p q) := by
  have hreal : ∀ x y, Agrees (w.Shows s) (realOp op x y) (realOp op x y) := fun x y => by
    unfold realOp
    repeat' split
    all_goals first | exact .ok trivial | exact .error _ | exact agrees_realPower x y
  unfold numberOp
  split
  · exact agrees_wholeOp op _ _
  · exact (Agrees.of_eq rfl).bind fun _ _ _ => (Agrees.of_eq rfl).bind fun _ _ _ => hreal _ _

/-! ### Operators -/

/-- **An operator between two values in sight.** -/
theorem agrees_binary (hs : w.Covers s) (op : Payload.BinaryOp) (hv : w.Shows s v)
    (hv' : w.Shows s v') :
    Agrees (w.ShowsMade s) ((w.raise s).binary op v v') (s.binary op v v') := by
  have hvalue : ∀ x, Agrees (w.Shows s) x x →
      Agrees (w.ShowsMade s) (x >>= fun a => pure (.value a)) (x >>= fun a => pure (.value a)) :=
    fun x hx => hx.bind fun a _ ha => .ok ha
  unfold Store.binary
  split
  · split
    · split
      · refine (agrees_numberOp (w := w) (s := s) op _ _).bind fun a _ ha => ?_
        split
        · exact .ok trivial
        · exact .ok ha
      · exact hvalue _ (agrees_numberOp op _ _)
    · exact hvalue _ (agrees_numberOp op _ _)
  · split
    · exact (Agrees.of_eq rfl).bind fun _ _ _ => (Agrees.of_eq rfl).bind fun _ _ _ =>
        hvalue _ (agrees_complexOp op _ _)
    · split
      · exact agrees_repeatSequence hs hv' _
      · exact agrees_repeatSequence hs hv _
      · split
        · refine .ok ?_
          repeat' split
          all_goals exact trivial
        · exact agrees_objectOp hs _ hv hv'
      · exact agrees_objectOp hs _ hv hv'

/-- **An operator in front of a value in sight.** -/
theorem agrees_unary (op : Payload.UnaryOp) (hv : w.Shows s v) :
    Agrees (w.Shows s) ((w.raise s).unary op v) (s.unary op v) := by
  unfold Store.unary
  rw [truth_raise hv]
  repeat' split
  all_goals first | exact .ok trivial | exact .error _ | exact .ok hv

/-! ### Slices -/

theorem agrees_slice (hs : w.Covers s) (hv : w.Shows s v) (low high step : Value) :
    Agrees (w.ShowsMade s) ((w.raise s).slice v low high step) (s.slice v low high step) := by
  have ho := fun o => hs.innocent_of_objectOf? (o := o) hv
  have hsequence : (w.raise s).isSequence v = s.isSequence v := by
    unfold Store.isSequence
    simp only [objectOf?_raise]
  have hpick : ∀ (items : Array Value) (is : List Nat), w.ShowsAll s items.toList →
      w.ShowsAll s (pick items is) := by
    intro items is hitems a ha
    obtain ⟨i, -, hi⟩ := List.mem_filterMap.1 ha
    exact hitems a (Array.mem_toList_iff.2 (Array.mem_of_getElem? hi))
  unfold Store.slice
  simp only [hsequence, objectOf?_raise]
  split
  · exact .error _
  · refine (Agrees.of_eq rfl).bind fun _ _ _ => (Agrees.of_eq rfl).bind fun _ _ _ =>
      (Agrees.of_eq rfl).bind fun _ _ _ => ?_
    split
    · refine .ok ?_
      split
      · exact hv
      · exact trivial
    · exact .ok trivial
    · split
      · next h => exact .ok ⟨hpick _ _ (ho _ h), rfl⟩
      · next h =>
        refine .ok ?_
        split
        · exact hv
        · exact ⟨hpick _ _ (ho _ h), rfl⟩
      · exact .error _

end TokenTemplate.Veil
