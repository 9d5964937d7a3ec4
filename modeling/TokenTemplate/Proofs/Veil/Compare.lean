import TokenTemplate.Proofs.Veil.Action

/-!
# Comparing values behind a veil

What can be told of values in sight by looking at the store: their parts, whether they are equal and
which comes first, and what a dictionary has under a key. None of it depends on the hidden items,
since it never comes to the receiver that holds them.
-/

namespace TokenTemplate.Veil

variable {w : Veil} {s : Store} {v v' : Value}

/-! ### Parts -/

@[simp] theorem objectOf?_raise (v : Value) : (w.raise s).objectOf? v = s.objectOf? v := by
  cases v <;> rfl

/-- The object that a value in sight is. -/
theorem Covers.innocent_of_objectOf? (hs : w.Covers s) (hv : w.Shows s v) {o : Object}
    (h : s.objectOf? v = some o) : w.Innocent s o := by
  cases v with
  | object id => exact hs.innocent id o h hv.1
  | _ => exact absurd h (Option.some_ne_none _).symm

theorem Covers.innocent_of_object? (hs : w.Covers s) {id : Nat} (hid : w.Shows s (.object id))
    {o : Object} (h : s.object? id = some o) : w.Innocent s o :=
  hs.innocent id o h hid.1

theorem Covers.shows_rowOf (hs : w.Covers s) (hv : w.Shows s v) : w.ShowsAll s (s.rowOf v) := by
  rw [Store.rowOf]
  split
  · next h => exact hs.innocent_of_objectOf? hv h
  · next h => exact hs.innocent_of_objectOf? hv h
  · exact fun a ha => nomatch ha

@[simp] theorem rowOf_raise (v : Value) : (w.raise s).rowOf v = s.rowOf v := by
  rw [Store.rowOf, Store.rowOf, objectOf?_raise]

theorem Covers.shows_entries (hs : w.Covers s) {id : Nat} (hid : w.Shows s (.object id)) :
    w.ShowsEntries s (s.entries id) := by
  rw [Store.entries]
  split
  · next h => exact hs.innocent_of_object? hid h
  · exact fun p hp => nomatch hp

theorem length?_raise (hv : w.Shows s v) : (w.raise s).length? v = s.length? v := by
  cases v with
  | receiver id => rw [Store.length?, Store.length?, items_raise hv]
  | _ => rfl

theorem truth_raise (hv : w.Shows s v) : (w.raise s).truth v = s.truth v := by
  cases v <;> first | rfl | rw [Store.truth, Store.truth, length?_raise hv] <;> nofun

theorem element?_raise (hv : w.Shows s v) (i : Nat) : (w.raise s).element? v i = s.element? v i := by
  cases v with
  | receiver id => rw [Store.element?, Store.element?, getElem?_receivers_raise hv]
  | _ => rfl

theorem Covers.shows_element? (hs : w.Covers s) (hv : w.Shows s v) (i : Nat) :
    w.ShowsIf s (s.element? v i) := by
  intro a ha
  cases v with
  | text t o =>
    obtain ⟨c, -, rfl⟩ := Option.map_eq_some_iff.1 ha
    exact trivial
  | range start stop step o =>
    rw [Store.element?] at ha
    split at ha
    · obtain rfl := Option.some.inj ha
      exact trivial
    · exact nomatch ha
  | receiver id =>
    obtain ⟨x, -, rfl⟩ := Option.map_eq_some_iff.1 ha
    cases x <;> exact trivial
  | object id =>
    rw [Store.element?] at ha
    split at ha
    · next h => exact hs.innocent_of_object? hv h a (List.mem_of_getElem? ha)
    · next h =>
      exact hs.innocent_of_object? hv h a (Array.mem_toList_iff.2 (Array.mem_of_getElem? ha))
    · exact nomatch ha
  | _ => exact nomatch ha

/-! ### Keys -/

theorem isKeyWithin_raise (fuel : Nat) : (w.raise s).isKeyWithin fuel = s.isKeyWithin fuel := by
  induction fuel with
  | zero => rfl
  | succ fuel ih =>
    funext v
    unfold Store.isKeyWithin
    rw [ih]
    rfl

@[simp] theorem isKey_raise (v : Value) : (w.raise s).isKey v = s.isKey v :=
  congrFun (isKeyWithin_raise _) v

@[simp] theorem needsKey_raise (v : Value) : (w.raise s).needsKey v = s.needsKey v := by
  rw [Store.needsKey, isKey_raise, Store.needsKey]

/-! ### Rows -/

section Rows

variable {eq eq' : Value → Value → Except Fault Bool}

theorem allEqual_congr {vs ws : List Value} (h : ∀ a ∈ vs, ∀ b ∈ ws, eq a b = eq' a b) :
    Store.allEqual eq vs ws = Store.allEqual eq' vs ws := by
  induction vs generalizing ws with
  | nil => cases ws <;> rfl
  | cons a vs ih =>
    cases ws with
    | nil => rfl
    | cons b ws =>
      rw [Store.allEqual, Store.allEqual, h a List.mem_cons_self b List.mem_cons_self,
        ih fun a ha b hb => h a (List.mem_cons_of_mem _ ha) b (List.mem_cons_of_mem _ hb)]

theorem agrees_findEntry {key : Value} {es : List (Value × Value)}
    (h : ∀ p ∈ es, eq p.1 key = eq' p.1 key) :
    Agrees (fun found => ∀ a, found = some a → ∃ k, (k, a) ∈ es) (Store.findEntry? eq key es)
      (Store.findEntry? eq' key es) := by
  induction es with
  | nil => exact .ok fun a ha => nomatch ha
  | cons p es ih =>
    obtain ⟨k, a⟩ := p
    rw [Store.findEntry?, Store.findEntry?]
    refine (Agrees.of_eq (h _ List.mem_cons_self)).bind fun b _ _ => ?_
    cases b with
    | true => exact .ok fun a' ha' => ⟨k, Option.some.inj ha' ▸ List.mem_cons_self⟩
    | false =>
      refine (ih fun p hp => h p (List.mem_cons_of_mem _ hp)).imp fun found hfound a' ha' => ?_
      obtain ⟨k', hk'⟩ := hfound a' ha'
      exact ⟨k', List.mem_cons_of_mem _ hk'⟩

theorem isAmong_congr {a : Value} {vs : List Value} (h : ∀ b ∈ vs, eq b a = eq' b a) :
    Store.isAmong eq a vs = Store.isAmong eq' a vs := by
  induction vs with
  | nil => rfl
  | cons b vs ih =>
    rw [Store.isAmong, Store.isAmong, h b List.mem_cons_self,
      ih fun b hb => h b (List.mem_cons_of_mem _ hb)]

theorem areEntries_congr {others es : List (Value × Value)}
    (hkey : ∀ p ∈ es, ∀ q ∈ others, eq q.1 p.1 = eq' q.1 p.1)
    (hvalue : ∀ p ∈ es, ∀ q ∈ others, eq p.2 q.2 = eq' p.2 q.2) :
    Store.areEntries eq others es = Store.areEntries eq' others es := by
  induction es with
  | nil => rfl
  | cons p es ih =>
    obtain ⟨k, a⟩ := p
    have hrest := ih (fun p hp => hkey p (List.mem_cons_of_mem _ hp))
      fun p hp => hvalue p (List.mem_cons_of_mem _ hp)
    rw [Store.areEntries, Store.areEntries]
    refine (Agrees.bind (Q := fun _ => True) (agrees_findEntry (hkey _ List.mem_cons_self))
      fun found _ hfound => ?_).eq
    cases found with
    | none => exact .of_eq rfl
    | some b =>
      obtain ⟨k', hmem⟩ := hfound b rfl
      have heq : eq a b = eq' a b := hvalue _ List.mem_cons_self _ hmem
      exact .of_eq (by simp only [heq, hrest])

/-! ### Members -/

/-- What a member consists of is in sight. -/
def ShowsMember (w : Veil) (s : Store) : Member → Prop
  | .value a => w.Shows s a
  | .entry k a => w.Shows s k ∧ w.Shows s a

theorem Covers.shows_membersOf? (hs : w.Covers s) (hv : w.Shows s v) {ms : List Member}
    (h : s.membersOf? v = some ms) : ∀ m ∈ ms, w.ShowsMember s m := by
  rw [Store.membersOf?] at h
  split at h
  · next ho =>
    obtain rfl := Option.some.inj h
    intro m hm
    obtain ⟨a, ha, rfl⟩ := List.mem_map.1 hm
    exact hs.innocent_of_objectOf? hv ho a ha
  · next ho =>
    obtain rfl := Option.some.inj h
    intro m hm
    obtain ⟨p, hp, rfl⟩ := List.mem_map.1 hm
    exact (hs.shows_entries (hs.innocent_of_objectOf? hv ho) p hp).1
  · next ho =>
    obtain rfl := Option.some.inj h
    intro m hm
    obtain ⟨p, hp, rfl⟩ := List.mem_map.1 hm
    exact hs.shows_entries (hs.innocent_of_objectOf? hv ho) p hp
  · exact nomatch h

/-- Two tests agree on all that is in sight. -/
def TestsAlike (w : Veil) (s : Store) (eq eq' : Value → Value → Except Fault Bool) : Prop :=
  ∀ a b, w.Shows s a → w.Shows s b → eq a b = eq' a b

theorem equalMember_congr (hs : w.Covers s) (heq : w.TestsAlike s eq eq') {m n : Member}
    (hm : w.ShowsMember s m) (hn : w.ShowsMember s n) :
    (w.raise s).equalMember eq m n = s.equalMember eq' m n := by
  -- an entry is compared with a value part by part, if the value is a pair
  have hmixed : ∀ k a b, w.Shows s k → w.Shows s a → w.Shows s b →
      (w.raise s).equalMember eq (.entry k a) (.value b) =
        s.equalMember eq' (.entry k a) (.value b) := by
    intro k a b hk ha hb
    rw [Store.equalMember, Store.equalMember, objectOf?_raise]
    split
    · next x y ho =>
      have hpair := hs.innocent_of_objectOf? hb ho
      have hx : w.Shows s x := hpair x List.mem_cons_self
      have hy : w.Shows s y := hpair y (List.mem_cons_of_mem _ List.mem_cons_self)
      rw [heq x k hx hk, heq y a hy ha]
    · rfl
  cases m with
  | value a =>
    cases n with
    | value b => exact heq a b hm hn
    | entry k b => exact hmixed k b a hn.1 hn.2 hm
  | entry k a =>
    cases n with
    | value b => exact hmixed k a b hm.1 hm.2 hn
    | entry l b => rw [Store.equalMember, Store.equalMember, heq k l hm.1 hn.1, heq a b hm.2 hn.2]

theorem findM?_congr {α : Type} {p q : α → Except Fault Bool} {l : List α}
    (h : ∀ a ∈ l, p a = q a) : l.findM? p = l.findM? q := by
  induction l with
  | nil => rfl
  | cons a l ih =>
    rw [List.findM?, List.findM?, h a List.mem_cons_self,
      ih fun a ha => h a (List.mem_cons_of_mem _ ha)]

theorem isMember_congr (hs : w.Covers s) (heq : w.TestsAlike s eq eq') {m : Member}
    {ns : List Member} (others : Value) (hm : w.ShowsMember s m)
    (hns : ∀ n ∈ ns, w.ShowsMember s n) :
    (w.raise s).isMember eq m others ns = s.isMember eq' m others ns := by
  have hfind : ns.findM? ((w.raise s).equalMember eq m) = ns.findM? (s.equalMember eq' m) :=
    findM?_congr fun n hn => equalMember_congr hs heq hm (hns n hn)
  unfold Store.isMember
  simp only [hfind, objectOf?_raise, needsKey_raise]

theorem includes_congr (hs : w.Covers s) (heq : w.TestsAlike s eq eq') {ms ns : List Member}
    (others : Value) (hms : ∀ m ∈ ms, w.ShowsMember s m) (hns : ∀ n ∈ ns, w.ShowsMember s n) :
    (w.raise s).includes eq others ns ms = s.includes eq' others ns ms := by
  induction ms with
  | nil => rfl
  | cons m ms ih =>
    rw [Store.includes, Store.includes, isMember_congr hs heq others (hms m List.mem_cons_self) hns,
      ih fun m hm => hms m (List.mem_cons_of_mem _ hm)]

theorem comparedMembers?_congr (hs : w.Covers s) (heq : w.TestsAlike s eq eq')
    (op : Payload.CompareOp) (hv : w.Shows s v) (hv' : w.Shows s v') :
    (w.raise s).comparedMembers? eq op v v' = s.comparedMembers? eq' op v v' := by
  have hmembers : ∀ u, (w.raise s).membersOf? u = s.membersOf? u := fun u => by
    rw [Store.membersOf?, Store.membersOf?, objectOf?_raise]
    rfl
  rw [Store.comparedMembers?, Store.comparedMembers?, hmembers, hmembers]
  split
  · next ms ns hms hns =>
    have hms := hs.shows_membersOf? hv hms
    have hns := hs.shows_membersOf? hv' hns
    rw [includes_congr hs heq v' hms hns, includes_congr hs heq v hns hms]
  · rfl

end Rows

/-! ### Equality -/

section Equality

variable {vs ws : List Value}

theorem TestsAlike.allEqual {eq eq' : Value → Value → Except Fault Bool}
    (h : w.TestsAlike s eq eq') (hvs : w.ShowsAll s vs) (hws : w.ShowsAll s ws) :
    Store.allEqual eq vs ws = Store.allEqual eq' vs ws :=
  allEqual_congr fun a ha b hb => h a b (hvs a ha) (hws b hb)

theorem TestsAlike.areEntries {eq eq' : Value → Value → Except Fault Bool}
    (h : w.TestsAlike s eq eq') {es es' : List (Value × Value)} (hes : w.ShowsEntries s es)
    (hes' : w.ShowsEntries s es') : Store.areEntries eq es' es = Store.areEntries eq' es' es :=
  areEntries_congr (fun p hp q hq => h _ _ (hes' q hq).1 (hes p hp).1)
    fun p hp q hq => h _ _ (hes p hp).2 (hes' q hq).2

/-- The fields of a record as the entries of a dictionary. -/
theorem ShowsBound.entries {b : Bindings} (h : w.ShowsBound s b) :
    w.ShowsEntries s (b.map fun p => (.ofText p.1, p.2)) := by
  intro q hq
  obtain ⟨p, hp, rfl⟩ := List.mem_map.1 hq
  exact ⟨trivial, h p hp⟩

/-- **Whether two values in sight are equal** does not depend on the hidden items. -/
theorem equalWithin_raise (hs : w.Covers s) (fuel : Nat) :
    w.TestsAlike s ((w.raise s).equalWithin fuel) (s.equalWithin fuel) := by
  induction fuel with
  | zero => exact fun _ _ _ _ => rfl
  | succ fuel ih =>
    intro a b ha hb
    have heq : w.TestsAlike s
        (fun a b => if a = b then .ok true else (w.raise s).equalWithin fuel a b)
        (fun a b => if a = b then .ok true else s.equalWithin fuel a b) :=
      fun a b ha hb => by simp only [ih a b ha hb]
    unfold Store.equalWithin
    cases a with
    | receiver i =>
      cases b with
      | receiver j =>
        change Except.ok ((w.raise s).items i == (w.raise s).items j) = _
        rw [items_raise ha, items_raise hb]
        rfl
      | _ => rfl
    | object i =>
      cases b with
      | object j =>
        -- the parts of two objects are compared with less fuel; both are in sight
        by_cases hij : i = j
        · simp only [hij, if_true]
        · simp only [if_neg hij, object?_raise, Value.quantity?]
          have hi := fun o => hs.innocent_of_object? (o := o) ha
          have hj := fun o => hs.innocent_of_object? (o := o) hb
          split
          · next h h' => exact heq.allEqual (hi _ h) (hj _ h')
          · next h h' => exact heq.allEqual (hi _ h) (hj _ h')
          · next h h' =>
            obtain ⟨hi₁, hi₂, hi₃⟩ := hi _ h
            obtain ⟨hj₁, hj₂, hj₃⟩ := hj _ h'
            exact heq.allEqual (by simp [ShowsAll, hi₁, hi₂, hi₃])
              (by simp [ShowsAll, hj₁, hj₂, hj₃])
          · next h h' => rw [heq.areEntries (hi _ h) (hj _ h')]
          · next h h' => rw [heq.areEntries (ShowsBound.entries (hi _ h)) (ShowsBound.entries (hj _ h'))]
          · rfl
          · rfl
          · rw [comparedMembers?_congr hs heq _ hb ha]
          · rw [comparedMembers?_congr hs heq _ ha hb]
      | _ => rfl
    | _ => cases b <;> rfl

/-- **Whether two values in sight are equal** does not depend on the hidden items. -/
theorem equal_raise (hs : w.Covers s) : w.TestsAlike s (w.raise s).equal s.equal :=
  equalWithin_raise hs _

theorem sameOrEqual_raise (hs : w.Covers s) : w.TestsAlike s (w.raise s).sameOrEqual s.sameOrEqual := by
  intro a b ha hb
  rw [Store.sameOrEqual, Store.sameOrEqual, equal_raise hs a b ha hb]

theorem isAmong_raise (hs : w.Covers s) {a : Value} (ha : w.Shows s a) (hvs : w.ShowsAll s vs) :
    Store.isAmong (w.raise s).sameOrEqual a vs = Store.isAmong s.sameOrEqual a vs :=
  isAmong_congr fun b hb => sameOrEqual_raise hs b a (hvs b hb) ha

@[simp] theorem same_raise (a b : Value) : (w.raise s).same a b = s.same a b := by
  rw [Store.same, Store.same, objectOf?_raise, objectOf?_raise]

theorem alikeWithin_raise (fuel : Nat) : (w.raise s).alikeWithin fuel = s.alikeWithin fuel := by
  induction fuel with
  | zero => rfl
  | succ fuel ih =>
    funext a b
    unfold Store.alikeWithin
    rw [ih, objectOf?_raise, objectOf?_raise]

@[simp] theorem alike_raise (a b : Value) : (w.raise s).alike a b = s.alike a b :=
  congrFun (congrFun (alikeWithin_raise _) a) b

/-! ### Dictionaries -/

/-- **The value of a key in a dictionary.** -/
theorem agrees_lookup? (hs : w.Covers s) {id : Nat} {key : Value} (hid : w.Shows s (.object id))
    (hkey : w.Shows s key) : Agrees (w.ShowsIf s) ((w.raise s).lookup? id key) (s.lookup? id key) := by
  have hentries := hs.shows_entries hid
  rw [Store.lookup?, Store.lookup?, needsKey_raise]
  refine (Agrees.of_eq rfl).bind fun _ _ _ => ?_
  refine (agrees_findEntry fun p hp => ?_).imp fun found hfound a ha => ?_
  · exact sameOrEqual_raise hs p.1 key (hentries p hp).1 hkey
  · obtain ⟨k, hk⟩ := hfound a ha
    exact (hentries _ hk).2

theorem agrees_setEntry (hs : w.Covers s) {key : Value} (hkey : w.Shows s key) (hv : w.Shows s v)
    {es : List (Value × Value)} (hes : w.ShowsEntries s es) :
    Agrees (w.ShowsEntries s) ((w.raise s).setEntry key v es) (s.setEntry key v es) := by
  induction es with
  | nil => exact .ok fun p hp => List.mem_singleton.1 hp ▸ ⟨hkey, hv⟩
  | cons p es ih =>
    obtain ⟨k, a⟩ := p
    obtain ⟨hp, hes⟩ := List.forall_mem_cons.1 hes
    rw [Store.setEntry, Store.setEntry, sameOrEqual_raise hs k key hp.1 hkey]
    refine (Agrees.of_eq rfl).bind fun b _ _ => ?_
    cases b with
    | true => exact .ok (List.forall_mem_cons.2 ⟨⟨hp.1, hv⟩, hes⟩)
    | false => exact (ih hes).bind fun es' _ hes' => .ok (List.forall_mem_cons.2 ⟨hp, hes'⟩)

/-! ### Order -/

theorem orderedParts_congr {eq eq' ord ord' : Value → Value → Except Fault Bool}
    (op : Payload.CompareOp) (heq : w.TestsAlike s eq eq') (hord : w.TestsAlike s ord ord')
    (hvs : w.ShowsAll s vs) (hws : w.ShowsAll s ws) :
    Store.orderedParts eq ord op vs ws = Store.orderedParts eq' ord' op vs ws := by
  induction vs generalizing ws with
  | nil => cases ws <;> rfl
  | cons a vs ih =>
    cases ws with
    | nil => rfl
    | cons b ws =>
      obtain ⟨ha, hvs⟩ := List.forall_mem_cons.1 hvs
      obtain ⟨hb, hws⟩ := List.forall_mem_cons.1 hws
      rw [Store.orderedParts, Store.orderedParts, heq a b ha hb, hord a b ha hb, ih hvs hws]

theorem orderedWithin_raise (hs : w.Covers s) (op : Payload.CompareOp) (fuel : Nat) :
    w.TestsAlike s ((w.raise s).orderedWithin op fuel) (s.orderedWithin op fuel) := by
  induction fuel with
  | zero => exact fun _ _ _ _ => rfl
  | succ fuel ih =>
    intro a b ha hb
    have heq := sameOrEqual_raise hs
    unfold Store.orderedWithin
    cases a with
    | object i =>
      cases b with
      | object j =>
        simp only [object?_raise, Value.quantity?]
        have hi := fun o => hs.innocent_of_object? (o := o) ha
        have hj := fun o => hs.innocent_of_object? (o := o) hb
        split
        · next h h' => exact orderedParts_congr op heq ih (hi _ h) (hj _ h')
        · next h h' => exact orderedParts_congr op heq ih (hi _ h) (hj _ h')
        · rw [comparedMembers?_congr hs heq _ ha hb]
      | _ => rfl
    | _ => cases b <;> rfl

/-- **Which of two values in sight comes first** does not depend on the hidden items. -/
theorem ordered_raise (hs : w.Covers s) (op : Payload.CompareOp) :
    w.TestsAlike s ((w.raise s).ordered op) (s.ordered op) :=
  orderedWithin_raise hs op _

end Equality

end TokenTemplate.Veil
