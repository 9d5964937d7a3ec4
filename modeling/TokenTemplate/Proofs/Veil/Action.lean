import TokenTemplate.Proofs.Run.Ending
import TokenTemplate.Proofs.Veil.Basic

/-!
# Actions behind a veil

An action mirrors what the veil hides (`TokenTemplate.Veil.Mirrors`) if it ends in the same way
whether or not the hidden items are there, and leaves stores that differ in nothing else. Each of the
actions that others are made of does so when it is given what is in sight, and so does one action
after another (`TokenTemplate.Veil.Mirrors.bind`). Writing does so in any case, even to the receiver
itself.

What is only looked up in a store is the same behind the veil if the two computations agree,
`TokenTemplate.Agrees`.
-/

namespace TokenTemplate

/-! ### Computations that agree -/

/-- **Two computations end in the same way**, and their value has a property. -/
structure Agrees {α : Type} (P : α → Prop) (x y : Except Fault α) : Prop where
  /-- They are the same. -/
  eq : x = y
  /-- The value, if there is one. -/
  value : ∀ a, y = .ok a → P a

namespace Agrees

variable {α β : Type} {P : α → Prop} {Q : β → Prop} {x y : Except Fault α}

theorem ok {a : α} (h : P a) : Agrees P (.ok a) (.ok a) :=
  ⟨rfl, fun _ hb => Except.ok.inj hb ▸ h⟩

theorem error (e : Fault) : Agrees P (.error e) (.error e) :=
  ⟨rfl, fun _ h => nomatch h⟩

theorem of_eq (h : x = y) : Agrees (fun _ => True) x y :=
  ⟨h, fun _ _ => trivial⟩

theorem imp {P' : α → Prop} (h : Agrees P x y) (hP : ∀ a, P a → P' a) : Agrees P' x y :=
  ⟨h.eq, fun a ha => hP a (h.value a ha)⟩

/-- **One computation after another.** -/
theorem bind {f g : α → Except Fault β} (h : Agrees P x y)
    (hf : ∀ a, y = .ok a → P a → Agrees Q (f a) (g a)) : Agrees Q (x >>= f) (y >>= g) := by
  obtain ⟨rfl, hvalue⟩ := h
  cases x with
  | error e => exact .error e
  | ok a => exact hf a rfl (hvalue a rfl)

theorem map {f : α → β} (h : Agrees P x y) (hf : ∀ a, P a → Q (f a)) :
    Agrees Q (f <$> x) (f <$> y) := by
  obtain ⟨rfl, hvalue⟩ := h
  cases x with
  | error e => exact .error e
  | ok a => exact .ok (hf a (hvalue a rfl))

theorem mapM {l : List α} {f g : α → Except Fault β} (h : ∀ a ∈ l, Agrees Q (f a) (g a)) :
    Agrees (fun bs => ∀ b ∈ bs, Q b) (l.mapM f) (l.mapM g) := by
  induction l with
  | nil => exact .ok fun b hb => nomatch hb
  | cons a l ih =>
    rw [List.mapM_cons, List.mapM_cons]
    refine (h a List.mem_cons_self).bind fun b _ hb => ?_
    refine (ih fun a' ha' => h a' (List.mem_cons_of_mem _ ha')).bind fun bs _ hbs => .ok ?_
    exact List.forall_mem_cons.2 ⟨hb, hbs⟩

theorem foldlM {l : List α} {f g : β → α → Except Fault β} {b : β} (hb : Q b)
    (h : ∀ b, ∀ a ∈ l, Q b → Agrees Q (f b a) (g b a)) : Agrees Q (l.foldlM f b) (l.foldlM g b) := by
  induction l generalizing b with
  | nil => exact .ok hb
  | cons a l ih =>
    rw [List.foldlM_cons, List.foldlM_cons]
    refine (h b a List.mem_cons_self hb).bind fun b' _ hb' => ih hb' fun c a' ha' => ?_
    exact h c a' (List.mem_cons_of_mem _ ha')

theorem filterM {l : List α} {p q : α → Except Fault Bool}
    (h : ∀ a ∈ l, Agrees (fun _ => True) (p a) (q a)) :
    Agrees (fun kept => ∀ a ∈ kept, a ∈ l) (l.filterM p) (l.filterM q) := by
  have heq : ∀ l' : List α, (∀ a ∈ l', a ∈ l) → ∀ kept : List α, (∀ a ∈ kept, a ∈ l) →
      Agrees (fun kept => ∀ a ∈ kept, a ∈ l) (List.filterAuxM p l' kept)
        (List.filterAuxM q l' kept) := by
    intro l'
    induction l' with
    | nil => exact fun _ kept hkept => .ok hkept
    | cons a l' ih =>
      intro hl' kept hkept
      rw [List.filterAuxM, List.filterAuxM]
      have ha := hl' a List.mem_cons_self
      refine (h a ha).bind fun b _ _ => ih (fun c hc => hl' c (List.mem_cons_of_mem _ hc)) _ ?_
      cases b with
      | true => exact List.forall_mem_cons.2 ⟨ha, hkept⟩
      | false => exact hkept
  refine (heq l (fun _ => id) [] fun _ ha => nomatch ha).bind fun kept _ hkept => .ok ?_
  exact fun a ha => hkept a (List.mem_reverse.1 ha)

end Agrees

namespace Veil

variable {α β : Type} {w : Veil} {s t : Store} {x : Action α}

/-! ### Actions that mirror what is hidden -/

/-- **An action ends in the same way with and without the hidden items**, in stores that differ in these
alone; what is in sight then still does not lead to the receiver, and the value has a property. -/
structure Mirrors (w : Veil) (x : Action α) (s : Store) (P : Store → α → Prop) : Prop where
  /-- The value, or the fault. -/
  outcome_eq : (x (w.raise s)).outcome = (x s).outcome
  /-- The store. -/
  store_eq : (x (w.raise s)).store = w.raise (x s).store
  /-- The veil still covers the receiver. -/
  covers : w.Covers (x s).store
  /-- What becomes of the store. -/
  precedes : w.Precedes s (x s).store
  /-- The property. -/
  value : ∀ a, (x s).outcome = .ok a → P (x s).store a

namespace Mirrors

variable {P P' : Store → α → Prop} {Q : Store → β → Prop}

theorem imp (h : w.Mirrors x s P) (hP : ∀ t a, P t a → P' t a) : w.Mirrors x s P' :=
  ⟨h.outcome_eq, h.store_eq, h.covers, h.precedes, fun a ha => hP _ a (h.value a ha)⟩

/-- What is known of the store in which the action ends can be used. -/
theorem imp_of_precedes (h : w.Mirrors x s P) (hP : ∀ t a, w.Precedes s t → P t a → P' t a) :
    w.Mirrors x s P' :=
  ⟨h.outcome_eq, h.store_eq, h.covers, h.precedes, fun a ha => hP _ a h.precedes (h.value a ha)⟩

theorem pure {a : α} (hs : w.Covers s) (h : P s a) : w.Mirrors (pure a) s P :=
  ⟨rfl, rfl, hs, .refl w s, fun _ hb => Except.ok.inj hb ▸ h⟩

theorem fail (e : Fault) (hs : w.Covers s) : w.Mirrors (Action.fail e) s P :=
  ⟨rfl, rfl, hs, .refl w s, fun _ h => nomatch h⟩

theorem failWith (k : ErrorKind) (hs : w.Covers s) : w.Mirrors (Action.failWith k) s P :=
  fail _ hs

/-- **One action, and then another one.** -/
theorem followedBy {f : Except Fault α → Action β} (hx : w.Mirrors x s P)
    (hf : ∀ o t, w.Covers t → w.Precedes s t → (∀ a, o = .ok a → P t a) → w.Mirrors (f o) t Q) :
    w.Mirrors (x.followedBy f) s Q := by
  have h := hf (x s).outcome (x s).store hx.covers hx.precedes hx.value
  refine ⟨?_, ?_, h.covers, hx.precedes.trans h.precedes, h.value⟩
  · rw [Action.outcome_followedBy, Action.outcome_followedBy, hx.outcome_eq, hx.store_eq]
    exact h.outcome_eq
  · rw [Action.store_followedBy, Action.store_followedBy, hx.outcome_eq, hx.store_eq]
    exact h.store_eq

/-- One action, and then another one with its value. -/
theorem bind {f : α → Action β} (hx : w.Mirrors x s P)
    (hf : ∀ a t, w.Covers t → w.Precedes s t → P t a → w.Mirrors (f a) t Q) :
    w.Mirrors (x >>= f) s Q := by
  rw [Action.bind_eq_followedBy]
  refine hx.followedBy fun o t ht hle hvalue => ?_
  cases o with
  | error e => exact fail e ht
  | ok a => exact hf a t ht hle (hvalue a rfl)

theorem map {f : α → β} (hx : w.Mirrors x s P) (hf : ∀ t a, P t a → Q t (f a)) :
    w.Mirrors (f <$> x) s Q := by
  rw [map_eq_pure_bind]
  exact hx.bind fun a t ht _ ha => pure ht (hf t a ha)

theorem discard (hx : w.Mirrors x s P) : w.Mirrors (discard x) s fun _ _ => True :=
  hx.bind fun _ _ ht _ _ => pure ht trivial

/-- Another action after a fault. -/
theorem recover {f : Fault → Action α} (hx : w.Mirrors x s P)
    (hf : ∀ e t, w.Covers t → w.Precedes s t → w.Mirrors (f e) t P) :
    w.Mirrors (x.recover f) s P := by
  rw [Action.recover_eq_followedBy]
  refine hx.followedBy fun o t ht hle hvalue => ?_
  cases o with
  | error e => exact hf e t ht hle
  | ok a => exact pure ht (hvalue a rfl)

theorem reword {f : Fault → Fault} (hx : w.Mirrors x s P) : w.Mirrors (x.reword f) s P :=
  hx.recover fun _ _ ht _ => fail _ ht

/-! ### What is seen in the store -/

theorem look {f : Store → α} (hs : w.Covers s) (hf : f (w.raise s) = f s) (h : P s (f s)) :
    w.Mirrors (Action.look f) s P :=
  ⟨congrArg Except.ok hf, rfl, hs, .refl w s, fun _ ha => Except.ok.inj ha ▸ h⟩

/-- What is seen is used by another action. -/
theorem look_bind {f : Store → α} {g : α → Action β} (hs : w.Covers s) (hf : f (w.raise s) = f s)
    (hg : w.Mirrors (g (f s)) s Q) : w.Mirrors (Action.look f >>= g) s Q := by
  have hlook : w.Mirrors (Action.look f) s fun t a => t = s ∧ a = f s := look hs hf ⟨rfl, rfl⟩
  refine hlook.bind fun a t _ _ ha => ?_
  obtain ⟨rfl, rfl⟩ := ha
  exact hg

theorem ofStore {f : Store → Except Fault α} {R : α → Prop} (hs : w.Covers s)
    (h : Agrees R (f (w.raise s)) (f s)) (hR : ∀ a, R a → P s a) : w.Mirrors (Action.ofStore f) s P :=
  ⟨h.eq, rfl, hs, .refl w s, fun a ha => hR a (h.value a ha)⟩

/-- What is seen, if it can be seen, is used by another action. -/
theorem ofStore_bind {f : Store → Except Fault α} {g : α → Action β} {R : α → Prop}
    (hs : w.Covers s) (h : Agrees R (f (w.raise s)) (f s))
    (hg : ∀ a, R a → w.Mirrors (g a) s Q) : w.Mirrors (Action.ofStore f >>= g) s Q := by
  have hf : w.Mirrors (Action.ofStore f) s fun t a => t = s ∧ R a :=
    ofStore hs h fun a ha => ⟨rfl, ha⟩
  refine hf.bind fun a t _ _ ha => ?_
  obtain ⟨rfl, ha⟩ := ha
  exact hg a ha

theorem ofExcept {o : Except Fault α} (hs : w.Covers s) (h : ∀ a, o = .ok a → P s a) :
    w.Mirrors (Action.ofExcept o) s P :=
  ofStore hs ⟨rfl, h⟩ fun _ => id

/-! ### Rows of actions -/

theorem foldlM {l : List β} {f : α → β → Action α} {a : α} (hs : w.Covers s) (ha : P s a)
    (hf : ∀ a, ∀ b ∈ l, ∀ t, w.Covers t → w.Precedes s t → P t a → w.Mirrors (f a b) t P) :
    w.Mirrors (l.foldlM f a) s P := by
  induction l generalizing s a with
  | nil => exact pure hs ha
  | cons b l ih =>
    rw [List.foldlM_cons]
    refine (hf a b List.mem_cons_self s hs (.refl w s) ha).bind fun a' t ht hle ha' => ?_
    refine ih ht ha' fun c b' hb' u hu hle' => ?_
    exact hf c b' (List.mem_cons_of_mem _ hb') u hu (hle.trans hle')

theorem mapM {l : List β} {f : β → Action α} (hs : w.Covers s)
    (hP : ∀ {t u a}, P t a → w.Precedes t u → P u a)
    (hf : ∀ b ∈ l, ∀ t, w.Covers t → w.Precedes s t → w.Mirrors (f b) t P) :
    w.Mirrors (l.mapM f) s fun t as => ∀ a ∈ as, P t a := by
  induction l generalizing s with
  | nil => exact pure hs fun a ha => nomatch ha
  | cons b l ih =>
    rw [List.mapM_cons]
    refine (hf b List.mem_cons_self s hs (.refl w s)).bind fun a t ht hle ha => ?_
    refine (ih ht fun b' hb' u hu hle' => hf b' (List.mem_cons_of_mem _ hb') u hu
      (hle.trans hle')).bind fun as u hu hle' has => pure hu ?_
    exact List.forall_mem_cons.2 ⟨hP ha hle', has⟩

theorem forM {l : List β} {f : β → Action PUnit} (hs : w.Covers s)
    (hf : ∀ b ∈ l, ∀ t, w.Covers t → w.Precedes s t → w.Mirrors (f b) t fun _ _ => True) :
    w.Mirrors (l.forM f) s fun _ _ => True := by
  induction l generalizing s with
  | nil => exact pure hs trivial
  | cons b l ih =>
    change w.Mirrors (f b >>= fun _ => l.forM f) s _
    refine (hf b List.mem_cons_self s hs (.refl w s)).bind fun _ t ht hle _ => ?_
    exact ih ht fun b' hb' u hu hle' => hf b' (List.mem_cons_of_mem _ hb') u hu (hle.trans hle')

theorem filterM {l : List β} {f : β → Action Bool} (hs : w.Covers s)
    (hf : ∀ b ∈ l, ∀ t, w.Covers t → w.Precedes s t → w.Mirrors (f b) t fun _ _ => True) :
    w.Mirrors (l.filterM f) s fun _ kept => ∀ b ∈ kept, b ∈ l := by
  have h : ∀ l' : List β, (∀ b ∈ l', b ∈ l) → ∀ (kept : List β) (t : Store), w.Covers t →
      w.Precedes s t → (∀ b ∈ kept, b ∈ l) →
      w.Mirrors (List.filterAuxM f l' kept) t fun _ kept => ∀ b ∈ kept, b ∈ l := by
    intro l'
    induction l' with
    | nil => exact fun _ kept t ht _ hkept => pure ht hkept
    | cons b l' ih =>
      intro hl' kept t ht hle hkept
      rw [List.filterAuxM]
      have hb := hl' b List.mem_cons_self
      refine (hf b hb t ht hle).bind fun c u hu hle' _ => ?_
      refine ih (fun b' hb' => hl' b' (List.mem_cons_of_mem _ hb')) _ u hu (hle.trans hle') ?_
      cases c with
      | true => exact List.forall_mem_cons.2 ⟨hb, hkept⟩
      | false => exact hkept
  refine (h l (fun _ => id) [] s hs (.refl w s) fun _ hb => nomatch hb).bind
    fun kept t ht _ hkept => pure ht ?_
  exact fun b hb => hkept b (List.mem_reverse.1 hb)

/-! ### Objects -/

/-- A new object has a number that is in sight, if it is not a frame. -/
theorem allocate {o : Object} (hs : w.Covers s) (ho : w.Innocent s o) :
    w.Mirrors (Action.allocate o) s fun t id => t.object? id = some o ∧ ¬ w.apart id := by
  have hle : w.Precedes s (s.allocate o).2 := by
    intro id o' ho'
    refine ⟨o', ?_, .refl w o'⟩
    have hlt : id < s.objects.size := (Array.getElem?_eq_some_iff.1 ho').1
    exact (Array.getElem?_push_lt hlt).trans ((Array.getElem?_eq_getElem hlt).symm.trans ho')
  have hnew : ¬ w.apart s.objects.size := fun h => Nat.lt_irrefl _ (hs.apart_lt _ h)
  refine ⟨rfl, rfl, ⟨hs.target_lt, fun id hid => ?_, fun id o' ho' hapart => ?_⟩, hle, fun id hid => ?_⟩
  · exact Nat.lt_of_lt_of_le (hs.apart_lt id hid) (by simp [Action.allocate, Store.allocate])
  · change (s.objects.push o)[id]? = some o' at ho'
    rw [Array.getElem?_push] at ho'
    split at ho'
    · obtain rfl := Option.some.inj ho'
      exact ho.mono hle
    · exact (hs.innocent id o' ho' hapart).mono hle
  · obtain rfl := Except.ok.inj hid
    exact ⟨Array.getElem?_push_size, hnew⟩

theorem new {o : Object} (hs : w.Covers s) (ho : w.Innocent s o) (hnames : o.names? = none) :
    w.Mirrors (Action.new o) s w.Shows :=
  (allocate hs ho).bind fun _ _ ht _ hid => pure ht ⟨hid.2, o, hid.1, hnames⟩

/-- **An object is changed** into what may become of it. -/
theorem setObject {id : Nat} {o : Object} (hs : w.Covers s) (ho : w.Innocent s o)
    (hbecomes : ∀ o', s.object? id = some o' → w.Becomes o' o) :
    w.Mirrors (Action.setObject id o) s fun _ _ => True := by
  have hle : w.Precedes s { s with objects := s.objects.setIfInBounds id o } := by
    intro id' o' ho'
    change ∃ o'', (s.objects.setIfInBounds id o)[id']? = some o'' ∧ w.Becomes o' o''
    rw [Array.getElem?_setIfInBounds]
    split
    · next heq =>
      subst heq
      rw [if_pos (Array.getElem?_eq_some_iff.1 ho').1]
      exact ⟨o, rfl, hbecomes o' ho'⟩
    · exact ⟨o', ho', .refl w o'⟩
  refine ⟨rfl, rfl, ⟨hs.target_lt, fun id' hid => ?_, fun id' o' ho' hapart => ?_⟩, hle,
    fun _ _ => trivial⟩
  · exact Nat.lt_of_lt_of_le (hs.apart_lt id' hid) (by simp [Action.setObject])
  · change (s.objects.setIfInBounds id o)[id']? = some o' at ho'
    rw [Array.getElem?_setIfInBounds] at ho'
    split at ho'
    · split at ho'
      · obtain rfl := Option.some.inj ho'
        exact ho.mono hle
      · exact absurd ho' (Option.some_ne_none _).symm
    · exact (hs.innocent id' o' ho' hapart).mono hle

/-- An object that is no frame is changed into another one that is none. -/
theorem setObject_of_names? {id : Nat} {o : Object} (hs : w.Covers s) (ho : w.Innocent s o)
    (hnames : o.names? = none) (hid : w.Shows s (.object id)) :
    w.Mirrors (Action.setObject id o) s fun _ _ => True := by
  obtain ⟨-, o', ho', hnames'⟩ := hid
  refine setObject hs ho fun o'' ho'' => .of_names?_eq_none ?_ hnames
  rw [Option.some.inj (ho''.symm.trans ho')]
  exact hnames'

theorem made {v : Value} (hs : w.Covers s) (hv : w.Shows s v) :
    w.Mirrors (Action.made v) s w.Shows := by
  have hle : w.Precedes s (s.made v).2 := .of_objects_eq rfl
  refine ⟨rfl, rfl, hs.of_objects_eq rfl hs.target_lt, hle, fun a ha => ?_⟩
  rw [← Except.ok.inj ha]
  exact (shows_withOrigin hv _).mono hle

theorem int (n : Int) (hs : w.Covers s) : w.Mirrors (Action.int n) s w.Shows :=
  made hs trivial

theorem real (x : Float) (hs : w.Covers s) : w.Mirrors (Action.real x) s w.Shows :=
  made hs trivial

theorem text (t : String) (hs : w.Covers s) : w.Mirrors (Action.text t) s w.Shows :=
  made hs trivial

theorem keepCall {args : List Value} (hs : w.Covers s) :
    w.Mirrors (Action.keepCall args) s fun _ _ => True := by
  exact ⟨rfl, rfl, hs.of_objects_eq rfl hs.target_lt, .of_objects_eq rfl, fun _ _ => trivial⟩

/-! ### Receivers -/

/-- A new receiver is another one. -/
theorem newReceiver (hs : w.Covers s) :
    w.Mirrors Action.newReceiver s fun _ id => id ≠ w.target := by
  have hne : s.receivers.size ≠ w.target := Nat.ne_of_gt hs.target_lt
  have hsize : (w.raise s).receivers.size = s.receivers.size := by simp [raise]
  refine ⟨congrArg Except.ok hsize, ?_, hs.of_objects_eq rfl ?_, .of_objects_eq rfl, fun id hid => ?_⟩
  · change ({ w.raise s with receivers := _ } : Store) = { s with receivers := _ }
    refine congrArg (fun r => ({ s with receivers := r } : Store)) (Array.ext_getElem? fun i => ?_)
    change ((s.receivers.modify w.target _).push _)[i]? = ((s.receivers.push _).modify w.target _)[i]?
    rw [Array.getElem?_push, Array.getElem?_modify, Array.getElem?_modify, Array.getElem?_push,
      Array.size_modify]
    by_cases h : i = s.receivers.size
    · rw [if_pos h, if_pos h, if_neg (h ▸ hne.symm)]
    · rw [if_neg h, if_neg h]
  · exact Nat.lt_of_lt_of_le hs.target_lt (by simp [Action.newReceiver, Store.allocateReceiver])
  · rw [← Except.ok.inj hid]
    exact hne

/-- More items come after those that are hidden. -/
theorem extend_raise (id : Nat) (more : List Item) :
    (w.raise s).extend id more = w.raise (s.extend id more) := by
  refine congrArg (fun r => ({ s with receivers := r } : Store)) (Array.ext_getElem? fun i => ?_)
  change ((s.receivers.modify w.target (w.lead.toArray ++ ·)).modify id (· ++ more.toArray))[i]? =
    ((s.receivers.modify id (· ++ more.toArray)).modify w.target (w.lead.toArray ++ ·))[i]?
  simp only [Array.getElem?_modify]
  split <;> split <;> simp [Function.comp_def]

theorem covers_extend (hs : w.Covers s) (id : Nat) (more : List Item) :
    w.Covers (s.extend id more) :=
  hs.of_objects_eq rfl (by simpa [Store.extend] using hs.target_lt)

theorem writeSpace (id : Nat) (ws : Whitespace) (hs : w.Covers s) :
    w.Mirrors (Action.writeSpace id ws) s fun _ _ => True :=
  ⟨rfl, extend_raise id _, covers_extend hs id _, .of_objects_eq rfl, fun _ _ => trivial⟩

theorem writeText (id : Nat) (text : String) (hs : w.Covers s) :
    w.Mirrors (Action.writeText id text) s fun _ _ => True := by
  by_cases h : text = ""
  · have heq : ∀ t : Store, Action.writeText id text t = ⟨.ok (), t, .refl t⟩ := fun t => by
      rw [Action.writeText, dif_pos h]
    refine ⟨by rw [heq, heq], by rw [heq, heq], ?_, ?_, fun _ _ => trivial⟩
    · rw [heq]
      exact hs
    · rw [heq]
      exact .refl w s
  · have houtcome : ∀ t : Store, (Action.writeText id text t).outcome = .ok () := fun t => by
      rw [Action.writeText, dif_neg h]
    have hstore : ∀ t : Store, (Action.writeText id text t).store = t.extend id [.text text] :=
      fun t => by rw [Action.writeText, dif_neg h]
    refine ⟨by rw [houtcome, houtcome], ?_, ?_, ?_, fun _ _ => trivial⟩
    · rw [hstore, hstore, extend_raise]
    · rw [hstore]
      exact covers_extend hs id _
    · rw [hstore]
      exact .of_objects_eq rfl

/-- **Another receiver is copied**, be it to this one. -/
theorem copy (id : Nat) {source : Nat} (hs : w.Covers s) (h : source ≠ w.target) :
    w.Mirrors (Action.copy id source) s fun _ _ => True := by
  refine ⟨rfl, ?_, covers_extend hs id _, .of_objects_eq rfl, fun _ _ => trivial⟩
  change (w.raise s).extend id ((w.raise s).items source) = w.raise (s.extend id (s.items source))
  rw [items_raise h, extend_raise]

end Mirrors

end Veil

end TokenTemplate
