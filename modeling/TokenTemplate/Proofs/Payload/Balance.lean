import TokenTemplate.Payload.Reader
import TokenTemplate.Proofs.Payload.Scan

/-!
# Readers and brackets

What a reader takes from the front of a row is told, as far as brackets go, by those that are open before and
after: `TokenTemplate.Payload.Reader.Balances`. A reader that closes every bracket that it opens, and
no other, is `TokenTemplate.Payload.Reader.Matched`. Both are kept when readers are put together, by the
rules of this file, one for each way to do so.

The tokens that may be taken at all are a parameter, because a pattern, other than an expression, has no
conditions in it.
-/

namespace TokenTemplate.Payload

namespace Reader

variable {α β : Type} {allowed : Token → Prop} {r : Reader α} {s : ReadState}
  {before : List String} {after : α → List String} {t : Token}

/-- **What a reader takes** from the tokens of a state: some that are allowed, and with brackets such that
those of `after` are open behind them if those of `before` are open in front. -/
def Balances (allowed : Token → Prop) (r : Reader α) (s : ReadState) (before : List String)
    (after : α → List String) : Prop :=
  ∀ x s', r.run s = some (x, s') → ∃ ts, s.rest = ts ++ s'.rest ∧ (∀ t ∈ ts, allowed t) ∧
    track? before ts = some (after x)

/-- A reader takes tokens whose brackets match, wherever it begins. -/
def Matched (allowed : Token → Prop) (r : Reader α) : Prop :=
  ∀ s, r.Balances allowed s [] fun _ => []

/-! ### Composition -/

/-- Tokens that may be taken, and then others. -/
theorem allowed_append {ts us : List Token} {outside middle inside : List String}
    (h : (∀ t ∈ ts, allowed t) ∧ track? outside ts = some middle)
    (h' : (∀ t ∈ us, allowed t) ∧ track? middle us = some inside) :
    (∀ t ∈ ts ++ us, allowed t) ∧ track? outside (ts ++ us) = some inside := by
  refine ⟨List.forall_mem_append.2 ⟨h.1, h'.1⟩, ?_⟩
  rw [track?_append, h.2]
  exact h'.2

theorem Balances.bind {middle : α → List String} {f : α → Reader β} {last : β → List String}
    (h : r.Balances allowed s before middle)
    (hf : ∀ x s', (f x).Balances allowed s' (middle x) last) :
    Balances allowed (r >>= f) s before last := by
  intro y s'' hrun
  obtain ⟨⟨x, s'⟩, hx, hy⟩ := Option.bind_eq_some_iff.1 hrun
  obtain ⟨ts, hts, hrow⟩ := h x s' hx
  obtain ⟨us, hus, hrow'⟩ := hf x s' y s'' hy
  exact ⟨ts ++ us, by rw [hts, hus, List.append_assoc], allowed_append hrow hrow'⟩

/-- Brackets that are open further out make no difference. -/
theorem Balances.frame (h : r.Balances allowed s before after) (outer : List String) :
    r.Balances allowed s (before ++ outer) fun x => after x ++ outer := by
  intro x s' hrun
  obtain ⟨ts, hts, hallowed, htrack⟩ := h x s' hrun
  exact ⟨ts, hts, hallowed, track?_append_outer htrack outer⟩

theorem Matched.balances (h : r.Matched allowed) (s : ReadState) (open' : List String) :
    r.Balances allowed s open' fun _ => open' :=
  (h s).frame open'

theorem Matched.bind {f : α → Reader β} (h : r.Matched allowed) (hf : ∀ x, (f x).Matched allowed) :
    Matched allowed (r >>= f) :=
  fun s => (h s).bind fun x s' => hf x s'

theorem balances_pure (x : α) (s : ReadState) (after : α → List String) :
    Balances allowed (pure x) s (after x) after := by
  intro y s' hrun
  obtain ⟨rfl, rfl⟩ := Prod.mk.inj (Option.some.inj hrun)
  exact ⟨[], rfl, nofun, rfl⟩

theorem matched_pure (x : α) : Matched allowed (pure x) :=
  fun s => balances_pure x s fun _ => []

theorem balances_failure : Balances allowed failure s before after :=
  fun _ _ hrun => absurd hrun nofun

/-- A reader that takes no tokens. -/
def Still (r : Reader α) : Prop :=
  ∀ s x s', r.run s = some (x, s') → s'.rest = s.rest

theorem Still.balances (h : r.Still) (s : ReadState) (open' : List String) :
    r.Balances allowed s open' fun _ => open' :=
  fun x s' hrun => ⟨[], (h s x s' hrun).symm, nofun, rfl⟩

theorem Still.matched (h : r.Still) : r.Matched allowed :=
  fun s => h.balances s []

/-- **A reader takes tokens whose brackets match, and then the bracket that closes the one before them.** -/
def Closes (allowed : Token → Prop) (closer : String) (r : Reader α) : Prop :=
  ∀ s x s', r.run s = some (x, s') → ∃ ts, s.rest = ts ++ mark closer :: s'.rest ∧
    (∀ t ∈ ts, allowed t) ∧ track? [] ts = some []

theorem Matched.closes_bind {closer : String} {f : α → Reader β} (h : r.Matched allowed)
    (hf : ∀ x, (f x).Closes allowed closer) : Closes allowed closer (r >>= f) := by
  intro s y s'' hrun
  obtain ⟨⟨x, s'⟩, hx, hy⟩ := Option.bind_eq_some_iff.1 hrun
  obtain ⟨ts, hts, hrow⟩ := h s x s' hx
  obtain ⟨us, hus, hrow'⟩ := hf x s' y s'' hy
  exact ⟨ts ++ us, by rw [hts, hus, List.append_assoc], allowed_append hrow hrow'⟩

theorem Closes.bind_still {closer : String} {f : α → Reader β} (h : r.Closes allowed closer)
    (hf : ∀ x, (f x).Still) : Closes allowed closer (r >>= f) := by
  intro s y s'' hrun
  obtain ⟨⟨x, s'⟩, hx, hy⟩ := Option.bind_eq_some_iff.1 hrun
  obtain ⟨ts, hts, hts'⟩ := h s x s' hx
  exact ⟨ts, by rw [hts, hf x s' y s'' hy], hts'⟩

theorem Closes.balances {closer : String} (h : r.Closes allowed closer) (hcloser : allowed (mark closer))
    (hshift : shift? [closer] (mark closer) = some []) (s : ReadState) :
    r.Balances allowed s [closer] fun _ => [] := by
  intro x s' hrun
  obtain ⟨ts, hts, hallowed, htrack⟩ := h s x s' hrun
  have houter : track? [closer] ts = some [closer] := track?_append_outer htrack [closer]
  have hlast : track? [closer] [mark closer] = some [] := by
    rw [track?_cons, hshift]
    rfl
  exact ⟨ts ++ [mark closer], by rw [hts, List.append_assoc]; rfl,
    allowed_append ⟨hallowed, houter⟩ ⟨List.forall_mem_singleton.2 hcloser, hlast⟩⟩

theorem still_lift (o : Option α) : Still (o : Reader α) := by
  intro s x s' hrun
  obtain ⟨y, -, heq⟩ := Option.bind_eq_some_iff.1 hrun
  obtain ⟨-, rfl⟩ := Prod.mk.inj (Option.some.inj heq)
  rfl

theorem still_modify {f : ReadState → ReadState} (hf : ∀ s, (f s).rest = s.rest) :
    Still (modify f : Reader Unit) := by
  intro s x s' hrun
  obtain ⟨-, rfl⟩ := Prod.mk.inj (Option.some.inj hrun)
  exact hf s

theorem Still.bind {f : α → Reader β} (h : r.Still) (hf : ∀ x, (f x).Still) : Still (r >>= f) := by
  intro s y s'' hrun
  obtain ⟨⟨x, s'⟩, hx, hy⟩ := Option.bind_eq_some_iff.1 hrun
  exact (hf x s' y s'' hy).trans (h s x s' hx)

theorem still_pure (x : α) : Still (pure x : Reader α) := by
  intro s y s' hrun
  obtain ⟨-, rfl⟩ := Prod.mk.inj (Option.some.inj hrun)
  rfl

theorem still_failure : Still (failure : Reader α) :=
  fun _ _ _ hrun => absurd hrun nofun

theorem Still.map (h : r.Still) (f : α → β) : Still (f <$> r) := by
  intro s y s' hrun
  obtain ⟨⟨x, s''⟩, hx, heq⟩ := Option.map_eq_some_iff.1 ((StateT.run_map f r s).symm.trans hrun)
  obtain ⟨-, rfl⟩ := Prod.mk.inj heq
  exact h s x s'' hx

theorem Still.unless {c : Prop} [Decidable c] {f : Unit → Reader β} (h : (f ()).Still) :
    Still (if c then failure >>= f else f ()) := by
  split
  · exact fun _ _ _ hrun => absurd hrun nofun
  · exact h

theorem still_bind (n : String) : Still (Reader.bind n) :=
  still_modify fun _ => rfl

theorem still_assigned (n : String) : Still (assigned n) :=
  (still_modify (f := fun s => { s with assignments := s.assignments + 1 }) fun _ => rfl).bind fun _ =>
    still_bind n

theorem still_get : Still (get : Reader ReadState) := by
  intro s x s' hrun
  obtain ⟨-, rfl⟩ := Prod.mk.inj (Option.some.inj hrun)
  rfl

theorem still_sees (t : Token) : Still (Reader.sees t) := by
  intro s x s' hrun
  obtain ⟨-, rfl⟩ := Prod.mk.inj (Option.some.inj hrun)
  rfl

theorem still_boundCount : Still boundCount :=
  still_get.bind fun _ => still_pure _

theorem still_boundSince (n : Nat) : Still (boundSince n) :=
  still_get.bind fun _ => still_pure _

/-! ### Single tokens -/

section Tokens

variable {f : α → Reader β} {outside inside : List String} {last : β → List String}

theorem Balances.remaining {f : Nat → Reader β}
    (h : (f s.rest.length).Balances allowed s outside last) :
    Balances allowed (Reader.remaining >>= f) s outside last :=
  h

theorem Balances.peek (n : Nat) {f : Option Token → Reader β}
    (h : (f s.rest[n]?).Balances allowed s outside last) :
    Balances allowed (Reader.peek n >>= f) s outside last :=
  h

/-- Tokens that are known to come next are dropped. -/
theorem Balances.skip {ts rest : List Token} {f : Unit → Reader β} (hs : s.rest = ts ++ rest)
    (hallowed : ∀ t ∈ ts, allowed t) (htrack : track? outside ts = some inside)
    (hf : ∀ s', (f ()).Balances allowed s' inside last) :
    Balances allowed (Reader.skip ts.length >>= f) s outside last := by
  have hskip : (Reader.skip ts.length).Balances allowed s outside fun _ => inside := by
    intro x s' hrun
    obtain ⟨-, rfl⟩ := Prod.mk.inj (Option.some.inj hrun)
    refine ⟨ts, ?_, hallowed, htrack⟩
    change s.rest = ts ++ s.rest.drop ts.length
    rw [hs, List.drop_left]
  exact hskip.bind fun _ s' => hf s'

/-- A token that is known to come next is dropped. -/
theorem Balances.skip_one {rest : List Token} {f : Unit → Reader β} (hs : s.rest = t :: rest) (ht : allowed t)
    (hshift : shift? outside t = some inside) (hf : ∀ s', (f ()).Balances allowed s' inside last) :
    Balances allowed (Reader.skip 1 >>= f) s outside last :=
  .skip (show s.rest = [t] ++ rest from hs) (List.forall_mem_singleton.2 ht) (by rw [track?_cons, hshift]; rfl) hf

theorem Balances.sees (t : Token) {f : Bool → Reader β}
    (htrue : ∀ rest, s.rest = t :: rest → (f true).Balances allowed s outside last)
    (hfalse : (f false).Balances allowed s outside last) :
    Balances allowed (Reader.sees t >>= f) s outside last := by
  change (f (s.rest[0]? == some t)).Balances allowed s outside last
  cases hs : s.rest with
  | nil => exact hfalse
  | cons u rest =>
    by_cases hu : u = t
    · subst hu
      have hsees : ((u :: rest)[0]? == some u) = true := beq_self_eq_true _
      rw [hsees]
      exact htrue rest hs
    · have hsees : ((u :: rest)[0]? == some t) = false := beq_false_of_ne fun h => hu (Option.some.inj h)
      rw [hsees]
      exact hfalse

theorem Balances.takes_bind {f : Bool → Reader β} (ht : allowed t)
    (hshift : shift? outside t = some inside)
    (htrue : ∀ s', (f true).Balances allowed s' inside last)
    (hfalse : (f false).Balances allowed s outside last) :
    Balances allowed (Reader.takes t >>= f) s outside last := by
  rw [Reader.takes, bind_assoc]
  refine .sees t (fun rest hs => ?_) ?_
  · rw [if_pos rfl, bind_assoc]
    exact .skip_one hs ht hshift fun s' => by rw [pure_bind]; exact htrue s'
  · rw [if_neg Bool.false_ne_true, pure_bind]
    exact hfalse

/-- A token is taken if it comes next. -/
theorem Balances.takes {yes no : Reader β} (ht : allowed t) (hshift : shift? outside t = some inside)
    (hyes : ∀ s', yes.Balances allowed s' inside last) (hno : no.Balances allowed s outside last) :
    Balances allowed (Reader.takes t >>= fun b => if b then yes else no) s outside last :=
  .takes_bind ht hshift hyes hno

/-- Something is refused before a reader goes on. -/
theorem Balances.unless {c : Prop} [Decidable c] {f : Unit → Reader β}
    (h : ¬c → (f ()).Balances allowed s outside last) :
    Balances allowed (if c then failure >>= f else f ()) s outside last := by
  split
  · exact fun _ _ hrun => absurd hrun nofun
  · next hc => exact h hc

theorem balances_needs (ht : allowed t) (hshift : shift? outside t = some inside) :
    (needs t).Balances allowed s outside fun _ => inside :=
  .takes_bind ht hshift (fun s' => balances_pure () s' fun _ => inside) balances_failure

theorem eq_cons_of_getElem? {ts : List Token} (h : ts[0]? = some t) : ∃ rest, ts = t :: rest := by
  cases ts with
  | nil => exact absurd h nofun
  | cons u ts => exact ⟨ts, by rw [Option.some.inj h]⟩

theorem run_takes_bind (t : Token) (f : Bool → Reader β) (s : ReadState) :
    (∃ rest, s.rest = t :: rest ∧ (Reader.takes t >>= f).run s = (f true).run { s with rest := rest }) ∨
      (Reader.takes t >>= f).run s = (f false).run s := by
  have hrun : (Reader.takes t >>= f).run s =
      if s.rest[0]? == some t then (f true).run { s with rest := s.rest.drop 1 } else (f false).run s := by
    rw [StateT.run_bind]
    change Option.bind ((if s.rest[0]? == some t then (skip 1 >>= fun _ => pure true) else pure false :
      Reader Bool).run s) _ = _
    split <;> rfl
  rw [hrun]
  split
  · next hs =>
    obtain ⟨rest, hrest⟩ := eq_cons_of_getElem? (eq_of_beq hs)
    exact .inl ⟨rest, hrest, by rw [hrest]; rfl⟩
  · exact .inr rfl

/-- A bracket is closed if its closer comes next. -/
theorem Closes.takes_bind {closer : String} {f : Bool → Reader β} (htrue : (f true).Still)
    (hfalse : (f false).Closes allowed closer) :
    Closes allowed closer (Reader.takes (mark closer) >>= f) := by
  intro s x s' hrun
  rcases run_takes_bind (mark closer) f s with ⟨rest, hs, heq⟩ | heq
  · refine ⟨[], ?_, nofun, rfl⟩
    rw [List.nil_append, htrue _ x s' (heq ▸ hrun)]
    exact hs
  · exact hfalse s x s' (heq ▸ hrun)

theorem closes_failure (closer : String) : (failure : Reader α).Closes allowed closer :=
  fun _ _ _ hrun => absurd hrun nofun

theorem closes_needs (closer : String) : (needs (mark closer)).Closes allowed closer :=
  .takes_bind (still_pure ()) (closes_failure closer)

theorem matched_takes (ht : allowed t) (hshift : shift? [] t = some []) : (takes t).Matched allowed := by
  intro s
  have h := Balances.takes_bind (f := pure) (s := s) ht hshift (fun s' => balances_pure true s' fun _ => [])
    (balances_pure false s fun _ => [])
  rwa [bind_pure] at h

/-- **One of some tokens is taken**, which may open a bracket. -/
theorem balances_takesOneOf {table : List (Token × β)} (opened : β → List String)
    (htable : ∀ p ∈ table, allowed p.1 ∧ shift? outside p.1 = some (opened p.2)) :
    (takesOneOf table).Balances allowed s outside fun o => o.elim outside opened := by
  refine .peek 0 ?_
  cases hs : s.rest with
  | nil => exact balances_pure none s fun o => o.elim outside opened
  | cons t rest =>
    rw [List.getElem?_cons_zero]
    dsimp only
    cases hy : table.lookup t with
    | none => exact balances_pure none s fun o => o.elim outside opened
    | some y =>
      obtain ⟨l, r, hl, -⟩ := List.lookup_eq_some_iff.1 hy
      obtain ⟨hallowed, hshift⟩ := htable (t, y) (by simp [hl])
      exact .skip_one hs hallowed hshift fun s' => balances_pure (some y) s' fun o => o.elim outside opened

theorem nameOf?_eq_some {n : String} (h : nameOf? t = some n) : t = .word n ∧ n ∉ keywords := by
  cases t with
  | word w =>
    rw [nameOf?] at h
    split at h
    · exact absurd h nofun
    · next hw =>
      obtain rfl := Option.some.inj h
      exact ⟨rfl, by simpa using hw⟩
  | _ => exact absurd h nofun

theorem run_seesNameAnd (m : String) (s : ReadState) :
    ∃ o, (Reader.seesNameAnd m).run s = some (o, s) ∧
      (o = none ∨ ∃ n rest, o = some n ∧ n ∉ keywords ∧ s.rest = [.word n, mark m] ++ rest) := by
  obtain ⟨row, bound, condition⟩ := s
  rcases row with _ | ⟨t, _ | ⟨u, rest⟩⟩
  · exact ⟨none, rfl, .inl rfl⟩
  · exact ⟨none, rfl, .inl rfl⟩
  refine ⟨if u = mark m then binderOf? t else none, rfl, ?_⟩
  by_cases hu : u = mark m
  · rw [if_pos hu]
    cases hn : binderOf? t with
    | none => exact .inl rfl
    | some n =>
      obtain ⟨rfl, hkeyword⟩ := nameOf?_eq_some (Option.filter_eq_some_iff.1 hn).1
      exact .inr ⟨n, rest, rfl, hkeyword, by rw [hu]; rfl⟩
  · exact .inl (if_neg hu)

/-- A name and a mark come next, or something else. -/
theorem Balances.seesNameAnd (m : String) {f : Option String → Reader β}
    (hsome : ∀ n rest, n ∉ keywords → s.rest = [.word n, mark m] ++ rest →
      (f (some n)).Balances allowed s outside last)
    (hnone : (f none).Balances allowed s outside last) :
    Balances allowed (Reader.seesNameAnd m >>= f) s outside last := by
  obtain ⟨o, ho, hcases⟩ := run_seesNameAnd m s
  intro y s' hy
  rw [StateT.run_bind, ho] at hy
  rcases hcases with rfl | ⟨n, rest, rfl, hn, hs⟩
  · exact hnone y s' hy
  · exact hsome n rest hn hs y s' hy

theorem still_seesNameAnd (m : String) : Still (Reader.seesNameAnd m) := by
  intro s x s' hrun
  obtain ⟨o, ho, -⟩ := run_seesNameAnd m s
  obtain ⟨-, rfl⟩ := Prod.mk.inj (Option.some.inj (ho.symm.trans hrun))
  rfl

theorem shift?_word (w : String) (closers : List String) : shift? closers (.word w) = some closers :=
  rfl

theorem matched_name (hword : ∀ w ∉ keywords, allowed (.word w)) : name.Matched allowed := by
  intro s
  refine .peek 0 ?_
  cases hs : s.rest with
  | nil => exact balances_failure
  | cons t rest =>
    rw [List.getElem?_cons_zero, Option.bind_some]
    cases hn : nameOf? t with
    | none => exact balances_failure
    | some n =>
      obtain ⟨rfl, hkeyword⟩ := nameOf?_eq_some hn
      exact .skip_one hs (hword n hkeyword) (shift?_word n []) fun s' => balances_pure n s' fun _ => []

theorem matched_binder (hword : ∀ w ∉ keywords, allowed (.word w)) : binder.Matched allowed := by
  refine (matched_name hword).bind fun n => ?_
  split
  · exact fun s => balances_failure
  · exact matched_pure n

theorem matched_textRun (htext : ∀ x, allowed (.text x)) (fuel : Nat) : (textRun fuel).Matched allowed := by
  induction fuel with
  | zero => exact matched_pure ""
  | succ fuel ih =>
    intro s
    refine .peek 0 ?_
    split
    · next x hx =>
      cases hs : s.rest with
      | nil => simp [hs] at hx
      | cons t rest =>
        obtain rfl : t = .text x := by simpa [hs] using hx
        exact .skip_one hs (htext x) rfl fun s' => (ih.bind fun more => matched_pure _) s'
    · exact balances_pure "" s fun _ => []

end Tokens

/-! ### Repetition -/

section Repetition

variable {item : Reader α}

theorem matched_commaList (hcomma : allowed (mark ",")) (ends : Token → Bool) (h : item.Matched allowed)
    (fuel : Nat) : (commaList ends item fuel).Matched allowed := by
  induction fuel with
  | zero => exact fun s => balances_failure
  | succ fuel ih =>
    intro s
    change Balances allowed (if (s.rest[0]?).all ends then _ else _) s [] _
    split
    · exact balances_pure _ s fun _ => []
    · refine (h s).bind fun x s' => .takes hcomma rfl (fun s'' => ?_) ?_
      · exact (ih s'').bind fun r s => balances_pure _ s fun _ => []
      · exact balances_pure _ s' fun _ => []

theorem closes_closedList {closer : String} (hcomma : allowed (mark ",")) (h : item.Matched allowed) :
    (closedList closer item).Closes allowed closer := by
  intro s
  have hlist := (matched_commaList hcomma (· == mark closer) h (s.rest.length + 1)).closes_bind fun r =>
    (closes_needs closer).bind_still fun _ => still_pure r
  exact hlist s

theorem matched_extend {more : Reader (Option β)} {step : α → β → Reader α} (opened : β → List String)
    (hmore : ∀ s, more.Balances allowed s [] fun o => o.elim [] opened)
    (hstep : ∀ x y s, (step x y).Balances allowed s (opened y) fun _ => []) (fuel : Nat) (x : α) :
    (extend more step fuel x).Matched allowed := by
  induction fuel generalizing x with
  | zero => exact matched_pure x
  | succ fuel ih =>
    refine fun s => (hmore s).bind fun o s' => ?_
    cases o with
    | none => exact balances_pure x s' fun _ => []
    | some y => exact (hstep x y s').bind fun x' s'' => ih x' s''

theorem elim_nil (o : Option β) : (o.elim [] fun _ => [] : List String) = [] := by
  cases o <;> rfl

theorem Matched.extend {more : Reader (Option β)} {step : α → β → Reader α} (hmore : more.Matched allowed)
    (hstep : ∀ x y, (step x y).Matched allowed) (fuel : Nat) (x : α) :
    (Reader.extend more step fuel x).Matched allowed :=
  matched_extend (fun _ => []) (fun s => by simpa only [elim_nil] using hmore s)
    (fun x y => hstep x y) fuel x

theorem matched_takesOneOf {table : List (Token × β)}
    (htable : ∀ p ∈ table, allowed p.1 ∧ shift? [] p.1 = some []) :
    (takesOneOf table).Matched allowed := by
  intro s
  have h := balances_takesOneOf (fun _ => []) htable (s := s)
  simpa only [elim_nil] using h

theorem matched_inScope (h : item.Matched allowed) : (inScope item).Matched allowed := by
  have hset (bound : List String) : Still (modify fun s => { s with bound := bound }) :=
    still_modify fun _ => rfl
  refine still_get.matched.bind fun outer => (hset []).matched.bind fun _ => h.bind fun x => ?_
  exact still_get.matched.bind fun inner => (hset outer.bound).matched.bind fun _ => matched_pure _

end Repetition

end Reader

end TokenTemplate.Payload
