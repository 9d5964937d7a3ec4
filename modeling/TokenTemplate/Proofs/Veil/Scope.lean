import TokenTemplate.Proofs.Veil.Shown

/-!
# Names behind a veil

Looking up a name gives the same with and without the hidden items, whatever the name is
(`TokenTemplate.Veil.agrees_lookup`). If it is a name that the payload may use, the value is in sight.
Binding a name to such a value leaves all scopes as they should be, and so does a new frame.
-/

namespace TokenTemplate

theorem mem_of_lookup {β : Type} {l : List (String × β)} {n : String} {b : β}
    (h : l.lookup n = some b) : (n, b) ∈ l := by
  obtain ⟨l₁, l₂, rfl, -⟩ := List.lookup_eq_some_iff.1 h
  exact List.mem_append_right _ List.mem_cons_self

theorem not_mem_of_lookup {β : Type} {l : List (String × β)} {n : String}
    (h : l.lookup n = none) : n ∉ l.map Prod.fst := by
  intro hn
  obtain ⟨p, hp, rfl⟩ := List.mem_map.1 hn
  simpa using List.lookup_eq_none_iff.1 h p hp

namespace Veil

variable {w : Veil} {s : Store} {v : Value} {sc : Scope} {free : String → Prop}
  {own : Option (List String)} {n : String}

theorem ShowsBound.lookup {b : Bindings} (h : w.ShowsBound s b) (n : String) :
    w.ShowsIf s (b.lookup n) :=
  fun v hv => h (n, v) (mem_of_lookup hv)

@[simp] theorem frameNames_raise (id : Nat) :
    Scope.frameNames (w.raise s) id = Scope.frameNames s id := rfl

/-! ### Looking up a name -/

/-- A name that nothing binds stands for what leads nowhere, except for one. -/
theorem shows_ofName? (h : Value.ofName? n = some v) :
    w.Shows s v ∨ v = .function .locals ∧ n = "locals" := by
  have hnamed : ∀ p ∈ Value.named, w.Shows s p.2 := by
    intro p hp
    simp only [Value.named, List.mem_cons, List.not_mem_nil, or_false] at hp
    rcases hp with rfl | rfl | rfl | rfl <;> first | exact trivial | exact nofun
  have htable : ∀ p ∈ Function.table, p.2 = .locals → p.1 = "locals" := by decide
  rw [Value.ofName?, Option.or_eq_some_iff] at h
  rcases h with h | ⟨-, h⟩
  · exact .inl (hnamed _ (mem_of_lookup h))
  · rw [Option.or_eq_some_iff] at h
    rcases h with h | ⟨-, h⟩
    · obtain ⟨f, hf, rfl⟩ := Option.map_eq_some_iff.1 h
      by_cases hlocals : f = .locals
      · subst hlocals
        rw [Function.ofName?, Option.or_eq_some_iff] at hf
        rcases hf with hf | ⟨-, hf⟩
        · exact .inr ⟨rfl, htable _ (mem_of_lookup hf) rfl⟩
        · split at hf
          · exact nomatch hf
          · exact nomatch hf
      · exact .inl hlocals
    · obtain ⟨k, -, rfl⟩ := Option.map_eq_some_iff.1 h
      exact .inl trivial

/-- **What a name may be found to stand for.** What is not in sight is under a name that is not free,
or under one that leads to all names. -/
def Finds (w : Veil) (s : Store) (free : String → Prop) (n : String) (v : Value) : Prop :=
  w.Shows s v ∨ v = w.hidden ∧ ¬ free n ∨ v = .function .locals ∧ n = "locals" ∨
    v = .single .standard ∧ n = Scope.standardName

theorem Finds.shows (h : w.Finds s free n v) (hfree : free n) (hn : n ∉ Payload.openingNames) :
    w.Shows s v := by
  rcases h with h | ⟨-, h⟩ | ⟨-, rfl⟩ | ⟨-, rfl⟩
  · exact h
  · exact absurd hfree h
  · exact absurd List.mem_cons_self hn
  · exact absurd (List.mem_cons_of_mem _ List.mem_cons_self) hn

theorem agrees_lookupStandard (hs : w.Covers s) {standard : Option Value}
    (h : ∀ v, standard = some v → w.Shows s v ∨ v = w.hidden) (n : String) :
    Agrees (fun found => ∀ v, found = some v → w.Finds s free n v)
      (Scope.lookupStandard (w.raise s) standard n) (Scope.lookupStandard s standard n) := by
  have hname : ∀ v, (if n = Scope.standardName then some (Value.single .standard)
      else Value.ofName? n) = some v → w.Finds s free n v := by
    intro v hv
    split at hv
    · next hn => exact .inr (.inr (.inr ⟨(Option.some.inj hv).symm, hn⟩))
    · exact (shows_ofName? hv).imp_right fun hv => .inr (.inl hv)
  unfold Scope.lookupStandard
  simp only [objectOf?_raise]
  split
  · exact .ok hname
  · exact .ok hname
  · next v hv =>
    rcases h v rfl with hv | rfl
    · split
      · have hkey : w.Shows s (.ofText n) := trivial
        exact (agrees_lookup? hs hv hkey).imp fun found hfound v hv => .inl (hfound v hv)
      · exact .error _
    · exact .error _

theorem agrees_lookupGlobal (hs : w.Covers s) (hsc : w.Suits s sc free own) (n : String) :
    Agrees (w.Finds s free n) (Scope.lookupGlobal (w.raise s) sc.globals n)
      (Scope.lookupGlobal s sc.globals n) := by
  obtain ⟨names, ho, hapart, hfree⟩ := hsc.globals
  have hinnocent : w.Innocent s (.frame names) := hs.innocent _ _ ho hapart
  have hnames : Scope.frameNames s sc.globals = names := by rw [Scope.frameNames, ho]
  have hbound : ∀ m v, (names.lookup m).join = some v → (m, some v) ∈ names := fun m v h =>
    mem_of_lookup (Option.join_eq_some_iff.1 h)
  rw [Scope.lookupGlobal, Scope.lookupGlobal, frameNames_raise, hnames]
  dsimp only
  split
  · next v hv =>
    have hmem := hbound n v hv
    refine .ok ((hinnocent n v hmem).imp_right fun hv => .inl ⟨hv, fun hn => ?_⟩)
    exact hfree n hn (hv ▸ hmem)
  · have hstandard : ∀ v, (names.lookup Scope.standardName).join = some v →
        w.Shows s v ∨ v = w.hidden := fun v hv => hinnocent _ v (hbound _ v hv)
    have hagrees : Agrees (fun found => ∀ v, found = some v → w.Finds s free n v) _ _ :=
      agrees_lookupStandard hs hstandard n
    refine hagrees.bind fun found _ hfound => ?_
    split
    · next v _ => exact .ok (hfound v rfl)
    · exact .error _

/-- The value in a frame of a function. -/
theorem Suits.shows_level (hs : w.Covers s) (hsc : w.Suits s sc free own) {l : ScopeLevel}
    (hl : l ∈ sc.levels) (h : (Scope.frameNames s l.frame).lookup n = some (some v)) :
    w.Shows s v := by
  obtain ⟨names, ho, hapart, hlevel⟩ := hsc.levels l hl
  rw [Scope.frameNames, ho] at h
  have hmem := mem_of_lookup h
  exact (hs.innocent _ _ ho hapart n v hmem).resolve_right fun hv => hlevel n (hv ▸ hmem)

theorem agrees_lookupOuter (hs : w.Covers s) (hsc : w.Suits s sc free own) (n : String)
    {ls : List ScopeLevel} (hls : ∀ l ∈ ls, l ∈ sc.levels) :
    Agrees (fun v => w.Shows s v ∨
        (∀ l ∈ ls, n ∉ (Scope.frameNames s l.frame).map Prod.fst) ∧ w.Finds s free n v)
      (Scope.lookupOuter (w.raise s) sc.globals n ls) (Scope.lookupOuter s sc.globals n ls) := by
  induction ls with
  | nil =>
    exact (agrees_lookupGlobal hs hsc n).imp fun v hv => .inr ⟨fun _ hl => absurd hl List.not_mem_nil, hv⟩
  | cons l ls ih =>
    rw [Scope.lookupOuter, Scope.lookupOuter]
    rw [frameNames_raise]
    split
    · next v hv => exact .ok (.inl (hsc.shows_level hs (hls l List.mem_cons_self) hv))
    · exact .error _
    · next hnone =>
      have hl := not_mem_of_lookup hnone
      refine (ih fun l hl => hls l (List.mem_cons_of_mem _ hl)).imp fun v hv => ?_
      exact hv.imp_right fun h => ⟨List.forall_mem_cons.2 ⟨hl, h.1⟩, h.2⟩

/-- **The value of a name.** -/
theorem agrees_lookup (hs : w.Covers s) (hsc : w.Suits s sc free own) (n : String) :
    Agrees (fun v => w.Shows s v ∨ n ∉ own.getD [] ∧ w.Finds s free n v) (sc.lookup n (w.raise s))
      (sc.lookup n s) := by
  have hown : (∀ l ∈ sc.levels, n ∉ (Scope.frameNames s l.frame).map Prod.fst) →
      n ∉ own.getD [] := by
    intro hlevels hn
    cases hownEq : own with
    | none =>
      rw [hownEq] at hn
      exact nomatch hn
    | some ns =>
      rw [hownEq] at hn
      obtain ⟨l, hl, hmem⟩ := (hsc.own ns hownEq).2 n hn
      exact hlevels l hl hmem
  have houter := agrees_lookupOuter hs hsc n (fun l hl => hl)
  have hend : ∀ v, w.Shows s v ∨ (∀ l ∈ sc.levels, n ∉ (Scope.frameNames s l.frame).map Prod.fst) ∧
      w.Finds s free n v → w.Shows s v ∨ n ∉ own.getD [] ∧ w.Finds s free n v :=
    fun v hv => hv.imp_right fun h => ⟨hown h.1, h.2⟩
  rw [Scope.lookup, Scope.lookup]
  split
  · exact .ok (.inl trivial)
  · cases hlevels : sc.levels with
    | nil =>
      rw [hlevels] at houter hend
      exact houter.imp hend
    | cons l ls =>
      rw [hlevels, Scope.lookupOuter, Scope.lookupOuter, frameNames_raise] at houter
      rw [hlevels] at hend
      simp only [frameNames_raise]
      split
      · next v hv => exact .ok (.inl (hsc.shows_level hs (hlevels ▸ List.mem_cons_self) hv))
      · exact .error _
      · next hnone =>
        rw [hnone] at houter
        exact houter.imp hend

/-- A name that may be used stands for what is in sight. -/
theorem agrees_lookup_of_mayUse (hs : w.Covers s) (hsc : w.Suits s sc free own)
    (hn : Payload.MayUse free own n) :
    Agrees (w.Shows s) (sc.lookup n (w.raise s)) (sc.lookup n s) := by
  refine (agrees_lookup hs hsc n).imp fun v hv => hv.elim id fun h => ?_
  obtain ⟨hfree, hopening⟩ := hn.resolve_left h.1
  exact h.2.shows hfree hopening

/-- The name of the function for all names, where it is used. -/
theorem agrees_lookup_locals (hs : w.Covers s) (hsc : w.Suits s sc free own)
    (hn : "locals" ∈ own.getD [] ∨ free "locals") :
    Agrees (fun v => w.Shows s v ∨ v = .function .locals) (sc.lookup "locals" (w.raise s))
      (sc.lookup "locals" s) := by
  refine (agrees_lookup hs hsc "locals").imp fun v hv => ?_
  rcases hv with hv | ⟨hown, hv | ⟨-, hfree⟩ | ⟨rfl, -⟩ | ⟨-, hname⟩⟩
  · exact .inl hv
  · exact .inl hv
  · exact absurd (hn.resolve_left hown) hfree
  · exact .inr rfl
  · exact absurd hname (by decide)

/-! ### Binding a name -/

theorem mem_setName {names : List (String × Option Value)} {m : String} {v' : Option Value}
    (h : (m, v') ∈ Scope.setName n v names) : v' = some v ∨ (m, v') ∈ names := by
  induction names with
  | nil => exact .inl (Prod.mk.inj (List.mem_singleton.1 h)).2
  | cons p names ih =>
    rw [Scope.setName] at h
    split at h
    · rcases List.mem_cons.1 h with h | h
      · exact .inl (Prod.mk.inj h).2
      · exact .inr (List.mem_cons_of_mem _ h)
    · rcases List.mem_cons.1 h with h | h
      · exact .inr (h ▸ List.mem_cons_self)
      · exact (ih h).imp_right (List.mem_cons_of_mem _)

theorem map_fst_subset_setName (names : List (String × Option Value)) (n : String) (v : Value) :
    ∀ m ∈ names.map Prod.fst, m ∈ (Scope.setName n v names).map Prod.fst := by
  induction names with
  | nil => exact fun m hm => nomatch hm
  | cons p names ih =>
    intro m hm
    rw [Scope.setName]
    rw [List.map_cons, List.mem_cons] at hm
    split
    · next heq => exact List.mem_cons.2 (hm.imp_left fun h => h.trans heq)
    · exact List.mem_cons.2 (hm.imp_right (ih m))

/-- A frame that no other object is. -/
theorem mirrors_bindIn (hs : w.Covers s) {frame : Nat}
    (hframe : ∃ names, s.object? frame = some (.frame names) ∧ ¬ w.apart frame) (n : String)
    (hv : w.Shows s v) : w.Mirrors (Scope.bindIn frame n v) s fun _ _ => True := by
  obtain ⟨names, ho, hapart⟩ := hframe
  have hinnocent : w.Innocent s (.frame names) := hs.innocent _ _ ho hapart
  have hnames : Scope.frameNames s frame = names := by rw [Scope.frameNames, ho]
  have hne : v ≠ w.hidden := fun h => by
    subst h
    exact hv rfl
  refine Mirrors.look_bind hs rfl ?_
  rw [hnames]
  refine Mirrors.setObject hs (fun m v' h => ?_) fun o' ho' => ?_
  · rcases mem_setName h with h | h
    · exact .inl (Option.some.inj h ▸ hv)
    · exact hinnocent m v' h
  · obtain rfl := Option.some.inj (ho'.symm.trans ho)
    refine ⟨fun ns hns => ?_, fun h => absurd h (Option.some_ne_none _)⟩
    obtain rfl := Object.frame.inj hns
    refine ⟨_, rfl, map_fst_subset_setName names n v, fun m h => ?_⟩
    exact (mem_setName h).resolve_left fun h => hne (Option.some.inj h).symm

/-- The frames of a scope. -/
theorem Suits.frame (hsc : w.Suits s sc free own) {frame : Nat}
    (h : frame = sc.globals ∨ ∃ l ∈ sc.levels, frame = l.frame) :
    ∃ names, s.object? frame = some (.frame names) ∧ ¬ w.apart frame := by
  rcases h with rfl | ⟨l, hl, rfl⟩
  · obtain ⟨names, ho, hapart, -⟩ := hsc.globals
    exact ⟨names, ho, hapart⟩
  · obtain ⟨names, ho, hapart, -⟩ := hsc.levels l hl
    exact ⟨names, ho, hapart⟩

theorem mirrors_bindHere (hs : w.Covers s) (hsc : w.Suits s sc free own) (n : String)
    (hv : w.Shows s v) : w.Mirrors (sc.bindHere n v) s fun _ _ => True := by
  rw [Scope.bindHere]
  split
  · next l _ hlevels =>
    exact mirrors_bindIn hs (hsc.frame (.inr ⟨l, hlevels ▸ List.mem_cons_self, rfl⟩)) n hv
  · exact mirrors_bindIn hs (hsc.frame (.inl rfl)) n hv

theorem mirrors_assign (hs : w.Covers s) (hsc : w.Suits s sc free own) (n : String)
    (hv : w.Shows s v) : w.Mirrors (sc.assign n v) s fun _ _ => True := by
  rw [Scope.assign]
  split
  · next l hl =>
    exact mirrors_bindIn hs (hsc.frame (.inr ⟨l, List.mem_of_find?_eq_some hl, rfl⟩)) n hv
  · exact mirrors_bindIn hs (hsc.frame (.inl rfl)) n hv

theorem mirrors_unbindHere (hs : w.Covers s) (hsc : w.Suits s sc free own) (n : String) :
    w.Mirrors (sc.unbindHere n) s fun _ _ => True := by
  have hframe : ∃ names, s.object? ((sc.levels.head?.map (·.frame)).getD sc.globals) =
      some (.frame names) ∧ ¬ w.apart ((sc.levels.head?.map (·.frame)).getD sc.globals) := by
    cases hlevels : sc.levels with
    | nil => exact hsc.frame (.inl rfl)
    | cons l ls => exact hsc.frame (.inr ⟨l, hlevels ▸ List.mem_cons_self, rfl⟩)
  obtain ⟨names, ho, hapart⟩ := hframe
  have hinnocent : w.Innocent s (.frame names) := hs.innocent _ _ ho hapart
  have hcleared : ∀ m v, (m, some v) ∈ Scope.clearName n names → (m, some v) ∈ names := by
    intro m v h
    obtain ⟨p, hp, heq⟩ := List.mem_map.1 h
    split at heq
    · exact absurd (Prod.mk.inj heq).2.symm (Option.some_ne_none _)
    · exact heq ▸ hp
  rw [Scope.unbindHere]
  refine Mirrors.ofStore_bind hs (agrees_lookup hs hsc n) fun _ _ => ?_
  refine Mirrors.look_bind hs rfl ?_
  rw [Scope.frameNames, ho]
  refine Mirrors.setObject hs (fun m v h => hinnocent m v (hcleared m v h)) fun o' ho' => ?_
  obtain rfl := Option.some.inj (ho'.symm.trans ho)
  refine ⟨fun ns hns => ?_, fun h => absurd h (Option.some_ne_none _)⟩
  obtain rfl := Object.frame.inj hns
  refine ⟨_, rfl, fun m hm => ?_, fun m h => hcleared m _ h⟩
  obtain ⟨p, hp, rfl⟩ := List.mem_map.1 hm
  refine List.mem_map.2 ⟨_, List.mem_map_of_mem hp, ?_⟩
  split
  · next h => exact h.symm
  · rfl

/-! ### New scopes -/

/-- **The names of a function with their values**, as the function asks for them. -/
theorem mirrors_locals (hs : w.Covers s) (hsc : w.Suits s sc free own) (hlevels : sc.levels ≠ []) :
    w.Mirrors sc.locals s w.Shows := by
  rw [Scope.locals]
  refine Mirrors.look_bind hs rfl (Mirrors.new hs (fun p hp => ?_) rfl)
  obtain ⟨l, ls, hcons⟩ := List.exists_cons_of_ne_nil hlevels
  obtain ⟨q, hq, heq⟩ := List.mem_filterMap.1 hp
  rw [hcons] at hq
  obtain ⟨v, hv, rfl⟩ := Option.map_eq_some_iff.1 heq
  obtain ⟨names, ho, hapart, hlevel⟩ := hsc.levels l (hcons ▸ List.mem_cons_self)
  simp only [Scope.frameNames, ho] at hq
  have hmem : (q.1, some v) ∈ names := hv ▸ hq
  refine ⟨trivial, (hs.innocent _ _ ho hapart q.1 v hmem).resolve_right fun h => ?_⟩
  exact hlevel q.1 (h ▸ hmem)

/-- **A scope inside another one.** -/
theorem mirrors_enter (hs : w.Covers s) (hsc : w.Suits s sc free own) (names : List String)
    (comprehension : Bool) :
    w.Mirrors (sc.enter names comprehension) s fun t inner =>
      w.Suits t inner free (Payload.within own names) := by
  have hnone : ∀ n v, (n, some v) ∉ names.map fun n => (n, (none : Option Value)) := by
    intro n v h
    obtain ⟨m, -, heq⟩ := List.mem_map.1 h
    exact absurd (Prod.mk.inj heq).2.symm (Option.some_ne_none _)
  rw [Scope.enter]
  have hframe : w.Innocent s (.frame (names.map fun n => (n, none))) :=
    fun n v h => absurd h (hnone n v)
  refine (Mirrors.allocate hs hframe).bind fun id t ht hle hid => Mirrors.pure ht ?_
  have hsc := hsc.mono hle
  have hnames : Scope.frameNames t id = names.map fun n => (n, none) := by
    rw [Scope.frameNames, hid.1]
  refine ⟨hsc.globals, fun l hl => ?_, fun ns hns => ⟨List.cons_ne_nil _ _, fun n hn => ?_⟩⟩
  · rcases List.mem_cons.1 hl with rfl | hl
    · exact ⟨_, hid.1, hid.2, fun n => hnone n _⟩
    · exact hsc.levels l hl
  · obtain rfl := Option.some.inj hns
    rcases List.mem_append.1 hn with hn | hn
    · refine ⟨_, List.mem_cons_self, ?_⟩
      rw [hnames, List.map_map]
      exact List.mem_map.2 ⟨n, hn, rfl⟩
    · cases hown : own with
      | none =>
        rw [hown] at hn
        exact absurd hn List.not_mem_nil
      | some ns =>
        rw [hown] at hn
        obtain ⟨l, hl, hmem⟩ := (hsc.own ns hown).2 n hn
        exact ⟨l, List.mem_cons_of_mem _ hl, hmem⟩

/-- **The scope of a payload**, which may have names for the receiver, but none that is free. -/
theorem mirrors_ofBindings (hs : w.Covers s) {b : Bindings}
    (hb : ∀ p ∈ b, w.Shows s p.2 ∨ p.2 = w.hidden)
    (hfree : ∀ n, free n → (n, w.hidden) ∉ b) :
    w.Mirrors (Scope.ofBindings b) s fun t sc => w.Suits t sc free none := by
  rw [Scope.ofBindings]
  have hframe : w.Innocent s (.frame (b.map fun p => (p.1, some p.2))) := by
    intro n v h
    obtain ⟨p, hp, heq⟩ := List.mem_map.1 h
    exact Option.some.inj (Prod.mk.inj heq).2 ▸ hb p hp
  refine (Mirrors.allocate hs hframe).bind fun id t ht _ hid => Mirrors.pure ht ?_
  refine ⟨⟨_, hid.1, hid.2, fun n hn h => ?_⟩, fun _ hl => absurd hl List.not_mem_nil,
    fun _ h => absurd h.symm (Option.some_ne_none _)⟩
  obtain ⟨p, hp, heq⟩ := List.mem_map.1 h
  obtain ⟨rfl, hv⟩ := Prod.mk.inj heq
  exact hfree p.1 hn (Option.some.inj hv ▸ hp)

end Veil

end TokenTemplate
