import TokenTemplate.Evaluation.Match
import TokenTemplate.Proofs.Veil.Expression

/-!
# Patterns behind a veil

Whether a value in sight matches a pattern does not depend on what is hidden, if the pattern keeps to
names that suit its scope; and what the names of the pattern stand for is in sight then:
`TokenTemplate.Veil.mirrors_matchPattern`.
-/

namespace TokenTemplate.Veil

variable {w : Veil} {s : Store} {v v' : Value} {sc : Scope} {free : String → Prop}
  {own : Option (List String)} {id : Nat}

/-! ### Names, keys and literals -/

theorem mirrors_dottedValue (hs : w.Covers s) (hsc : w.Suits s sc free own) {root : String}
    (hroot : Payload.MayUse free own root) (path : List String) :
    w.Mirrors (sc.dottedValue root path) s w.Shows :=
  .ofStore_bind hs (agrees_lookup_of_mayUse hs hsc hroot) fun _ hv =>
    .foldlM hs hv fun _ n _ _ ht _ hv => mirrors_attributeOf ht hv n

theorem mirrors_matchesLiteral (hs : w.Covers s) (c : Payload.Constant) (hv : w.Shows s v) :
    w.Mirrors (Scope.matchesLiteral c v) s fun _ _ => True := by
  unfold Scope.matchesLiteral
  split
  · exact .pure hs trivial
  · exact .pure hs trivial
  · exact .ofStore hs (.of_eq (equal_raise hs _ _ hv (shows_ofConstant _))) fun _ => id

theorem mirrors_keyValue (hs : w.Covers s) (hsc : w.Suits s sc free own) {k : Payload.Key}
    (hk : ∀ root path, k = .value root path → Payload.MayUse free own root) :
    w.Mirrors (sc.keyValue k) s w.Shows := by
  cases k with
  | literal c => exact .pure hs (shows_ofConstant c)
  | value root path => exact mirrors_dottedValue hs hsc (hk root path rfl) path

/-! ### Sequences -/

theorem sequenceItems?_raise (v : Value) :
    Scope.sequenceItems? (w.raise s) v = Scope.sequenceItems? s v := by
  unfold Scope.sequenceItems?
  simp only [objectOf?_raise, rowOf_raise]

theorem sequenceLength?_raise (v : Value) :
    Scope.sequenceLength? (w.raise s) v = Scope.sequenceLength? s v := by
  unfold Scope.sequenceLength?
  simp only [sequenceItems?_raise]

theorem shows_sequenceItems? (hs : w.Covers s) (hv : w.Shows s v) :
    w.ShowsAll s ((Scope.sequenceItems? s v).getD []) := by
  unfold Scope.sequenceItems?
  split
  · intro a ha
    obtain ⟨i, -, rfl⟩ := List.mem_map.1 ha
    exact trivial
  · split
    · exact hs.shows_rowOf hv
    · exact hs.shows_rowOf hv
    · exact showsAll_nil

/-! ### Mappings and attributes -/

theorem mirrors_lookupAll (hs : w.Covers s) (hid : w.Shows s (.object id)) {seen keys : List Value}
    (hseen : w.ShowsAll s seen) (hkeys : w.ShowsAll s keys) :
    w.Mirrors (Scope.lookupAll id seen keys) s w.ShowsRow := by
  induction keys generalizing s seen with
  | nil => exact .pure hs (showsRow_some.2 showsAll_nil)
  | cons k keys ih =>
    obtain ⟨hk, hkeys⟩ := showsAll_cons.1 hkeys
    rw [Scope.lookupAll]
    refine .ofStore_bind hs (.of_eq (needsKey_raise k)) fun _ _ => ?_
    refine .ofStore_bind hs (.of_eq (isAmong_raise hs hk hseen)) fun twice _ => ?_
    split
    · exact .failWith _ hs
    · refine .ofStore_bind hs (agrees_lookup? hs hid hk) fun found hfound => ?_
      split
      · exact .pure hs showsRow_none
      · next a =>
        have ha := hfound a rfl
        refine (ih hs hid (showsAll_cons.2 ⟨hk, hseen⟩) hkeys).bind fun row t ht hle hrow => .pure ht ?_
        intro vs hvs
        obtain ⟨more, hmore, rfl⟩ := Option.map_eq_some_iff.1 hvs
        exact showsAll_cons.2 ⟨ha.mono hle, hrow more hmore⟩

theorem mirrors_entriesWithout (hs : w.Covers s) (hid : w.Shows s (.object id)) {keys : List Value}
    (hkeys : w.ShowsAll s keys) : w.Mirrors (Scope.entriesWithout id keys) s w.ShowsEntries := by
  have hentries := hs.shows_entries hid
  refine .ofStore hs (R := fun kept => ∀ p ∈ kept, p ∈ s.entries id) ?_
    fun kept hkept p hp => hentries p (hkept p hp)
  refine Agrees.filterM (l := s.entries id) fun p hp => ?_
  refine (Agrees.of_eq (isAmong_raise hs (hentries p hp).1 hkeys)).bind fun _ _ _ => .ok trivial

theorem mirrors_attributesOf (hs : w.Covers s) (hv : w.Shows s v) (ns : List String) :
    w.Mirrors (Scope.attributesOf v ns) s w.ShowsRow := by
  induction ns generalizing s with
  | nil => exact .pure hs (showsRow_some.2 showsAll_nil)
  | cons n ns ih =>
    rw [Scope.attributesOf]
    refine Mirrors.bind (P := w.ShowsIf) (.recover ?_ fun e t ht _ => ?_) fun found t ht hle hfound => ?_
    · exact (mirrors_attributeOf hs hv n).map fun t a ha => showsIf_some.2 ha
    · split
      · exact .pure ht showsIf_none
      · exact .fail _ ht
    · split
      · exact .pure ht showsRow_none
      · next a =>
        have ha := hfound a rfl
        refine (ih ht (hv.mono hle)).bind fun row u hu hle' hrow => .pure hu ?_
        intro vs hvs
        obtain ⟨more, hmore, rfl⟩ := Option.map_eq_some_iff.1 hvs
        exact showsAll_cons.2 ⟨ha.mono hle', hrow more hmore⟩

/-! ### Patterns -/

/-- What names stand for is in sight, if anything was captured. -/
def ShowsCaptured (w : Veil) (s : Store) (captured : Option Bindings) : Prop :=
  ∀ b, captured = some b → w.ShowsBound s b

theorem showsCaptured_none : w.ShowsCaptured s none :=
  fun _ h => absurd h.symm (Option.some_ne_none _)

theorem showsCaptured_some {b : Bindings} : w.ShowsCaptured s (some b) ↔ w.ShowsBound s b :=
  ⟨fun h => h b rfl, fun h _ hb => Option.some.inj hb ▸ h⟩

theorem ShowsCaptured.map {captured : Option Bindings} (h : w.ShowsCaptured s captured)
    {f : Bindings → Bindings} (hf : ∀ b, w.ShowsBound s b → w.ShowsBound s (f b)) :
    w.ShowsCaptured s (captured.map f) := by
  cases captured with
  | none => exact showsCaptured_none
  | some b => exact showsCaptured_some.2 (hf b (h b rfl))

/-- **Matching a pattern mirrors what is hidden**, in whatever store and for whatever value in sight. -/
def MatchesAlike (w : Veil) (sc : Scope) (free : String → Prop) (own : Option (List String))
    (p : Payload.Pattern) : Prop :=
  ∀ {s v}, w.Covers s → w.Suits s sc free own → w.Shows s v →
    w.Mirrors (sc.matchPattern v p) s w.ShowsCaptured

/-- One pattern after another: what they capture comes together. -/
theorem Mirrors.captures {x y : Action (Option Bindings)} (hx : w.Mirrors x s w.ShowsCaptured)
    (hy : ∀ t, w.Covers t → w.Precedes s t → w.Mirrors y t w.ShowsCaptured) :
    w.Mirrors (do
      match ← x with
      | none => return none
      | some b => return (← y).map (b ++ ·)) s w.ShowsCaptured := by
  refine hx.bind fun captured t ht hle hcaptured => ?_
  cases captured with
  | none => exact .pure ht showsCaptured_none
  | some b =>
    refine (hy t ht hle).bind fun more u hu hle' hmore => .pure hu ?_
    refine hmore.map fun c hc => showsBound_append.2 ⟨(hcaptured b rfl).mono hle', hc⟩

theorem mirrors_matchParts {parts : List Payload.Pattern}
    (h : ∀ p ∈ parts, w.MatchesAlike sc free own p) (hs : w.Covers s)
    (hsc : w.Suits s sc free own) (spare : Nat) {items : List Value} (hitems : w.ShowsAll s items) :
    w.Mirrors (sc.matchParts spare items parts) s w.ShowsCaptured := by
  induction parts generalizing s items with
  | nil =>
    unfold Scope.matchParts
    exact .pure hs (showsCaptured_some.2 showsBound_nil)
  | cons p parts ih =>
    obtain ⟨hp, hparts⟩ := List.forall_mem_cons.1 h
    unfold Scope.matchParts
    split
    · next heq => exact nomatch heq
    · next row _ _ n ps heq =>
      obtain ⟨rfl, rfl⟩ := List.cons.inj heq
      extract_lets finish
      -- the starred part has taken its items
      have hfinish : ∀ taken t, w.Covers t → w.Precedes s t → w.ShowsBound t taken →
          w.Mirrors (finish taken) t w.ShowsCaptured := by
        intro taken t ht hle htaken
        have hrest : w.ShowsAll t (row.drop spare) :=
          fun a ha => (hitems a (List.mem_of_mem_drop ha)).mono hle
        refine (ih hparts ht (hsc.mono hle) hrest).bind fun more u hu hle' hmore => .pure hu ?_
        exact hmore.map fun c hc => showsBound_append.2 ⟨htaken.mono hle', hc⟩
      split
      · exact (Mirrors.pure hs showsBound_nil).bind hfinish
      · refine (Mirrors.new hs (o := .list _) (fun a ha => hitems a ?_) rfl).bind
          fun a t ht hle ha => (Mirrors.pure ht (showsBound_cons.2 ⟨ha, showsBound_nil⟩)).bind
            fun taken u hu hle' htaken => hfinish taken u hu (hle.trans hle') htaken
        rw [List.toList_toArray] at ha
        exact List.mem_of_mem_take ha
    · next a items p' ps _ heq =>
      obtain ⟨rfl, rfl⟩ := List.cons.inj heq
      obtain ⟨ha, hitems⟩ := showsAll_cons.1 hitems
      exact (hp hs hsc ha).captures fun t ht hle => ih hparts ht (hsc.mono hle) (hitems.mono hle)
    · exact .pure hs showsCaptured_none

theorem mirrors_matchEntries {entries : List (Payload.Key × Payload.Pattern)}
    (h : ∀ k p, (k, p) ∈ entries → w.MatchesAlike sc free own p) (hs : w.Covers s)
    (hsc : w.Suits s sc free own) {values : List Value} (hvalues : w.ShowsAll s values) :
    w.Mirrors (sc.matchEntries values entries) s w.ShowsCaptured := by
  induction entries generalizing s values with
  | nil => cases values <;> exact .pure hs (showsCaptured_some.2 showsBound_nil)
  | cons e entries ih =>
    obtain ⟨k, p⟩ := e
    cases values with
    | nil => exact .pure hs (showsCaptured_some.2 showsBound_nil)
    | cons a values =>
      obtain ⟨ha, hvalues⟩ := showsAll_cons.1 hvalues
      exact (h k p List.mem_cons_self hs hsc ha).captures fun t ht hle =>
        ih (fun k p hp => h k p (List.mem_cons_of_mem _ hp)) ht (hsc.mono hle) (hvalues.mono hle)

theorem mirrors_matchAttributes {attributes : List (String × Payload.Pattern)}
    (h : ∀ n p, (n, p) ∈ attributes → w.MatchesAlike sc free own p) (hs : w.Covers s)
    (hsc : w.Suits s sc free own) {values : List Value} (hvalues : w.ShowsAll s values) :
    w.Mirrors (sc.matchAttributes values attributes) s w.ShowsCaptured := by
  rw [Scope.matchAttributes_eq_matchEntries sc (.literal .none)]
  exact mirrors_matchEntries (Scope.forall_entries_of_attributes h) hs hsc hvalues

theorem mirrors_matchFirst {ps : List Payload.Pattern}
    (h : ∀ p ∈ ps, w.MatchesAlike sc free own p) (hs : w.Covers s) (hsc : w.Suits s sc free own)
    (hv : w.Shows s v) : w.Mirrors (sc.matchFirst v ps) s w.ShowsCaptured := by
  induction ps generalizing s with
  | nil => exact .pure hs showsCaptured_none
  | cons p ps ih =>
    obtain ⟨hp, hps⟩ := List.forall_mem_cons.1 h
    rw [Scope.matchFirst]
    refine (hp hs hsc hv).bind fun captured t ht hle hcaptured => ?_
    split
    · exact .pure ht hcaptured
    · exact ih hps ht (hsc.mono hle) (hv.mono hle)

/-- **A value is matched** with a pattern. -/
theorem mirrors_matchPattern {p : Payload.Pattern} (hp : p.KeepsTo free own) :
    w.MatchesAlike sc free own p := by
  have hempty : ∀ t : Store, w.ShowsCaptured t (some []) :=
    fun _ => showsCaptured_some.2 showsBound_nil
  induction hp with
  | @literal c =>
    intro s v hs hsc hv
    refine (mirrors_matchesLiteral hs c hv).bind fun b t ht _ _ => .pure ht ?_
    split
    · exact hempty t
    · exact showsCaptured_none
  | capture =>
    exact fun hs _ hv => .pure hs (showsCaptured_some.2 (showsBound_cons.2 ⟨hv, showsBound_nil⟩))
  | wildcard => exact fun hs _ _ => .pure hs (hempty _)
  | @value root path hroot =>
    intro s v hs hsc hv
    refine (mirrors_dottedValue hs hsc hroot path).bind fun a t ht hle ha => ?_
    refine .ofStore_bind ht (.of_eq (equal_raise ht v a (hv.mono hle) ha)) fun b _ => .pure ht ?_
    split
    · exact hempty t
    · exact showsCaptured_none
  | @sequence parts hparts ih =>
    intro s v hs hsc hv
    refine .look_bind hs (sequenceLength?_raise v) ?_
    split
    · exact .pure hs showsCaptured_none
    · dsimp only
      split
      · exact .pure hs showsCaptured_none
      · refine .look_bind hs (sequenceItems?_raise v) ?_
        exact mirrors_matchParts (fun p hp => ih p hp) hs hsc _ (shows_sequenceItems? hs hv)
  | starred => exact fun hs _ _ => .pure hs showsCaptured_none
  | @mapping entries rest hkey hvalue ih =>
    intro s v hs hsc hv
    unfold Scope.matchPattern
    refine .look_bind hs (objectOf?_raise _) ?_
    split
    · next id d h =>
      split
      · exact .pure hs showsCaptured_none
      -- the keys, their values, the patterns for these, and what is left for the rest
      · refine (Mirrors.mapM (P := w.Shows) hs Shows.mono fun p hp t ht hle =>
          mirrors_keyValue ht (hsc.mono hle) ?_).bind fun keys t ht hle hkeys => ?_
        · rintro root path hroot
          exact hkey root path p.2 (hroot ▸ hp)
        · refine (mirrors_lookupAll ht (hv.mono hle) showsAll_nil hkeys).bind
            fun row u hu hle' hrow => ?_
          have hsc := hsc.mono (hle.trans hle')
          split
          · exact .pure hu showsCaptured_none
          · next values =>
            refine (mirrors_matchEntries (fun k p hp => ih k p hp) hu hsc (hrow values rfl)).bind
              fun captured x hx hle'' hcaptured => ?_
            split
            · exact .pure hx showsCaptured_none
            · exact .pure hx hcaptured
            · next b n =>
              have hid := (hv.mono (hle.trans hle')).mono hle''
              refine (mirrors_entriesWithout hx hid
                (ShowsAll.mono hkeys (hle'.trans hle''))).bind fun left y hy hle₃ hleft => ?_
              refine (Mirrors.new hy (o := .dict _) hleft rfl).bind fun a z hz hle₄ ha => .pure hz ?_
              refine showsCaptured_some.2 (showsBound_append.2 ⟨?_, ?_⟩)
              · exact (hcaptured b rfl).mono (hle₃.trans hle₄)
              · exact showsBound_cons.2 ⟨ha, showsBound_nil⟩
    · exact .pure hs showsCaptured_none
  | @typed root path parts attributes hroot hpart hattribute ihpart ihattribute =>
    intro s v hs hsc hv
    unfold Scope.matchPattern
    refine (mirrors_dottedValue hs hsc hroot path).bind fun a t ht hle ha => ?_
    have hsc := hsc.mono hle
    have hv := hv.mono hle
    split
    · next k =>
      refine .ofStore_bind ht (.of_eq (congrFun (isOfKind_raise v 1) _)) fun b _ => ?_
      split
      · exact .pure ht showsCaptured_none
      -- it does not matter here how many parts a kind may have
      · generalize (if Scope.isOwnPart k then 1 else 0) = most
        split
        · exact .failWith _ ht
        · refine (mirrors_attributesOf ht hv _).bind fun row u hu hle' hrow => ?_
          have hsc := hsc.mono hle'
          split
          · exact .pure hu showsCaptured_none
          · next values =>
            -- a kind whose part is the value itself matches every part with the value
            have hselves : w.ShowsAll u (parts.map fun _ => v) := by
              intro b hb
              obtain ⟨_, -, rfl⟩ := List.mem_map.1 hb
              exact hv.mono hle'
            exact (mirrors_matchParts (fun p hp => ihpart p hp) hu hsc 0 hselves).captures
              fun x hx hle'' => mirrors_matchAttributes (fun n p hp => ihattribute n p hp) hx
                (hsc.mono hle'') ((hrow values rfl).mono hle'')
    · exact .failWith _ ht
  | alternatives _ ih => exact fun hs hsc hv => mirrors_matchFirst (fun p hp => ih p hp) hs hsc hv
  | @named p n _ ih =>
    intro s v hs hsc hv
    refine (ih hs hsc hv).bind fun captured t ht hle hcaptured => .pure ht ?_
    refine hcaptured.map fun b hb => showsBound_append.2 ⟨hb, ?_⟩
    exact showsBound_cons.2 ⟨hv.mono hle, showsBound_nil⟩

end TokenTemplate.Veil
