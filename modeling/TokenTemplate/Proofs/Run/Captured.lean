import TokenTemplate.Evaluation.Match
import TokenTemplate.Proofs.Payload.Binding
import TokenTemplate.Proofs.Run.Moment

/-!
# Names that a match captures

If a value matches a pattern, the names that this captures are those of the pattern, whichever alternatives have
matched: `TokenTemplate.Scope.capturesOwn`. Every part of the pattern has been matched by then, and each of
its names is captured in one place.
-/

namespace TokenTemplate

open TokenTemplate.Action

/-- **If an action captures anything, it captures some names**, each of them once. -/
def Action.CapturesNames (x : Action (Option Bindings)) (names : List String) : Prop :=
  ∀ s b t, x.Gives s (some b) t → (b.map Prod.fst).Perm names

namespace Action

variable {α : Type} {x : Action (Option Bindings)} {names names' : List String}

theorem capturesNames_none : CapturesNames (pure none) names := by
  intro s b t h
  exact absurd (gives_pure_iff.1 h).1 (by simp)

theorem capturesNames_some {b : Bindings} (h : (b.map Prod.fst).Perm names) : CapturesNames (pure (some b)) names := by
  intro s b' t hgives
  obtain ⟨hb, -⟩ := gives_pure_iff.1 hgives
  obtain rfl := Option.some.inj hb
  exact h

theorem capturesNames_failWith (k : ErrorKind) : CapturesNames (failWith k) names := by
  intro s b t h
  exact absurd h.outcome_eq (by simp [failWith, fail])

theorem CapturesNames.of_bind {y : Action α} {f : α → Action (Option Bindings)}
    (h : ∀ s a t, y.Gives s a t → (f a).CapturesNames names) : CapturesNames (y >>= f) names := by
  intro s b t hgives
  obtain ⟨a, u, ha, hb⟩ := gives_bind_iff.1 hgives
  exact h s a u ha u b t hb

/-- What came before does not matter. -/
theorem capturesNames_bind {y : Action α} {f : α → Action (Option Bindings)} (h : ∀ a, (f a).CapturesNames names) :
    CapturesNames (y >>= f) names :=
  .of_bind fun _ a _ _ => h a

/-- **What one part captures, and then what the others capture.** -/
theorem CapturesNames.append {taken : Bindings} (h : (taken.map Prod.fst).Perm names) (hx : x.CapturesNames names') :
    CapturesNames (x >>= fun found => pure (found.map (taken ++ ·))) (names ++ names') := by
  intro s b t hgives
  obtain ⟨found, u, hfound, hb⟩ := gives_bind_iff.1 hgives
  obtain ⟨hmap, rfl⟩ := gives_pure_iff.1 hb
  obtain ⟨c, rfl, rfl⟩ := Option.map_eq_some_iff.1 hmap.symm
  rw [List.map_append]
  exact h.append (hx s c _ hfound)

end Action

namespace Scope

variable {sc : Scope} {v : Value}

/-! ### Values of parts -/

/-- The values of some keys, one for each. -/
theorem length_of_lookupAll {id : Nat} {seen keys values : List Value} {s t : Store}
    (h : (lookupAll id seen keys).Gives s (some values) t) : values.length = keys.length := by
  induction keys generalizing seen values s t with
  | nil =>
    obtain ⟨hvalues, -⟩ := gives_pure_iff.1 h
    exact congrArg List.length (Option.some.inj hvalues)
  | cons k keys ih =>
    rw [lookupAll] at h
    obtain ⟨_, s₁, -, h₁⟩ := gives_bind_iff.1 h
    obtain ⟨twice, s₂, -, h₂⟩ := gives_bind_iff.1 h₁
    split at h₂
    · exact absurd h₂.outcome_eq (by simp [failWith, fail])
    · obtain ⟨found, s₃, -, h₃⟩ := gives_bind_iff.1 h₂
      split at h₃
      · exact absurd (gives_pure_iff.1 h₃).1 (by simp)
      · obtain ⟨more, s₄, hmore, h₄⟩ := gives_bind_iff.1 h₃
        obtain ⟨vs, rfl, rfl⟩ := Option.map_eq_some_iff.1 (gives_pure_iff.1 h₄).1.symm
        rw [List.length_cons, List.length_cons, ih hmore]

/-- The attributes of a value, one for each name. -/
theorem length_of_attributesOf {ns : List String} {values : List Value} {s t : Store}
    (h : (attributesOf v ns).Gives s (some values) t) : values.length = ns.length := by
  induction ns generalizing values s t with
  | nil =>
    obtain ⟨hvalues, -⟩ := gives_pure_iff.1 h
    exact congrArg List.length (Option.some.inj hvalues)
  | cons n ns ih =>
    rw [attributesOf] at h
    obtain ⟨found, s₁, -, h₁⟩ := gives_bind_iff.1 h
    split at h₁
    · exact absurd (gives_pure_iff.1 h₁).1 (by simp)
    · obtain ⟨more, s₂, hmore, h₂⟩ := gives_bind_iff.1 h₁
      obtain ⟨vs, rfl, rfl⟩ := Option.map_eq_some_iff.1 (gives_pure_iff.1 h₂).1.symm
      rw [List.length_cons, List.length_cons, ih hmore]

theorem length_of_mapM {α β : Type} {f : α → Action β} {row : List α} {bs : List β} {s t : Store}
    (h : (row.mapM f).Gives s bs t) : bs.length = row.length := by
  induction row generalizing bs s t with
  | nil =>
    rw [List.mapM_nil] at h
    rw [(gives_pure_iff.1 h).1]
    rfl
  | cons a row ih =>
    rw [List.mapM_cons] at h
    obtain ⟨b, s₁, -, h₁⟩ := gives_bind_iff.1 h
    obtain ⟨bs', s₂, hbs, h₂⟩ := gives_bind_iff.1 h₁
    rw [(gives_pure_iff.1 h₂).1, List.length_cons, List.length_cons, ih hbs]

/-! ### Parts of a pattern -/

/-- A pattern captures its names from every value. -/
def CapturesOwn (sc : Scope) (p : Payload.Pattern) : Prop :=
  ∀ v, (sc.matchPattern v p).CapturesNames p.names

theorem capturesNames_matchParts {spare : Nat} {parts : List Payload.Pattern} (h : ∀ p ∈ parts, sc.CapturesOwn p)
    (items : List Value) :
    (sc.matchParts spare items parts).CapturesNames (Payload.Pattern.allNames parts) := by
  induction parts generalizing items with
  | nil =>
    unfold matchParts
    exact capturesNames_some (.refl _)
  | cons p parts ih =>
    obtain ⟨hp, hparts⟩ := List.forall_mem_cons.1 h
    rw [Payload.Pattern.allNames]
    unfold matchParts
    split
    · next heq => exact absurd heq (by simp)
    · next row _ _ n ps heq =>
      obtain ⟨rfl, rfl⟩ := List.cons.inj heq
      cases n with
      | none => exact .append (.refl _) (ih hparts _)
      | some n =>
        refine capturesNames_bind fun taken => ?_
        exact .append (.refl _) (ih hparts _)
    · next heq =>
      obtain ⟨rfl, rfl⟩ := List.cons.inj heq
      refine .of_bind fun s found t hfound => ?_
      split
      · exact capturesNames_none
      · exact .append (hp _ _ _ _ hfound) (ih hparts _)
    · exact capturesNames_none

theorem capturesNames_matchEntries {entries : List (Payload.Key × Payload.Pattern)}
    (h : ∀ k p, (k, p) ∈ entries → sc.CapturesOwn p) {values : List Value} (hlength : values.length = entries.length) :
    (sc.matchEntries values entries).CapturesNames (Payload.Pattern.entryNames entries) := by
  induction entries generalizing values with
  | nil =>
    obtain rfl := List.eq_nil_of_length_eq_zero hlength
    exact capturesNames_some (.refl _)
  | cons e entries ih =>
    cases values with
    | nil => exact absurd hlength (by simp)
    | cons v values =>
      refine .of_bind fun s found t hfound => ?_
      split
      · exact capturesNames_none
      · refine .append (h e.1 e.2 List.mem_cons_self _ _ _ _ hfound) ?_
        exact ih (fun k p hp => h k p (List.mem_cons_of_mem _ hp)) (Nat.succ.inj hlength)

theorem capturesNames_matchAttributes {attributes : List (String × Payload.Pattern)}
    (h : ∀ n p, (n, p) ∈ attributes → sc.CapturesOwn p) {values : List Value}
    (hlength : values.length = attributes.length) :
    (sc.matchAttributes values attributes).CapturesNames (Payload.Pattern.attributeNames attributes) := by
  have hnames : Payload.Pattern.attributeNames attributes =
      Payload.Pattern.entryNames (attributes.map fun q => (.literal .none, q.2)) := by
    rw [Payload.Pattern.attributeNames_eq, Payload.Pattern.entryNames_eq, List.flatMap_map]
  rw [matchAttributes_eq_matchEntries sc (.literal .none), hnames]
  exact capturesNames_matchEntries (forall_entries_of_attributes h) (hlength.trans (List.length_map _).symm)

theorem capturesNames_matchFirst {ps : List Payload.Pattern} {names : List String}
    (h : ∀ p ∈ ps, ∀ v, (sc.matchPattern v p).CapturesNames names) (v : Value) :
    (sc.matchFirst v ps).CapturesNames names := by
  induction ps with
  | nil => exact capturesNames_none
  | cons p ps ih =>
    obtain ⟨hp, hps⟩ := List.forall_mem_cons.1 h
    rw [matchFirst]
    refine .of_bind fun s found t hfound => ?_
    split
    · exact capturesNames_some (hp v _ _ _ hfound)
    · exact ih hps

/-! ### Patterns -/

/-- **A pattern captures its names**, whichever alternatives match. -/
theorem capturesOwn {p : Payload.Pattern} (hp : p.Lawful) : sc.CapturesOwn p := by
  induction hp with
  | literal =>
    intro v
    unfold matchPattern
    refine capturesNames_bind fun found => ?_
    split
    · exact capturesNames_some (.refl _)
    · exact capturesNames_none
  | capture => exact fun v => capturesNames_some (.refl _)
  | wildcard => exact fun v => capturesNames_some (.refl _)
  | value =>
    intro v
    unfold matchPattern
    refine capturesNames_bind fun a => capturesNames_bind fun same => ?_
    split
    · exact capturesNames_some (.refl _)
    · exact capturesNames_none
  | sequence _ ih =>
    intro v
    unfold matchPattern
    refine capturesNames_bind fun length => ?_
    split
    · exact capturesNames_none
    · dsimp only
      split
      · exact capturesNames_none
      · exact capturesNames_bind fun items => capturesNames_matchParts ih _
  | starred =>
    intro v
    unfold matchPattern
    exact capturesNames_none
  | mapping _ ih =>
    intro v
    unfold matchPattern
    refine capturesNames_bind fun o => ?_
    split
    · split
      · exact capturesNames_none
      · refine .of_bind fun s keys t hkeys => .of_bind fun t found u hfound => ?_
        split
        · exact capturesNames_none
        -- one value is looked up for each key, so no name of an entry is left out
        · have hlength := (length_of_lookupAll hfound).trans (length_of_mapM hkeys)
          refine .of_bind fun u captured x hcaptured => ?_
          have hentries := capturesNames_matchEntries ih hlength
          split
          · exact capturesNames_none
          · refine capturesNames_some ?_
            rw [Payload.Pattern.names, Option.toList_none, List.append_nil]
            exact hentries _ _ _ hcaptured
          · refine capturesNames_bind fun left => capturesNames_bind fun rest => capturesNames_some ?_
            rw [List.map_append]
            exact (hentries _ _ _ hcaptured).append_right _
    · exact capturesNames_none
  | typed _ _ ihparts ihattributes =>
    intro v
    unfold matchPattern
    refine capturesNames_bind fun a => ?_
    split
    · next k =>
      refine capturesNames_bind fun isOf => ?_
      generalize (if isOwnPart k then 1 else 0) = most
      split
      · exact capturesNames_none
      · split
        · exact capturesNames_failWith _
        · refine .of_bind fun s found t hfound => ?_
          split
          · exact capturesNames_none
          · have hlength := (length_of_attributesOf hfound).trans (List.length_map _)
            refine .of_bind fun t captured u hcaptured => ?_
            split
            · exact capturesNames_none
            · refine .append (capturesNames_matchParts ihparts _ _ _ _ hcaptured) ?_
              exact capturesNames_matchAttributes ihattributes hlength
    · exact capturesNames_failWith _
  | alternatives _ hsame ih =>
    intro v
    unfold matchPattern
    -- the alternative that matches captures its own names, and all have the same ones
    exact capturesNames_matchFirst (fun p hp v s b t h => (ih p hp v s b t h).trans (hsame p hp)) v
  | @named p n _ ih =>
    intro v s b t h
    unfold matchPattern at h
    obtain ⟨found, u, hfound, h⟩ := gives_bind_iff.1 h
    obtain ⟨c, rfl, rfl⟩ := Option.map_eq_some_iff.1 (gives_pure_iff.1 h).1.symm
    rw [List.map_append]
    exact (ih v _ _ _ hfound).append_right _

end Scope

end TokenTemplate
