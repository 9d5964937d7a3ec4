import Mathlib.Data.List.TakeWhile
import TokenTemplate.Proofs.Grammar.Body

/-!
# Bodies that end at a comma

The body of an arm may reach to the next comma. It is compiled with the comma and all that comes
after it in view, but it comes to the same as if the body were all that there is
(`TokenTemplate.Bodies.Regular`, `TokenTemplate.Body.bodies_regular`). For a comma is part of no
construct that takes more than one token, so no construct reaches across it.
-/

namespace TokenTemplate

variable {r : Region} {t u : Tree} {ts us rest left : List Tree} {c : Construct}

/-! ### Constructs before a comma -/

theorem isPunct_of_mem_takeWhile : ∀ v ∈ ts.takeWhile (!·.isPunct ','), v.isPunct ',' = false :=
  fun v hv => by simpa using List.mem_takeWhile_imp hv

theorem isPunct_of_head?_dropWhile :
    ∀ v ∈ (ts.dropWhile (!·.isPunct ',')).head?, v.isPunct ',' = true := by
  intro v hv
  have hhead := List.head?_dropWhile_not (fun t : Tree => !t.isPunct ',') ts
  rw [Option.mem_def.1 hv] at hhead
  simpa using hhead

/-- A token that is no comma comes before the comma that ends a row. -/
theorem cons_of_append (hrest : ∀ v ∈ rest.head?, v.isPunct ',' = true)
    (hu : u.isPunct ',' = false) (heq : ts ++ rest = u :: us) :
    ∃ ts', ts = u :: ts' ∧ us = ts' ++ rest := by
  cases ts with
  | nil =>
    obtain rfl : rest = u :: us := heq
    exact absurd ((hrest u rfl).symm.trans hu) (by decide)
  | cons v ts =>
    obtain ⟨rfl, rfl⟩ := List.cons.inj heq
    exact ⟨ts, rfl, rfl⟩

/-- A comma begins nothing together with the token before it. -/
theorem standsAlone_append (hrest : ∀ v ∈ rest.head?, v.isPunct ',' = true) :
    standsAlone t (ts ++ rest) = standsAlone t ts := by
  rcases ts with _ | ⟨u, ts⟩
  · rcases rest with _ | ⟨v, rest⟩
    · rfl
    · have hcomma := hrest v rfl
      change standsAlone t (v :: rest) = true
      rw [standsAlone, isPunct_unique hcomma (by decide : (',' : Char) ≠ sigil),
        isPunct_unique hcomma (by decide : (',' : Char) ≠ '<')]
      cases v with
      | leaf l =>
        rw [Tree.isPunct, Bool.and_eq_true, beq_iff_eq] at hcomma
        simp [Tree.isKind, Tree.isGroup, hcomma.1]
      | group d children span => exact absurd hcomma Bool.false_ne_true
  · rfl

namespace Construct

/-- **A construct before a comma** takes the tokens that it would take without what comes after. -/
theorem takes_append_iff (hts : ∀ v ∈ ts, v.isPunct ',' = false)
    (hrest : ∀ v ∈ rest.head?, v.isPunct ',' = true) :
    Takes r (t :: (ts ++ rest)) c left ↔
      ∃ left', left = left' ++ rest ∧ Takes r (t :: ts) c left' := by
  constructor
  · intro h
    -- each token that the construct takes is no comma, so it is before the rest
    generalize heq : ts ++ rest = us at h
    cases h with
    | escape ht hu htouch =>
      obtain ⟨ts₁, rfl, rfl⟩ := cons_of_append hrest (isPunct_unique hu (by decide)) heq
      exact ⟨ts₁, rfl, .escape ht hu htouch⟩
    | directive ht hu htouch hl hw hstop =>
      obtain ⟨ts₁, rfl, heq₁⟩ := cons_of_append hrest (isPunct_unique hu (by decide)) heq
      obtain ⟨ts₂, rfl, heq₂⟩ := cons_of_append hrest (isPunct_of_name hl _) heq₁.symm
      obtain ⟨ts₃, rfl, rfl⟩ :=
        cons_of_append hrest (isPunct_unique hstop (by decide)) heq₂.symm
      exact ⟨ts₃, rfl, .directive ht hu htouch hl hw hstop⟩
    | block ht hl htext =>
      obtain ⟨ts₁, rfl, heq₁⟩ := cons_of_append hrest (isPunct_of_name hl _) heq
      obtain ⟨ts₂, rfl, rfl⟩ := cons_of_append hrest (isPunct_group ..) heq₁.symm
      exact ⟨ts₂, rfl, .block ht hl htext⟩
    | name ht hl hblock =>
      obtain ⟨ts₁, rfl, rfl⟩ := cons_of_append hrest (isPunct_of_name hl _) heq
      refine ⟨ts₁, rfl, .name ht hl fun htext => ?_⟩
      cases ts₁ with
      | nil => rfl
      | cons v ts₁ => exact hblock htext
    | payload ht =>
      obtain ⟨ts₁, rfl, rfl⟩ := cons_of_append hrest (isPunct_group ..) heq
      exact ⟨ts₁, rfl, .payload ht⟩
    | plain halone =>
      subst heq
      exact ⟨ts, rfl, .plain ((standsAlone_append hrest).symm.trans halone)⟩
  · rintro ⟨left', rfl, h⟩
    cases h with
    | escape ht hu htouch => exact .escape ht hu htouch
    | directive ht hu htouch hl hw hstop => exact .directive ht hu htouch hl hw hstop
    | block ht hl htext => exact .block ht hl htext
    | name ht hl hblock =>
      refine .name ht hl fun htext => ?_
      have hhead := hblock htext
      rcases left' with _ | ⟨v, left'⟩
      · rcases rest with _ | ⟨v, rest⟩
        · rfl
        · cases v with
          | leaf l => rfl
          | group d children span => exact absurd (hrest _ rfl) Bool.false_ne_true
      · exact hhead
    | payload ht => exact .payload ht
    | plain halone => exact .plain ((standsAlone_append hrest).trans halone)

/-- What a construct leaves of a row was in the row. -/
theorem Takes.subset (h : Takes r ts c rest) : rest ⊆ ts := by
  intro v hv
  cases h with
  | escape | directive | block | name | payload | plain => simp [hv]

end Construct

/-! ### Rows before a comma -/

namespace Body

variable {b : Body} {inside : Inside} {room : Nat} {e e' : Encoder}

/-- A construct is written in the same way whatever comes after it. -/
theorem place_goOn (ts : List Tree) :
    b.place inside room e (r.goOn ts) c = b.place inside room e r c := by
  cases c <;> rfl

theorem Writes.goOn {untilComma : Bool} (h : b.Writes inside room untilComma r e ts e' left) :
    b.Writes inside room untilComma (r.goOn us) e ts e' left := by
  induction h with
  | nil => exact .nil
  | comma hcomma ht => exact .comma hcomma ht
  | step hcomma htakes hplace _ ih =>
    exact .step hcomma (Construct.takes_goOn_iff.2 htakes) hplace ih

/-- A row up to a comma is written as it is by itself. -/
theorem Writes.of_append (h : b.Writes inside room true r e us e' left)
    (hts : ∀ v ∈ ts, v.isPunct ',' = false) (hrest : ∀ v ∈ rest.head?, v.isPunct ',' = true)
    (heq : us = ts ++ rest) : left = rest ∧ b.Writes inside room false r e ts e' [] := by
  induction h generalizing ts with
  | nil =>
    obtain ⟨rfl, rfl⟩ := List.append_eq_nil_iff.1 heq.symm
    exact ⟨rfl, .nil⟩
  | @comma e t us _ ht =>
    cases ts with
    | nil =>
      obtain rfl : _ = rest := heq
      exact ⟨rfl, .nil⟩
    | cons v ts =>
      obtain ⟨rfl, -⟩ := List.cons.inj heq
      exact absurd (ht.symm.trans (hts _ List.mem_cons_self)) (by decide)
  | @step e e₁ e₂ t us more left c hcomma htakes hplace _ ih =>
    rw [Bool.true_and] at hcomma
    obtain ⟨ts', rfl, rfl⟩ := cons_of_append hrest hcomma heq.symm
    have hts' : ∀ v ∈ ts', v.isPunct ',' = false := fun v hv => hts v (List.mem_cons_of_mem _ hv)
    obtain ⟨more', rfl, htakes'⟩ := (Construct.takes_append_iff hts' hrest).1 htakes
    obtain ⟨rfl, hwrites⟩ := ih (fun v hv => hts v (htakes'.subset hv)) rfl
    refine ⟨rfl, .step rfl htakes' ?_ hwrites⟩
    rwa [place_goOn, ← place_goOn (more' ++ left)]

/-- A row by itself is written as it is up to a comma. -/
theorem Writes.append (h : b.Writes inside room false r e ts e' left)
    (hts : ∀ v ∈ ts, v.isPunct ',' = false) (hrest : ∀ v ∈ rest.head?, v.isPunct ',' = true) :
    b.Writes inside room true r e (ts ++ rest) e' rest := by
  induction h with
  | nil =>
    cases rest with
    | nil => exact .nil
    | cons v rest => exact .comma rfl (hrest v rfl)
  | comma hcomma => exact absurd hcomma Bool.false_ne_true
  | @step e e₁ e₂ t ts more left c _ htakes hplace _ ih =>
    obtain ⟨ht, hts'⟩ := List.forall_mem_cons.1 hts
    have htakes' := (Construct.takes_append_iff hts' hrest).2 ⟨more, rfl, htakes⟩
    refine .step ht htakes' ?_ (ih fun v hv => hts v (htakes.subset hv))
    rwa [place_goOn, ← place_goOn more]

end Body

/-! ### Bodies before a comma -/

/-- **Bodies that are compiled as a whole.** -/
structure Bodies.Regular (bodies : Bodies) : Prop where
  /-- A body that no comma ends takes all tokens that there are. -/
  whole : ∀ {edges : Option Span} {r after : Region} {body : Routine},
    bodies edges false r = .ok (body, after) → after = r.goOn []
  /-- A body that a comma ends is the same as if nothing came after it. -/
  comma : ∀ {r after : Region} {ts rest : List Tree} {body : Routine},
    (∀ v ∈ ts, v.isPunct ',' = false) → (∀ v ∈ rest.head?, v.isPunct ',' = true) →
      (bodies none true (r.goOn (ts ++ rest)) = .ok (body, after) ↔
        bodies none false (r.goOn ts) = .ok (body, r.goOn []) ∧ after = r.goOn rest)

namespace Body

theorem levels_eq_ok_iff {b : Body} {room : Nat} {untilComma : Bool} {e e' : Encoder}
    {after : Region} :
    levels b (room + 1) untilComma e r = .ok (e', after) ↔
      ∃ left, b.Writes (levels b room) room untilComma r e r.tokens e' left ∧
        after = r.goOn left :=
  placeAll_eq_ok_iff

/-- **The bodies of a template are compiled as a whole**, at every depth. -/
theorem bodies_regular (b : Body) (room : Nat) : (b.bodies (levels b room)).Regular := by
  cases room with
  | zero =>
    refine ⟨fun h => ?_, fun _ _ => iff_of_false ?_ ?_⟩
    · rw [bodies_eq, compileWith_eq_ok_iff] at h
      obtain ⟨e, h, -⟩ := h
      exact absurd h error_ne_ok
    · rw [bodies_eq, compileWith_eq_ok_iff]
      rintro ⟨e, h, -⟩
      exact absurd h error_ne_ok
    · rw [bodies_eq, compileWith_eq_ok_iff]
      rintro ⟨⟨e, h, -⟩, -⟩
      exact absurd h error_ne_ok
  | succ room =>
    constructor
    · intro edges r after body h
      rw [bodies_eq, compileWith_eq_ok_iff] at h
      obtain ⟨e, h, -⟩ := h
      obtain ⟨left, hwrites, rfl⟩ := levels_eq_ok_iff.1 h
      obtain rfl := hwrites.left_eq_nil rfl
      rfl
    · intro r after ts rest body hts hrest
      simp only [bodies_eq, compileWith_eq_ok_iff]
      constructor
      · rintro ⟨e, h, hfinish⟩
        obtain ⟨left, hwrites, rfl⟩ := levels_eq_ok_iff.1 h
        obtain ⟨rfl, hwrites⟩ := hwrites.of_append hts hrest rfl
        exact ⟨⟨e, levels_eq_ok_iff.2 ⟨[], hwrites.goOn, rfl⟩, hfinish⟩, rfl⟩
      · rintro ⟨⟨e, h, hfinish⟩, rfl⟩
        obtain ⟨left, hwrites, -⟩ := levels_eq_ok_iff.1 h
        exact ⟨e, levels_eq_ok_iff.2 ⟨rest, (hwrites.append hts hrest).goOn, rfl⟩, hfinish⟩

end Body

end TokenTemplate
