import TokenTemplate.Template.Body

/-!
# Steps that succeed

Reading a template is written as a program that takes tokens one after another, and complains where
it cannot go on. Here the steps are looked at from the other side: what is known once a step has
succeeded. A program succeeds if each of its steps does (`TokenTemplate.bind_eq_ok_iff`), and a
region gives a token exactly if the token is there (`TokenTemplate.Region.expect_eq_ok_iff` and its
companions).
-/

namespace TokenTemplate

/-! ### Outcomes -/

section Outcomes

variable {ε α β : Type}

theorem bind_eq_ok_iff {x : Except ε α} {f : α → Except ε β} {b : β} :
    (x >>= f) = .ok b ↔ ∃ a, x = .ok a ∧ f a = .ok b := by
  cases x with
  | error e => exact ⟨fun h => absurd h (by simp [bind, Except.bind]), by simp⟩
  | ok a => exact ⟨fun h => ⟨a, rfl, h⟩, fun ⟨_, ha, h⟩ => by cases ha; exact h⟩

theorem map_eq_ok_iff {x : Except ε α} {f : α → β} {b : β} :
    f <$> x = .ok b ↔ ∃ a, x = .ok a ∧ f a = b := by
  cases x with
  | error e => exact ⟨fun h => absurd h nofun, by simp⟩
  | ok a =>
    exact ⟨fun h => ⟨a, rfl, Except.ok.inj h⟩, fun ⟨_, ha, h⟩ => by cases ha; exact congrArg _ h⟩

/-- One of two steps, and what comes after it. -/
theorem ite_bind_eq_ok_iff {c : Prop} [Decidable c] {x y : Except ε α} {f : α → Except ε β}
    {b : β} :
    (if c then x >>= f else y >>= f) = .ok b ↔
      ∃ a, (if c then x else y) = .ok a ∧ f a = .ok b := by
  split <;> exact bind_eq_ok_iff

theorem exists_of_isOk {x : Except ε α} (h : x.isOk = true) : ∃ a, x = .ok a := by
  cases x with
  | error e => exact absurd h Bool.false_ne_true
  | ok a => exact ⟨a, rfl⟩

theorem error_ne_ok {e : ε} {a : α} : (.error e : Except ε α) ≠ .ok a := nofun

theorem lift_eq_ok_iff {x : Except SyntaxError α} {a : α} :
    (liftM x : Except CompileError α) = .ok a ↔ x = .ok a := by
  cases x with
  | error e => exact iff_of_false error_ne_ok error_ne_ok
  | ok b => exact ⟨fun h => by cases h; rfl, fun h => by cases h; rfl⟩

end Outcomes

/-! ### Taking tokens -/

namespace Region

variable {r r' : Region} {t : Tree} {d : Delimiter}

theorem next_eq_ok_iff : r.next = .ok (t, r') ↔ ∃ ts, r.tokens = t :: ts ∧ r' = r.goOn ts := by
  rw [next]
  split
  · next u us hr =>
    rw [hr, Except.ok.injEq, Prod.mk.injEq]
    constructor
    · rintro ⟨rfl, rfl⟩
      exact ⟨us, rfl, rfl⟩
    · rintro ⟨ts, hts, rfl⟩
      obtain ⟨rfl, rfl⟩ := List.cons.inj hts
      exact ⟨rfl, rfl⟩
  · next hr => simp [hr]

theorem expect_eq_ok_iff {p : Tree → Bool} {problem : SyntaxProblem} :
    r.expect p problem = .ok (t, r') ↔
      ∃ ts, r.tokens = t :: ts ∧ p t = true ∧ r' = r.goOn ts := by
  rw [expect]
  split
  · next u us hr =>
    rw [hr]
    constructor
    · intro h
      split at h
      · next hu =>
        obtain ⟨rfl, rfl⟩ := Prod.mk.inj (Except.ok.inj h)
        exact ⟨us, rfl, hu, rfl⟩
      · exact absurd h error_ne_ok
    · rintro ⟨ts, hts, hp, rfl⟩
      obtain ⟨rfl, rfl⟩ := List.cons.inj hts
      rw [if_pos hp]
  · next hr => simp [hr]

theorem expectName_eq_ok_iff {l : Leaf} :
    r.expectName = .ok (l, r') ↔
      ∃ ts, r.tokens = .leaf l :: ts ∧ l.kind = .name ∧ r' = r.goOn ts := by
  rw [expectName]
  split
  · next l' us hr =>
    rw [hr]
    constructor
    · intro h
      split at h
      · next hkind =>
        obtain ⟨rfl, rfl⟩ := Prod.mk.inj (Except.ok.inj h)
        exact ⟨us, rfl, hkind, rfl⟩
      · exact absurd h error_ne_ok
    · rintro ⟨ts, hts, hkind, rfl⟩
      obtain ⟨hl, rfl⟩ := List.cons.inj hts
      obtain rfl := Tree.leaf.inj hl
      rw [if_pos hkind]
  · next hr =>
    constructor
    · exact fun h => absurd h error_ne_ok
    · rintro ⟨ts, hts, -⟩
      exact absurd hts (hr l ts)

theorem expectGroup_eq_ok_iff {inside : Region} :
    r.expectGroup d = .ok (inside, r') ↔
      ∃ children span ts, r.tokens = .group d children span :: ts ∧
        inside = r.inside children span ∧ r' = r.goOn ts := by
  rw [expectGroup]
  split
  · next d' children span us hr =>
    rw [hr]
    constructor
    · intro h
      split at h
      · next hd =>
        subst hd
        obtain ⟨rfl, rfl⟩ := Prod.mk.inj (Except.ok.inj h)
        exact ⟨children, span, us, rfl, rfl, rfl⟩
      · exact absurd h error_ne_ok
    · rintro ⟨children', span', ts, hts, rfl, rfl⟩
      obtain ⟨hg, rfl⟩ := List.cons.inj hts
      obtain ⟨rfl, rfl, rfl⟩ := Tree.group.inj hg
      rw [if_pos rfl]
  · next hr =>
    constructor
    · exact fun h => absurd h error_ne_ok
    · rintro ⟨children, span, ts, hts, -⟩
      exact absurd hts (hr d children span ts)

theorem expectArrow_eq_ok_iff {s : Span} :
    r.expectArrow = .ok (s, r') ↔
      ∃ t u ts, r.tokens = t :: u :: ts ∧ r.peekArrow 0 = true ∧ s = t.span.join u.span ∧
        r' = r.goOn ts := by
  rw [expectArrow]
  split
  · next t' u' us hr =>
    rw [hr]
    constructor
    · intro h
      split at h
      · next harrow =>
        obtain ⟨rfl, rfl⟩ := Prod.mk.inj (Except.ok.inj h)
        exact ⟨t', u', us, rfl, harrow, rfl, rfl⟩
      · exact absurd h error_ne_ok
    · rintro ⟨t, u, ts, hts, harrow, rfl, rfl⟩
      obtain ⟨rfl, hus⟩ := List.cons.inj hts
      obtain ⟨rfl, rfl⟩ := List.cons.inj hus
      rw [if_pos harrow]
  · next hr =>
    constructor
    · exact fun h => absurd h error_ne_ok
    · rintro ⟨t, u, ts, hts, -⟩
      exact absurd hts (hr t u ts)

theorem expectEnd_eq_ok_iff {u : Unit} : r.expectEnd = .ok u ↔ r.tokens = [] := by
  rw [expectEnd, ← List.isEmpty_iff]
  split
  · next h => exact iff_of_true rfl h
  · next h => exact iff_of_false error_ne_ok h

end Region

end TokenTemplate
