import TokenTemplate.Payload.PatternGrammar

/-!
# The ladder of rules

An atom that no operator stands around is handed on unchanged by every rule for expressions, from the strongest
to the weakest: reading an expression is then reading the atom
(`TokenTemplate.Payload.Grammar.run_expressionRule`). It is the same with a pattern that has brackets of its own
(`TokenTemplate.Payload.PatternGrammar.run_pattern`). So what begins with a bracket is read as what stands in
brackets, whatever that is.

`TokenTemplate.Payload.Reader.Reads` is what a reader makes of tokens ahead that are known.
-/

namespace TokenTemplate.Payload

/-! ### What a reader makes of its tokens -/

/-- **A reader makes something of the first of some tokens**, whatever has been bound before, and
binds nothing itself. -/
def Reader.Reads {α : Type} (r : Reader α) (ts : List Token) (x : α) (rest : List Token) : Prop :=
  ∀ bound assignments, r.run ⟨ts, bound, assignments⟩ = some (x, ⟨rest, bound, assignments⟩)

namespace Reader

variable {α β : Type} {r : Reader α} {ts us vs : List Token} {x : α} {t : Token}

theorem reads_pure (x : α) (ts : List Token) : Reads (pure x) ts x ts :=
  fun _ _ => rfl

theorem Reads.bind {f : α → Reader β} {y : β} (h : r.Reads ts x us) (hf : (f x).Reads us y vs) :
    Reads (r >>= f) ts y vs := by
  intro bound assignments
  rw [StateT.run_bind, h]
  exact hf bound assignments

theorem reads_peek (n : Nat) (ts : List Token) : (peek n).Reads ts ts[n]? ts :=
  fun _ _ => rfl

theorem reads_skip (n : Nat) (ts : List Token) : (skip n).Reads ts () (ts.drop n) :=
  fun _ _ => rfl

theorem reads_remaining (ts : List Token) : remaining.Reads ts ts.length ts :=
  fun _ _ => rfl

theorem reads_sees (t : Token) (ts : List Token) : (sees t).Reads ts (ts[0]? == some t) ts :=
  fun _ _ => rfl

theorem reads_takes (t : Token) (ts : List Token) : (takes t).Reads (t :: ts) true ts := by
  refine (reads_sees t _).bind ?_
  rw [List.getElem?_cons_zero, beq_self_eq_true, if_pos rfl]
  exact (reads_skip 1 _).bind (reads_pure true ts)

theorem reads_not_takes (h : ts[0]? ≠ some t) : (takes t).Reads ts false ts := by
  refine (reads_sees t _).bind ?_
  rw [beq_false_of_ne h]
  exact reads_pure false ts

theorem reads_needs (t : Token) (ts : List Token) : (needs t).Reads (t :: ts) () ts :=
  (reads_takes t ts).bind (reads_pure () ts)

/-- None of some tokens comes next. -/
theorem reads_takesOneOf {table : List (Token × β)}
    (h : ∀ t, ts[0]? = some t → table.lookup t = none) : (takesOneOf table).Reads ts none ts := by
  refine (reads_peek 0 ts).bind ?_
  cases ht : ts[0]? with
  | none => exact reads_pure none ts
  | some t =>
    simp only [h t ht]
    exact reads_pure none ts

/-- Nothing is repeated if there is nothing to go on with. -/
theorem Reads.extend {more : Reader (Option β)} {step : α → β → Reader α}
    (h : more.Reads ts none ts) (fuel : Nat) (x : α) : (extend more step fuel x).Reads ts x ts := by
  cases fuel with
  | zero => exact reads_pure x ts
  | succ fuel => exact h.bind (reads_pure x ts)

/-! ### Handing on -/

variable {s : ReadState}

/-- What a reader makes of its tokens is handed on by one that goes on from there and does nothing. -/
theorem run_bind_eq {f : α → Reader α} (h : ∀ x s', r.run s = some (x, s') → (f x).run s' = some (x, s')) :
    (r >>= f).run s = r.run s := by
  rw [StateT.run_bind]
  cases hr : r.run s with
  | none => rfl
  | some p => exact h p.1 p.2 hr

theorem Reads.run_bind {f : α → Reader β} (h : r.Reads s.rest x s.rest) : (r >>= f).run s = (f x).run s := by
  rw [StateT.run_bind, h]
  rfl

/-- **A list is one item** if no comma follows the first one. -/
theorem run_commaList {ends : Token → Bool} {fuel : Nat} {xs : List α} {comma : Bool} {s' : ReadState}
    (h : (commaList ends r (fuel + 1)).run s = some ((xs, comma), s')) (hs : (s.rest[0]?).all ends = false)
    (hnext : ∀ x s₁, r.run s = some (x, s₁) → s₁.rest[0]? ≠ some (mark ",")) :
    ∃ x, xs = [x] ∧ comma = false ∧ r.run s = some (x, s') := by
  have hpeek {f : Option Token → Reader (List α × Bool)} : (peek 0 >>= f).run s = (f s.rest[0]?).run s := rfl
  rw [commaList, hpeek, hs, if_neg Bool.false_ne_true] at h
  obtain ⟨⟨x, s₁⟩, hx, hrest⟩ := Option.bind_eq_some_iff.1 h
  have htakes : (takes (mark ",")).Reads s₁.rest false s₁.rest := reads_not_takes (hnext x s₁ hx)
  obtain ⟨hxs, rfl⟩ := Prod.mk.inj (Option.some.inj (htakes.run_bind.symm.trans hrest))
  obtain ⟨rfl, rfl⟩ := Prod.mk.inj hxs
  exact ⟨x, rfl, rfl, hx⟩

end Reader

open Reader

/-! ### What stands around -/

/-- One of some tokens comes next, or none at all. -/
def Ends (ends : List Token) (ts : List Token) : Prop :=
  ∀ t, ts[0]? = some t → t ∈ ends

section Ends

variable {ends ts : List Token}

theorem Ends.nil : Ends ends [] :=
  fun _ ht => absurd ht nofun

theorem Ends.cons {t : Token} (ht : t ∈ ends) (ts : List Token) : Ends ends (t :: ts) :=
  fun _ hu => Option.some.inj hu ▸ ht

theorem Ends.ne (h : Ends ends ts) {t : Token} (ht : t ∉ ends) : ts[0]? ≠ some t :=
  fun hs => ht (h t hs)

theorem Ends.reads_takesOneOf {β : Type} {table : List (Token × β)} (h : Ends ends ts)
    (htable : ∀ t ∈ ends, table.lookup t = none) : (takesOneOf table).Reads ts none ts :=
  Reader.reads_takesOneOf fun t ht => htable t (h t ht)

/-- Nothing is put after an item if none of some operators can come next. -/
theorem Ends.reads_extend {α β : Type} {table : List (Token × β)} (h : Ends ends ts)
    (htable : ∀ t ∈ ends, table.lookup t = none) (step : α → β → Reader α) (x : α) :
    Reads (remaining >>= fun n => extend (takesOneOf table) step n x) ts x ts :=
  (reads_remaining ts).bind (.extend (h.reads_takesOneOf htable) _ x)

end Ends

/-- The tokens that end an expression in brackets, or the head of a case. -/
def closing : List Token :=
  [mark ")", mark ":"]

/-- Tokens that begin with none of the words and signs that stand in front of an operand. -/
structure Plain (ts : List Token) : Prop where
  /-- No sign comes next. -/
  sign : ∀ t, ts[0]? = some t → Grammar.signs.lookup t = none
  /-- No negation begins. -/
  negation : ts[0]? ≠ some (keyword "not")
  /-- No function begins. -/
  function : ts[0]? ≠ some (keyword "lambda")
  /-- No starred item begins. -/
  star : ts[0]? ≠ some (mark "*")

/-! ### Expressions -/

namespace Grammar

variable {g : Grammar} {s : ReadState}

theorem run_leftChain {ops : List (Token × BinaryOp)} {operand : Reader Expr}
    (h : ∀ e s', operand.run s = some (e, s') → Ends closing s'.rest)
    (hops : ∀ t ∈ closing, ops.lookup t = none) : (leftChain ops operand).run s = operand.run s :=
  run_bind_eq fun e s' he => (h e s' he).reads_extend hops _ e s'.bound s'.assignments

theorem run_foldr_leftChain {tables : List (List (Token × BinaryOp))} {operand : Reader Expr}
    (h : ∀ e s', operand.run s = some (e, s') → Ends closing s'.rest)
    (htables : ∀ ops ∈ tables, ∀ t ∈ closing, ops.lookup t = none) :
    (tables.foldr leftChain operand).run s = operand.run s := by
  induction tables with
  | nil => rfl
  | cons ops tables ih =>
    rw [List.forall_mem_cons] at htables
    have htail := ih htables.2
    exact (run_leftChain (fun e s' he => h e s' (htail ▸ he)) htables.1).trans htail

variable (h : ∀ e s', g.atom.run s = some (e, s') → Ends closing s'.rest) (hs : Plain s.rest)
include h

theorem run_primaryRule : g.primaryRule.run s = g.atom.run s :=
  run_bind_eq fun e s' he => (h e s' he).reads_extend (by decide) _ e s'.bound s'.assignments

include hs

theorem run_factorRule : g.factorRule.run s = g.atom.run s := by
  refine (reads_takesOneOf hs.sign).run_bind.trans ?_
  refine (run_bind_eq fun e s' he => ?_).trans (run_primaryRule h)
  rw [run_primaryRule h] at he
  exact ((reads_not_takes ((h e s' he).ne (by decide))).bind (reads_pure e s'.rest)) s'.bound s'.assignments

theorem run_operandRule : g.operandRule.run s = g.atom.run s := by
  have hfactor := run_factorRule h hs
  exact (run_foldr_leftChain (fun e s' he => h e s' (hfactor ▸ he)) (by decide)).trans hfactor

theorem run_comparison : g.comparison.run s = g.atom.run s := by
  refine (run_bind_eq fun e s' he => ?_).trans (run_operandRule h hs)
  rw [run_operandRule h hs] at he
  have hends := h e s' he
  have hop : comparisonOp.Reads s'.rest none s'.rest := by
    have hnone : (takesOneOf [(mark "==", CompareOp.equal), (mark "!=", .notEqual), (mark "<=", .lessEqual),
        (mark "<", .less), (mark ">=", .greaterEqual), (mark ">", .greater), (keyword "in", .member),
        (keyword "is", .same)]).Reads s'.rest none s'.rest :=
      hends.reads_takesOneOf (by decide)
    refine (reads_peek 0 s'.rest).bind ((reads_peek 1 s'.rest).bind ?_)
    cases hnext : s'.rest[0]? with
    | none => exact hnone
    | some t =>
      rcases List.mem_cons.1 (hends t hnext) with rfl | hcolon
      · exact hnone
      · obtain rfl := List.mem_singleton.1 hcolon
        exact hnone
  exact ((reads_remaining s'.rest).bind ((hop.extend _ []).bind (reads_pure e s'.rest)))
    s'.bound s'.assignments

theorem run_inversionRule : g.inversionRule.run s = g.atom.run s :=
  (reads_not_takes hs.negation).run_bind.trans (run_comparison h hs)

theorem run_conjunction : g.conjunction.run s = g.atom.run s := by
  refine (run_bind_eq fun e s' he => ?_).trans (run_inversionRule h hs)
  rw [run_inversionRule h hs] at he
  exact (h e s' he).reads_extend (by decide) _ e s'.bound s'.assignments

theorem run_disjunctionRule : g.disjunctionRule.run s = g.atom.run s := by
  refine (run_bind_eq fun e s' he => ?_).trans (run_conjunction h hs)
  rw [run_conjunction h hs] at he
  exact (h e s' he).reads_extend (by decide) _ e s'.bound s'.assignments

/-- **An atom is an expression** if there is no operator before it and none after it. -/
theorem run_expressionRule : g.expressionRule.run s = g.atom.run s := by
  refine (reads_not_takes hs.function).run_bind.trans ?_
  refine (run_bind_eq fun e s' he => ?_).trans (run_disjunctionRule h hs)
  rw [run_disjunctionRule h hs] at he
  exact ((reads_not_takes ((h e s' he).ne (by decide))).bind (reads_pure e s'.rest)) s'.bound s'.assignments

end Grammar

/-- What begins with a bracket is no operand with a sign, no negation and no function. -/
theorem plain_bracket (rest : List Token) : Plain (mark "(" :: rest) where
  sign t ht := by
    obtain rfl : mark "(" = t := Option.some.inj ht
    rfl
  negation heq := absurd (Option.some.inj heq) (by decide)
  function heq := absurd (Option.some.inj heq) (by decide)
  star heq := absurd (Option.some.inj heq) (by decide)

/-- **What begins with a bracket is what stands in brackets**, if no operator follows. -/
theorem Grammar.run_next_expression {g : Grammar} {s : ReadState} {rest : List Token}
    (hs : s.rest = mark "(" :: rest)
    (h : ∀ e s', g.parenthesised.run { s with rest := rest } = some (e, s') → Ends closing s'.rest) :
    g.next.expression.run s = g.parenthesised.run { s with rest := rest } := by
  have hatom : g.atom.run s = g.parenthesised.run { s with rest := rest } := by
    obtain ⟨ts, bound, assignments⟩ := s
    obtain rfl : ts = mark "(" :: rest := hs
    rfl
  exact (run_expressionRule (hatom ▸ h) (hs ▸ plain_bracket rest)).trans hatom

/-! ### Patterns -/

namespace PatternGrammar

/-- The tokens that end the pattern of a case. -/
def ending : List Token :=
  [mark ":", keyword "if"]

/-- A sequence in round brackets, or one pattern, after the first bracket. -/
def grouped (pattern : Reader Pattern) : Reader Pattern := do
  let (parts, comma) ← closedList ")" (part pattern)
  openSequence parts comma

theorem run_closed {pattern : Reader Pattern} {s : ReadState} {rest : List Token}
    (hs : s.rest = mark "(" :: rest) :
    (closed pattern).run s = (grouped pattern).run { s with rest := rest } := by
  obtain ⟨ts, bound, assignments⟩ := s
  obtain rfl : ts = mark "(" :: rest := hs
  rfl

section Group

variable {depth : Nat} {s : ReadState} {rest : List Token} (hs : s.rest = mark "(" :: rest)
  (h : ∀ p s', (grouped (pattern depth)).run { s with rest := rest } = some (p, s') → Ends ending s'.rest)
include hs h

theorem run_alternatives : (alternatives (pattern depth)).run s =
    (grouped (pattern depth)).run { s with rest := rest } := by
  refine Eq.trans ?_ (run_closed hs)
  have hget {f : ReadState → Reader Pattern} : (get >>= f).run s = (f s).run s := rfl
  rw [alternatives, hget]
  refine run_bind_eq fun p s' hp => ?_
  rw [run_closed hs] at hp
  have hsince {f : List String → Reader Pattern} : (boundSince s.bound.length >>= f).run s' =
    (f (s'.bound.take (s'.bound.length - s.bound.length))).run s' := rfl
  dsimp only
  rw [hsince]
  refine ((reads_remaining s'.rest).bind (Reads.bind (x := []) (.extend ?_ _ []) ?_)) s'.bound s'.assignments
  · exact (h p s' hp).reads_takesOneOf (by decide)
  · exact reads_pure p s'.rest

/-- **A pattern that begins with a bracket is what stands in brackets**, if no operator follows. -/
theorem run_pattern : (pattern (depth + 1)).run s =
    (grouped (pattern depth)).run { s with rest := rest } := by
  refine Eq.trans (run_bind_eq fun p s' hp => ?_) (run_alternatives hs h)
  rw [run_alternatives hs h] at hp
  exact ((reads_not_takes ((h p s' hp).ne (by decide))).bind (reads_pure p s'.rest)) s'.bound s'.assignments

end Group

end PatternGrammar

end TokenTemplate.Payload
