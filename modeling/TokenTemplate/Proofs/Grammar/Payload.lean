import TokenTemplate.Proofs.Grammar.Step

/-!
# The grammar of payloads

What may stand in the brackets after a sigil, `TokenTemplate.Construct.Parses`: a string literal,
one of four control constructs, or an expression. Each rule names all that was read on the way, so a
statement about what is accepted is shown rule by rule, and what is accepted elsewhere is put
together from the same rules. Reading does what the rules say
(`TokenTemplate.Construct.payloadNode_eq_ok_iff`).

Bodies are left open: the rules say which regions are compiled to bodies, and take what becomes of
them as it is.
-/

namespace TokenTemplate

namespace Construct

/-- A string literal is read without regard to where it stands. -/
theorem decode_eq_ok_iff {r : Region} {l : Leaf} {s : String} :
    decode r l = .ok s ↔ Payload.tokens? l.text.toList = some [.text s] := by
  rw [decode]
  split
  · next s' heq =>
    rw [heq, Except.ok.injEq, Option.some.injEq, List.cons.injEq, Payload.Token.text.injEq]
    exact (and_iff_left rfl).symm
  · next hnot =>
    exact iff_of_false error_ne_ok (hnot s)

/-! ### Control constructs -/

section Payloads

variable (bodies : Bodies)

/-- A given word, and the region after it. -/
def Word (w : String) (r r' : Region) : Prop :=
  ∃ t ts, r.tokens = t :: ts ∧ t.isWord w = true ∧ r' = r.goOn ts

/-- An expression up to where it ends, and the region after it. -/
def Evaluates (stop : Region.Stop) (r : Region) (e : Expression) (r' : Region) : Prop :=
  ∃ tokens, r.takeUntil stop = (tokens, r') ∧ expression r' tokens = .ok e

/-- A body after an arrow, and the region after it. -/
inductive Arrowed : Region → Routine → Region → Prop
  /-- The body takes what it can of all that is left. -/
  | mk {r r' rest : Region} {s : Span} {body : Routine} (harrow : r.expectArrow = .ok (s, r'))
      (hbody : bodies none false r' = .ok (body, rest)) : Arrowed r body rest

/-- A body in curly brackets, and the region after it. -/
inductive Braced : Region → Routine → Region → Prop
  /-- The body is compiled from the inside of the group. -/
  | mk {r inside rest after : Region} {body : Routine}
      (hgroup : r.expectGroup .brace = .ok (inside, rest))
      (hbody : bodies none false inside = .ok (body, after)) : Braced r body rest

/-- A body after an arrow or in curly brackets. -/
inductive HasBody : Region → Routine → Region → Prop
  /-- After an arrow. -/
  | arrow {r rest : Region} {body : Routine} (h : Arrowed bodies r body rest) : HasBody r body rest
  /-- In curly brackets. -/
  | braces {r rest : Region} {body : Routine} (h : Braced bodies r body rest) : HasBody r body rest

/-- What goes between the items of a loop, and the region after it. -/
inductive Joined : Region → Option Routine → Region → Prop
  /-- A group in round brackets after its word. -/
  | some {r r₁ inside rest after : Region} {body : Routine} (hword : Word "join" r r₁)
      (hgroup : r₁.expectGroup .parenthesis = .ok (inside, rest))
      (hbody : bodies (some inside.span) false inside = .ok (body, after)) :
      Joined r (some body) rest
  /-- Nothing. -/
  | none {r : Region} (hword : r.peekIs (Tree.isWord "join") 0 = false) : Joined r none r

/-- The pattern of an arm, and the region after it. -/
inductive Matched : Region → Case → Region → Prop
  /-- With a guard. -/
  | guarded {r r₁ r₂ rest : Region} {tokens guard : List Tree} {pattern : Case}
      (htokens : r.takeUntil .guardOrArrow = (tokens, r₁)) (hword : Word "if" r₁ r₂)
      (hguard : r₂.takeUntil .arrow = (guard, rest))
      (hpattern : Case.ofSource rest.settings (rest.textOf tokens)
        (Region.spanOf (tokens ++ guard) (Region.spanOf tokens r₁.currentSpan))
        (some (rest.textOf guard)) = .ok pattern) : Matched r pattern rest
  /-- Without one. -/
  | plain {r rest : Region} {tokens : List Tree} {pattern : Case}
      (htokens : r.takeUntil .guardOrArrow = (tokens, rest))
      (hword : rest.peekIs (Tree.isWord "if") 0 = false)
      (hpattern : Case.ofSource rest.settings (rest.textOf tokens)
        (Region.spanOf tokens rest.currentSpan) none = .ok pattern) : Matched r pattern rest

/-- A region without the comma that it may begin with. -/
def dropComma (r : Region) : Region :=
  if r.peekIs (Tree.isPunct ',') 0 then r.goOn (r.tokens.drop 1) else r

/-- An arm, and the region after it. -/
inductive Selected : Region → Arm → Region → Prop
  /-- With a body in curly brackets. -/
  | braces {r r₁ r₂ rest : Region} {s : Span} {pattern : Case} {body : Routine}
      (hpattern : Matched r pattern r₁) (harrow : r₁.expectArrow = .ok (s, r₂))
      (hbody : Braced bodies r₂ body rest) : Selected r ⟨pattern, body⟩ (dropComma rest)
  /-- With a body up to the next comma. -/
  | comma {r r₁ r₂ rest : Region} {s : Span} {pattern : Case} {body : Routine}
      (hpattern : Matched r pattern r₁) (harrow : r₁.expectArrow = .ok (s, r₂))
      (hgroup : r₂.peekIs (Tree.isGroup .brace) 0 = false)
      (hbody : bodies none true r₂ = .ok (body, rest)) : Selected r ⟨pattern, body⟩ (dropComma rest)

/-- The arms of a match, of at most as many tokens as given. -/
inductive Arms : Nat → Region → List Arm → Prop
  /-- No more may be read. -/
  | spent {r : Region} : Arms 0 r []
  /-- There are no more. -/
  | nil {fuel : Nat} {r : Region} (h : r.tokens = []) : Arms (fuel + 1) r []
  /-- An arm, and those after it. -/
  | cons {fuel : Nat} {r r' : Region} {a : Arm} {as : List Arm} (hne : r.tokens ≠ [])
      (harm : Selected bodies r a r') (h : Arms fuel r' as) : Arms (fuel + 1) r (a :: as)

/-- **What may stand in the brackets after a sigil**, and what is left of it. -/
inductive Parses : Region → Node → Region → Prop
  /-- A string literal alone. -/
  | literal {r : Region} {l : Leaf} {text : String} (htokens : r.tokens = [.leaf l])
      (hkind : l.kind = .string) (htext : decode r l = .ok text) :
      Parses r (.literal text) (r.goOn [])
  /-- A choice with one body, after an arrow. -/
  | arrow {r r₁ r₂ rest : Region} {test : Expression} {yes : Routine} (hword : Word "if" r r₁)
      (htest : Evaluates .arrowOrBrace r₁ test r₂) (hyes : Arrowed bodies r₂ yes rest) :
      Parses r (.condition test yes none) rest
  /-- A choice with one body, in curly brackets. -/
  | braces {r r₁ r₂ rest : Region} {test : Expression} {yes : Routine} (hword : Word "if" r r₁)
      (htest : Evaluates .arrowOrBrace r₁ test r₂) (hyes : Braced bodies r₂ yes rest)
      (helse : rest.peekIs (Tree.isWord "else") 0 = false) :
      Parses r (.condition test yes none) rest
  /-- A choice between two bodies. -/
  | both {r r₁ r₂ r₃ r₄ rest : Region} {test : Expression} {yes no : Routine}
      (hword : Word "if" r r₁) (htest : Evaluates .arrowOrBrace r₁ test r₂)
      (hyes : Braced bodies r₂ yes r₃) (helse : Word "else" r₃ r₄)
      (hno : Braced bodies r₄ no rest) : Parses r (.condition test yes (some no)) rest
  /-- A loop. -/
  | loop {r r₁ r₂ r₃ r₄ r₅ rest : Region} {tokens : List Tree} {pattern : Case}
      {source : Expression} {body : Routine} {between : Option Routine} (hword : Word "for" r r₁)
      (htokens : r₁.takeUntil .wordIn = (tokens, r₂)) (hin : Word "in" r₂ r₃)
      (hpattern : Case.ofSource r₃.settings (r₃.textOf tokens)
        (Region.spanOf tokens r₂.currentSpan) none = .ok pattern)
      (hsource : Evaluates .loopBody r₃ source r₄) (hjoin : Joined bodies r₄ between r₅)
      (hbody : HasBody bodies r₅ body rest) : Parses r (.loop pattern source body between) rest
  /-- A match. -/
  | dispatch {r r₁ r₂ inside rest : Region} {subject : Expression} {arms : List Arm}
      (hword : Word "match" r r₁) (hsubject : Evaluates .finalBrace r₁ subject r₂)
      (hgroup : r₂.expectGroup .brace = .ok (inside, rest))
      (harms : Arms bodies inside.tokens.length inside arms) :
      Parses r (.dispatch subject arms) rest
  /-- A body under a name for the receiver. -/
  | scope {r r₁ r₂ rest : Region} {l : Leaf} {body : Routine} (hword : Word "ref" r r₁)
      (hname : r₁.expectName = .ok (l, r₂)) (hbody : HasBody bodies r₂ body rest) :
      Parses r (.scope (if l.text = "_" then none else some l.text) body) rest
  /-- An expression. -/
  | expression {r rest : Region} {e : Expression}
      (hliteral : ∀ l, r.tokens = [.leaf l] → l.kind ≠ .string)
      (hword : ∀ w ∈ ["if", "for", "match", "ref"], r.peekIs (Tree.isWord w) 0 = false)
      (he : Evaluates .never r e rest) : Parses r (.expression e) rest

variable {bodies : Bodies} {r r' rest : Region} {w : String} {node : Node}

theorem peekIs_zero_iff {p : Tree → Bool} :
    r.peekIs p 0 = true ↔ ∃ t ts, r.tokens = t :: ts ∧ p t = true := by
  rw [Region.peekIs, Region.peek]
  cases r.tokens <;> simp

theorem expectWord_iff {t : Tree} (h : r.expectWord w = .ok (t, r')) : Word w r r' := by
  obtain ⟨ts, hr, hw, rfl⟩ := Region.expect_eq_ok_iff.1 h
  exact ⟨t, ts, hr, hw, rfl⟩

theorem Word.expectWord (h : Word w r r') : ∃ t, r.expectWord w = .ok (t, r') := by
  obtain ⟨t, ts, hr, hw, rfl⟩ := h
  exact ⟨t, Region.expect_eq_ok_iff.2 ⟨ts, hr, hw, rfl⟩⟩

theorem word_of_next {t : Tree} (hpeek : r.peekIs (Tree.isWord w) 0 = true)
    (h : r.next = .ok (t, r')) : Word w r r' := by
  obtain ⟨u, us, hr, hw⟩ := peekIs_zero_iff.1 hpeek
  obtain ⟨ts, hr', rfl⟩ := Region.next_eq_ok_iff.1 h
  obtain ⟨rfl, rfl⟩ := List.cons.inj (hr.symm.trans hr')
  exact ⟨u, us, hr, hw, rfl⟩

theorem Word.next (h : Word w r r') :
    r.peekIs (Tree.isWord w) 0 = true ∧ ∃ t, r.next = .ok (t, r') := by
  obtain ⟨t, ts, hr, hw, rfl⟩ := h
  exact ⟨peekIs_zero_iff.2 ⟨t, ts, hr, hw⟩, t, Region.next_eq_ok_iff.2 ⟨ts, hr, rfl⟩⟩

theorem arrowBody_eq_ok_iff {body : Routine} :
    arrowBody bodies r = .ok (body, rest) ↔ Arrowed bodies r body rest := by
  rw [arrowBody, bind_eq_ok_iff]
  constructor
  · rintro ⟨⟨s, r₁⟩, harrow, hbody⟩
    exact .mk (lift_eq_ok_iff.1 harrow) hbody
  · rintro ⟨harrow, hbody⟩
    exact ⟨_, lift_eq_ok_iff.2 harrow, hbody⟩

theorem bracedBody_eq_ok_iff {body : Routine} :
    bracedBody bodies r = .ok (body, rest) ↔ Braced bodies r body rest := by
  rw [bracedBody, bind_eq_ok_iff]
  constructor
  · rintro ⟨⟨inside, r₁⟩, hgroup, h⟩
    obtain ⟨⟨body, after⟩, hbody, h⟩ := bind_eq_ok_iff.1 h
    obtain ⟨rfl, rfl⟩ := Prod.mk.inj (Except.ok.inj h)
    exact .mk (lift_eq_ok_iff.1 hgroup) hbody
  · rintro ⟨hgroup, hbody⟩
    exact ⟨_, lift_eq_ok_iff.2 hgroup, bind_eq_ok_iff.2 ⟨_, hbody, rfl⟩⟩

theorem condition_eq_ok (h : condition bodies r = .ok (node, rest)) :
    Parses bodies r node rest := by
  obtain ⟨⟨t, r₁⟩, hword, h⟩ := bind_eq_ok_iff.1 h
  have hword := expectWord_iff (lift_eq_ok_iff.1 hword)
  rcases hsplit : r₁.takeUntil .arrowOrBrace with ⟨tokens, r₂⟩
  simp only [hsplit] at h
  obtain ⟨test, htest, h⟩ := bind_eq_ok_iff.1 h
  split at h
  · obtain ⟨⟨yes, r₃⟩, hyes, h⟩ := bind_eq_ok_iff.1 h
    obtain ⟨rfl, rfl⟩ := Prod.mk.inj (Except.ok.inj h)
    exact .arrow hword ⟨_, hsplit, htest⟩ (arrowBody_eq_ok_iff.1 hyes)
  · obtain ⟨⟨yes, r₃⟩, hyes, h⟩ := bind_eq_ok_iff.1 h
    have hyes := bracedBody_eq_ok_iff.1 hyes
    simp only at h
    split at h
    · next helse =>
      obtain ⟨⟨u, r₄⟩, hnext, h⟩ := bind_eq_ok_iff.1 h
      obtain ⟨⟨no, r₅⟩, hno, h⟩ := bind_eq_ok_iff.1 h
      obtain ⟨rfl, rfl⟩ := Prod.mk.inj (Except.ok.inj h)
      exact .both hword ⟨_, hsplit, htest⟩ hyes (word_of_next helse (lift_eq_ok_iff.1 hnext))
        (bracedBody_eq_ok_iff.1 hno)
    · next helse =>
      obtain ⟨rfl, rfl⟩ := Prod.mk.inj (Except.ok.inj h)
      exact .braces hword ⟨_, hsplit, htest⟩ hyes (Bool.eq_false_iff.2 helse)

theorem join_eq_ok_iff {between : Option Routine} :
    join bodies r = .ok (between, rest) ↔ Joined bodies r between rest := by
  rw [join]
  constructor
  · intro h
    split at h
    · next hword =>
      obtain ⟨⟨t, r₁⟩, hnext, h⟩ := bind_eq_ok_iff.1 h
      obtain ⟨⟨inside, r₂⟩, hgroup, h⟩ := bind_eq_ok_iff.1 h
      obtain ⟨⟨body, after⟩, hbody, h⟩ := bind_eq_ok_iff.1 h
      obtain ⟨rfl, rfl⟩ := Prod.mk.inj (Except.ok.inj h)
      exact .some (word_of_next hword (lift_eq_ok_iff.1 hnext)) (lift_eq_ok_iff.1 hgroup) hbody
    · next hword =>
      obtain ⟨rfl, rfl⟩ := Prod.mk.inj (Except.ok.inj h)
      exact .none (Bool.eq_false_iff.2 hword)
  · intro h
    cases h with
    | some hword hgroup hbody =>
      obtain ⟨hpeek, t, hnext⟩ := hword.next
      rw [if_pos hpeek]
      exact bind_eq_ok_iff.2 ⟨_, lift_eq_ok_iff.2 hnext,
        bind_eq_ok_iff.2 ⟨_, lift_eq_ok_iff.2 hgroup, bind_eq_ok_iff.2 ⟨_, hbody, rfl⟩⟩⟩
    | none hword =>
      rw [if_neg (Bool.eq_false_iff.1 hword)]
      rfl

/-- Whether a body follows an arrow is seen at its first tokens. -/
theorem Arrowed.peekArrow {body : Routine} (h : Arrowed bodies r body rest) :
    r.peekArrow 0 = true := by
  obtain ⟨harrow, -⟩ := h
  obtain ⟨t, u, ts, -, hpeek, -⟩ := Region.expectArrow_eq_ok_iff.1 harrow
  exact hpeek

theorem Arrowed.peekBrace {body : Routine} (h : Arrowed bodies r body rest) :
    r.peekIs (Tree.isGroup .brace) 0 = false := by
  have harrow := h.peekArrow
  rw [Region.peekArrow, Bool.and_eq_true, Bool.and_eq_true, Region.peekIs, Region.peek] at harrow
  obtain ⟨⟨hfirst, -⟩, -⟩ := harrow
  rw [Region.peekIs, Region.peek]
  revert hfirst
  cases r.tokens[0]? with
  | none => simp
  | some t => cases t <;> simp [Tree.isPunct, Tree.isGroup]

theorem Braced.peekBrace {body : Routine} (h : Braced bodies r body rest) :
    r.peekIs (Tree.isGroup .brace) 0 = true := by
  obtain ⟨hgroup, -⟩ := h
  obtain ⟨children, span, ts, hr, -⟩ := Region.expectGroup_eq_ok_iff.1 hgroup
  exact peekIs_zero_iff.2 ⟨_, ts, hr, by simp [Tree.isGroup]⟩

theorem Braced.peekArrow {body : Routine} (h : Braced bodies r body rest) :
    r.peekArrow 0 = false := by
  obtain ⟨hgroup, -⟩ := h
  obtain ⟨children, span, ts, hr, -⟩ := Region.expectGroup_eq_ok_iff.1 hgroup
  simp [Region.peekArrow, Region.peekIs, Region.peek, hr, Tree.isPunct]

/-- A body is looked for after an arrow first, or in curly brackets first. -/
theorem hasBody_iff {body : Routine} :
    (HasBody bodies r body rest ↔
        (if r.peekArrow 0 then arrowBody bodies r else bracedBody bodies r) = .ok (body, rest)) ∧
      (HasBody bodies r body rest ↔
        (if r.peekIs (Tree.isGroup .brace) 0 then bracedBody bodies r else arrowBody bodies r) =
          .ok (body, rest)) := by
  refine ⟨⟨fun h => ?_, fun h => ?_⟩, fun h => ?_, fun h => ?_⟩
  · cases h with
    | arrow h => rw [if_pos h.peekArrow, arrowBody_eq_ok_iff.2 h]
    | braces h => rw [if_neg (Bool.eq_false_iff.1 h.peekArrow), bracedBody_eq_ok_iff.2 h]
  · split at h
    · exact .arrow (arrowBody_eq_ok_iff.1 h)
    · exact .braces (bracedBody_eq_ok_iff.1 h)
  · cases h with
    | arrow h => rw [if_neg (Bool.eq_false_iff.1 h.peekBrace), arrowBody_eq_ok_iff.2 h]
    | braces h => rw [if_pos h.peekBrace, bracedBody_eq_ok_iff.2 h]
  · split at h
    · exact .braces (bracedBody_eq_ok_iff.1 h)
    · exact .arrow (arrowBody_eq_ok_iff.1 h)

theorem loop_eq_ok (h : loop bodies r = .ok (node, rest)) : Parses bodies r node rest := by
  obtain ⟨⟨t, r₁⟩, hword, h⟩ := bind_eq_ok_iff.1 h
  rcases htokens : r₁.takeUntil .wordIn with ⟨tokens, r₂⟩
  simp only [htokens] at h
  obtain ⟨⟨u, r₃⟩, hin, h⟩ := bind_eq_ok_iff.1 h
  obtain ⟨pattern, hpattern, h⟩ := bind_eq_ok_iff.1 h
  rcases hsplit : r₃.takeUntil .loopBody with ⟨more, r₄⟩
  simp only [hsplit] at h
  obtain ⟨source, hsource, h⟩ := bind_eq_ok_iff.1 h
  obtain ⟨⟨between, r₅⟩, hjoin, h⟩ := bind_eq_ok_iff.1 h
  obtain ⟨⟨body, r₆⟩, hbody, h⟩ := ite_bind_eq_ok_iff.1 h
  obtain ⟨rfl, rfl⟩ := Prod.mk.inj (Except.ok.inj h)
  exact .loop (expectWord_iff (lift_eq_ok_iff.1 hword)) htokens
    (expectWord_iff (lift_eq_ok_iff.1 hin)) (lift_eq_ok_iff.1 hpattern) ⟨_, hsplit, hsource⟩
    (join_eq_ok_iff.1 hjoin) (hasBody_iff.1.2 hbody)

theorem armPattern_eq_ok_iff {pattern : Case} :
    armPattern r = .ok (pattern, rest) ↔ Matched r pattern rest := by
  rw [armPattern]
  constructor
  · intro h
    rcases htokens : r.takeUntil .guardOrArrow with ⟨tokens, r₁⟩
    simp only [htokens] at h
    split at h
    · next hword =>
      obtain ⟨⟨t, r₂⟩, hnext, h⟩ := bind_eq_ok_iff.1 h
      rcases hguard : r₂.takeUntil .arrow with ⟨guard, r₃⟩
      simp only [hguard] at h
      obtain ⟨pattern, hpattern, h⟩ := bind_eq_ok_iff.1 h
      obtain ⟨rfl, rfl⟩ := Prod.mk.inj (Except.ok.inj h)
      exact .guarded htokens (word_of_next hword (lift_eq_ok_iff.1 hnext)) hguard
        (lift_eq_ok_iff.1 hpattern)
    · next hword =>
      obtain ⟨pattern, hpattern, h⟩ := bind_eq_ok_iff.1 h
      obtain ⟨rfl, rfl⟩ := Prod.mk.inj (Except.ok.inj h)
      exact .plain htokens (Bool.eq_false_iff.2 hword) (lift_eq_ok_iff.1 hpattern)
  · intro h
    cases h with
    | guarded htokens hword hguard hpattern =>
      obtain ⟨hpeek, t, hnext⟩ := hword.next
      simp only [htokens, if_pos hpeek]
      refine bind_eq_ok_iff.2 ⟨_, lift_eq_ok_iff.2 hnext, ?_⟩
      simp only [hguard]
      exact bind_eq_ok_iff.2 ⟨_, lift_eq_ok_iff.2 hpattern, rfl⟩
    | plain htokens hword hpattern =>
      simp only [htokens, if_neg (Bool.eq_false_iff.1 hword)]
      exact bind_eq_ok_iff.2 ⟨_, lift_eq_ok_iff.2 hpattern, rfl⟩

theorem arm_eq_ok_iff {a : Arm} : arm bodies r = .ok (a, rest) ↔ Selected bodies r a rest := by
  rw [arm, bind_eq_ok_iff]
  constructor
  · rintro ⟨⟨pattern, r₁⟩, hpattern, h⟩
    obtain ⟨⟨s, r₂⟩, harrow, h⟩ := bind_eq_ok_iff.1 h
    obtain ⟨⟨body, r₃⟩, hbody, h⟩ := ite_bind_eq_ok_iff.1 h
    obtain ⟨rfl, rfl⟩ := Prod.mk.inj (Except.ok.inj h)
    have hpattern := armPattern_eq_ok_iff.1 hpattern
    have harrow := lift_eq_ok_iff.1 harrow
    split at hbody
    · exact .braces hpattern harrow (bracedBody_eq_ok_iff.1 hbody)
    · next hgroup => exact .comma hpattern harrow (Bool.eq_false_iff.2 hgroup) hbody
  · intro h
    cases h with
    | braces hpattern harrow hbody =>
      refine ⟨_, armPattern_eq_ok_iff.2 hpattern,
        bind_eq_ok_iff.2 ⟨_, lift_eq_ok_iff.2 harrow, ?_⟩⟩
      simp only [if_pos hbody.peekBrace]
      exact bind_eq_ok_iff.2 ⟨_, bracedBody_eq_ok_iff.2 hbody, rfl⟩
    | comma hpattern harrow hgroup hbody =>
      refine ⟨_, armPattern_eq_ok_iff.2 hpattern,
        bind_eq_ok_iff.2 ⟨_, lift_eq_ok_iff.2 harrow, ?_⟩⟩
      simp only [if_neg (Bool.eq_false_iff.1 hgroup)]
      exact bind_eq_ok_iff.2 ⟨_, hbody, rfl⟩

theorem arms_eq_ok_iff {fuel : Nat} {as : List Arm} :
    arms bodies fuel r = .ok as ↔ Arms bodies fuel r as := by
  induction fuel generalizing r as with
  | zero =>
    rw [arms, Except.ok.injEq]
    constructor
    · rintro rfl
      exact .spent
    · intro h
      cases h
      rfl
  | succ fuel ih =>
    rw [arms]
    constructor
    · intro h
      split at h
      · next hr =>
        obtain rfl := Except.ok.inj h
        exact .nil (List.isEmpty_iff.1 hr)
      · next hr =>
        obtain ⟨⟨a, r₁⟩, harm, h⟩ := bind_eq_ok_iff.1 h
        obtain ⟨as, has, h⟩ := bind_eq_ok_iff.1 h
        obtain rfl := Except.ok.inj h
        exact .cons (fun heq => hr (List.isEmpty_iff.2 heq)) (arm_eq_ok_iff.1 harm) (ih.1 has)
    · intro h
      cases h with
      | nil hr =>
        rw [if_pos (List.isEmpty_iff.2 hr)]
        rfl
      | cons hr harm h =>
        rw [if_neg fun heq => hr (List.isEmpty_iff.1 heq)]
        exact bind_eq_ok_iff.2 ⟨_, arm_eq_ok_iff.2 harm, bind_eq_ok_iff.2 ⟨_, ih.2 h, rfl⟩⟩

theorem dispatch_eq_ok (h : dispatch bodies r = .ok (node, rest)) : Parses bodies r node rest := by
  obtain ⟨⟨t, r₁⟩, hword, h⟩ := bind_eq_ok_iff.1 h
  rcases hsplit : r₁.takeUntil .finalBrace with ⟨tokens, r₂⟩
  simp only [hsplit] at h
  obtain ⟨subject, hsubject, h⟩ := bind_eq_ok_iff.1 h
  obtain ⟨⟨inside, r₃⟩, hgroup, h⟩ := bind_eq_ok_iff.1 h
  obtain ⟨as, harms, h⟩ := bind_eq_ok_iff.1 h
  obtain ⟨rfl, rfl⟩ := Prod.mk.inj (Except.ok.inj h)
  exact .dispatch (expectWord_iff (lift_eq_ok_iff.1 hword)) ⟨_, hsplit, hsubject⟩
    (lift_eq_ok_iff.1 hgroup) (arms_eq_ok_iff.1 harms)

theorem scope_eq_ok (h : scope bodies r = .ok (node, rest)) : Parses bodies r node rest := by
  obtain ⟨⟨t, r₁⟩, hword, h⟩ := bind_eq_ok_iff.1 h
  obtain ⟨⟨l, r₂⟩, hname, h⟩ := bind_eq_ok_iff.1 h
  obtain ⟨⟨body, r₃⟩, hbody, h⟩ := ite_bind_eq_ok_iff.1 h
  obtain ⟨rfl, rfl⟩ := Prod.mk.inj (Except.ok.inj h)
  exact .scope (expectWord_iff (lift_eq_ok_iff.1 hword)) (lift_eq_ok_iff.1 hname)
    (hasBody_iff.2.2 hbody)

/-- A token is at most one word. -/
theorem peekIs_isWord_unique {w' : String} (h : r.peekIs (Tree.isWord w) 0 = true) (hne : w ≠ w') :
    r.peekIs (Tree.isWord w') 0 = false := by
  obtain ⟨t, ts, hr, hw⟩ := peekIs_zero_iff.1 h
  rw [Region.peekIs, Region.peek, hr]
  cases t with
  | leaf l =>
    rw [Tree.isWord, Bool.and_eq_true, beq_iff_eq, beq_iff_eq] at hw
    simp [Tree.isWord, hw.2, hne]
  | group => rfl

theorem Word.not_literal (h : Word w r r') : ∀ l, r.tokens = [.leaf l] → l.kind ≠ .string := by
  rintro l hl hkind
  obtain ⟨t, ts, hr, hw, -⟩ := h
  obtain ⟨rfl, -⟩ := List.cons.inj (hr.symm.trans hl)
  simp [Tree.isWord, hkind] at hw

theorem payloadNode_of_not_literal (h : ∀ l, r.tokens = [.leaf l] → l.kind ≠ .string) :
    payloadNode bodies r = payloadNode.other bodies r := by
  unfold payloadNode
  split
  · next l hl => rw [if_neg (h l hl)]
  · rfl

theorem other_eq_ok (hliteral : ∀ l, r.tokens = [.leaf l] → l.kind ≠ .string)
    (h : payloadNode.other bodies r = .ok (node, rest)) : Parses bodies r node rest := by
  rw [payloadNode.other] at h
  split at h
  · exact condition_eq_ok h
  · next hif =>
    split at h
    · exact loop_eq_ok h
    · next hfor =>
      split at h
      · exact dispatch_eq_ok h
      · next hmatch =>
        split at h
        · exact scope_eq_ok h
        · next href =>
          rcases hsplit : r.takeUntil .never with ⟨tokens, r₁⟩
          simp only [hsplit] at h
          obtain ⟨e, he, h⟩ := bind_eq_ok_iff.1 h
          obtain ⟨rfl, rfl⟩ := Prod.mk.inj (Except.ok.inj h)
          refine .expression hliteral ?_ ⟨_, hsplit, he⟩
          simp only [List.forall_mem_cons, List.not_mem_nil, false_imp_iff, implies_true, and_true,
            Bool.eq_false_iff]
          exact ⟨hif, hfor, hmatch, href⟩

/-- The construct that a word begins is the one that is read. -/
theorem Word.other_eq (h : Word w r r') :
    (w = "if" → payloadNode.other bodies r = condition bodies r) ∧
      (w = "for" → payloadNode.other bodies r = loop bodies r) ∧
      (w = "match" → payloadNode.other bodies r = dispatch bodies r) ∧
      (w = "ref" → payloadNode.other bodies r = scope bodies r) := by
  obtain ⟨hpeek, -⟩ := h.next
  have hother (w' : String) (hne : w ≠ w') := peekIs_isWord_unique hpeek hne
  refine ⟨?_, ?_, ?_, ?_⟩ <;> rintro rfl <;> rw [payloadNode.other]
  · rw [if_pos hpeek]
  · rw [hother "if" (by decide), if_neg Bool.false_ne_true, if_pos hpeek]
  · rw [hother "if" (by decide), hother "for" (by decide),
      if_neg Bool.false_ne_true, if_neg Bool.false_ne_true, if_pos hpeek]
  · rw [hother "if" (by decide), hother "for" (by decide),
      hother "match" (by decide), if_neg Bool.false_ne_true, if_neg Bool.false_ne_true,
      if_neg Bool.false_ne_true, if_pos hpeek]

/-- **What is read in the brackets after a sigil** is what the rules of payloads say. -/
theorem payloadNode_eq_ok_iff :
    payloadNode bodies r = .ok (node, rest) ↔ Parses bodies r node rest := by
  constructor
  · intro h
    -- a literal by itself is no control construct, whatever words there are
    by_cases hliteral : ∃ l, r.tokens = [.leaf l] ∧ l.kind = .string
    · obtain ⟨l, hl, hkind⟩ := hliteral
      unfold payloadNode at h
      rw [hl] at h
      simp only [if_pos hkind] at h
      obtain ⟨text, htext, h⟩ := bind_eq_ok_iff.1 h
      obtain ⟨rfl, rfl⟩ := Prod.mk.inj (Except.ok.inj h)
      exact .literal hl hkind htext
    · have hnot : ∀ l, r.tokens = [.leaf l] → l.kind ≠ .string :=
        fun l hl hkind => hliteral ⟨l, hl, hkind⟩
      rw [payloadNode_of_not_literal hnot] at h
      exact other_eq_ok hnot h
  · intro h
    -- every other rule but the last one begins with its word
    have hword {w : String} {r' : Region} (hw : Word w r r') :
        ∃ t, (liftM (r.expectWord w) : Compiled (Tree × Region)) = .ok (t, r') := by
      obtain ⟨t, ht⟩ := hw.expectWord
      exact ⟨t, lift_eq_ok_iff.2 ht⟩
    cases h with
    | literal hl hkind htext =>
      unfold payloadNode
      rw [hl]
      simp only [if_pos hkind]
      exact bind_eq_ok_iff.2 ⟨_, htext, rfl⟩
    | arrow hw htest hyes =>
      rw [payloadNode_of_not_literal hw.not_literal, hw.other_eq.1 rfl]
      obtain ⟨t, ht⟩ := hword hw
      obtain ⟨tokens, hsplit, htest⟩ := htest
      refine bind_eq_ok_iff.2 ⟨_, ht, ?_⟩
      simp only [hsplit]
      refine bind_eq_ok_iff.2 ⟨_, htest, ?_⟩
      rw [if_pos hyes.peekArrow]
      exact bind_eq_ok_iff.2 ⟨_, arrowBody_eq_ok_iff.2 hyes, rfl⟩
    | braces hw htest hyes helse =>
      rw [payloadNode_of_not_literal hw.not_literal, hw.other_eq.1 rfl]
      obtain ⟨t, ht⟩ := hword hw
      obtain ⟨tokens, hsplit, htest⟩ := htest
      refine bind_eq_ok_iff.2 ⟨_, ht, ?_⟩
      simp only [hsplit]
      refine bind_eq_ok_iff.2 ⟨_, htest, ?_⟩
      rw [if_neg (Bool.eq_false_iff.1 hyes.peekArrow)]
      refine bind_eq_ok_iff.2 ⟨_, bracedBody_eq_ok_iff.2 hyes, ?_⟩
      simp only [if_neg (Bool.eq_false_iff.1 helse)]
      rfl
    | both hw htest hyes helse hno =>
      rw [payloadNode_of_not_literal hw.not_literal, hw.other_eq.1 rfl]
      obtain ⟨t, ht⟩ := hword hw
      obtain ⟨tokens, hsplit, htest⟩ := htest
      obtain ⟨hpeek, u, hnext⟩ := helse.next
      refine bind_eq_ok_iff.2 ⟨_, ht, ?_⟩
      simp only [hsplit]
      refine bind_eq_ok_iff.2 ⟨_, htest, ?_⟩
      rw [if_neg (Bool.eq_false_iff.1 hyes.peekArrow)]
      refine bind_eq_ok_iff.2 ⟨_, bracedBody_eq_ok_iff.2 hyes, ?_⟩
      simp only [if_pos hpeek]
      exact bind_eq_ok_iff.2 ⟨_, lift_eq_ok_iff.2 hnext,
        bind_eq_ok_iff.2 ⟨_, bracedBody_eq_ok_iff.2 hno, rfl⟩⟩
    | loop hw htokens hin hpattern hsource hjoin hbody =>
      rw [payloadNode_of_not_literal hw.not_literal, hw.other_eq.2.1 rfl]
      obtain ⟨t, ht⟩ := hword hw
      obtain ⟨u, hu⟩ := hin.expectWord
      obtain ⟨tokens, hsplit, hsource⟩ := hsource
      refine bind_eq_ok_iff.2 ⟨_, ht, ?_⟩
      simp only [htokens]
      refine bind_eq_ok_iff.2 ⟨_, lift_eq_ok_iff.2 hu, ?_⟩
      refine bind_eq_ok_iff.2 ⟨_, lift_eq_ok_iff.2 hpattern, ?_⟩
      simp only [hsplit]
      refine bind_eq_ok_iff.2 ⟨_, hsource, ?_⟩
      refine bind_eq_ok_iff.2 ⟨_, join_eq_ok_iff.2 hjoin, ?_⟩
      exact ite_bind_eq_ok_iff.2 ⟨_, hasBody_iff.1.1 hbody, rfl⟩
    | dispatch hw hsubject hgroup harms =>
      rw [payloadNode_of_not_literal hw.not_literal, hw.other_eq.2.2.1 rfl]
      obtain ⟨t, ht⟩ := hword hw
      obtain ⟨tokens, hsplit, hsubject⟩ := hsubject
      refine bind_eq_ok_iff.2 ⟨_, ht, ?_⟩
      simp only [hsplit]
      refine bind_eq_ok_iff.2 ⟨_, hsubject, ?_⟩
      refine bind_eq_ok_iff.2 ⟨_, lift_eq_ok_iff.2 hgroup, ?_⟩
      exact bind_eq_ok_iff.2 ⟨_, arms_eq_ok_iff.2 harms, rfl⟩
    | scope hw hname hbody =>
      rw [payloadNode_of_not_literal hw.not_literal, hw.other_eq.2.2.2 rfl]
      obtain ⟨t, ht⟩ := hword hw
      refine bind_eq_ok_iff.2 ⟨_, ht, ?_⟩
      refine bind_eq_ok_iff.2 ⟨_, lift_eq_ok_iff.2 hname, ?_⟩
      exact ite_bind_eq_ok_iff.2 ⟨_, hasBody_iff.2.1 hbody, rfl⟩
    | expression hliteral hwords he =>
      simp only [List.forall_mem_cons, List.not_mem_nil, false_imp_iff, implies_true, and_true]
        at hwords
      obtain ⟨hif, hfor, hmatch, href⟩ := hwords
      obtain ⟨tokens, hsplit, he⟩ := he
      rw [payloadNode_of_not_literal hliteral, payloadNode.other, hif, hfor, hmatch, href]
      simp only [Bool.false_eq_true, if_false, hsplit]
      exact bind_eq_ok_iff.2 ⟨_, he, rfl⟩

end Payloads

end Construct

end TokenTemplate
