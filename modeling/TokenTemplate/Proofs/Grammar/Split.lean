import Mathlib.Data.List.Chain
import TokenTemplate.Proofs.Grammar.Construct
import TokenTemplate.Proofs.Grammar.Payload

/-!
# Where payloads end

A payload is taken token by token, up to the first place where it ends. Looked at from the other
side, a row of tokens is split in two (`TokenTemplate.Region.takeUntil_eq_iff`): at no place of the
first part does the payload end, and it does where the second part begins, unless nothing is left.

Whether a payload ends at a place is asked with all that follows in view, but what a payload is to
be free of is a matter of its own tokens: an arrow, `TokenTemplate.ArrowFree`; a group in curly
brackets; a word; or a `join` that would end it, `TokenTemplate.JoinFree`. The two come to the same,
because nothing of the kind begins in a payload and ends after it.
-/

namespace TokenTemplate

/-! ### What a payload is free of -/

/-- Whether two tokens are an arrow: an equals sign and, touching it, a greater sign. -/
def Tree.isArrow (t u : Tree) : Bool :=
  t.isPunct '=' && u.isPunct '>' && t.touches u

/-- **A row of tokens without an arrow.** -/
def ArrowFree (ts : List Tree) : Prop :=
  ts.IsChain fun t u => t.isArrow u = false

instance (ts : List Tree) : Decidable (ArrowFree ts) :=
  inferInstanceAs (Decidable (ts.IsChain fun t u => t.isArrow u = false))

/-- **A row of tokens without a `join` before a group in round brackets**, other than at its
beginning or right after a point. -/
def JoinFree (ts : List Tree) : Prop :=
  ∀ before t u after, ts = before ++ t :: u :: after → t.isWord "join" = true →
    u.isGroup .parenthesis = true → ∀ p ∈ before.getLast?, p.isPunct '.' = true

namespace Region

variable {r r' : Region} {stop : Stop} {last : Option Tree} {t u : Tree} {ts taken rest : List Tree}
  {p : Tree → Bool}

/-! ### Splitting a row -/

/-- At no place of some tokens does a payload end that goes on to them. -/
def GoesOn (r : Region) (stop : Stop) (last : Option Tree) (taken rest : List Tree) : Prop :=
  ∀ before t after, taken = before ++ t :: after →
    stop (before.getLast?.or last) (r.goOn (t :: (after ++ rest))) = false

theorem goesOn_cons_iff :
    r.GoesOn stop last (t :: taken) rest ↔
      stop last (r.goOn (t :: (taken ++ rest))) = false ∧ r.GoesOn stop (some t) taken rest := by
  have hlast (before : List Tree) :
      (t :: before).getLast?.or last = before.getLast?.or (some t) := by
    rw [List.getLast?_cons]
    cases before.getLast? <;> rfl
  constructor
  · refine fun h => ⟨h [] t taken rfl, fun before u after heq => ?_⟩
    rw [← hlast]
    exact h (t :: before) u after (congrArg _ heq)
  · rintro ⟨hhead, h⟩ before u after heq
    cases before with
    | nil =>
      obtain ⟨rfl, rfl⟩ := List.cons.inj heq
      exact hhead
    | cons v before =>
      obtain ⟨rfl, rfl⟩ := List.cons.inj heq
      rw [hlast]
      exact h before u after rfl

theorem splitFrom_eq_iff :
    splitFrom r stop last ts = (taken, rest) ↔ ts = taken ++ rest ∧ r.GoesOn stop last taken rest ∧
      (rest = [] ∨ stop (taken.getLast?.or last) (r.goOn rest) = true) := by
  induction ts generalizing last taken with
  | nil =>
    rw [splitFrom, Prod.mk.injEq]
    constructor
    · rintro ⟨rfl, rfl⟩
      exact ⟨rfl, fun _ _ _ heq => absurd heq (by simp), Or.inl rfl⟩
    · rintro ⟨hnil, -⟩
      obtain ⟨rfl, rfl⟩ := List.append_eq_nil_iff.1 hnil.symm
      exact ⟨rfl, rfl⟩
  | cons t ts ih =>
    rw [splitFrom]
    -- where the payload ends nothing is taken, and a token is taken only where it does not end
    cases taken with
    | nil =>
      split
      · next hstop =>
        rw [Prod.mk.injEq, List.nil_append]
        constructor
        · rintro ⟨-, rfl⟩
          exact ⟨rfl, fun _ _ _ heq => absurd heq (by simp), Or.inr hstop⟩
        · rintro ⟨rfl, -⟩
          exact ⟨rfl, rfl⟩
      · next hstop =>
        refine iff_of_false (by simp) ?_
        rintro ⟨rfl, -, hrest | hrest⟩
        · exact absurd hrest (by simp)
        · exact hstop hrest
    | cons u taken =>
      rw [goesOn_cons_iff, List.cons_append, List.cons.injEq, List.getLast?_cons]
      split
      · next hstop =>
        refine iff_of_false (by simp) ?_
        rintro ⟨⟨rfl, rfl⟩, ⟨hgo, -⟩, -⟩
        exact absurd (hgo.symm.trans hstop) (by decide)
      · next hstop =>
        have hlast : (some (taken.getLast?.getD u)).or last = taken.getLast?.or (some u) := by
          cases taken.getLast? <;> rfl
        rcases hsplit : splitFrom r stop (some t) ts with ⟨taken', rest'⟩
        rw [Prod.mk.injEq, List.cons.injEq, hlast]
        constructor
        · rintro ⟨⟨rfl, rfl⟩, rfl⟩
          obtain ⟨rfl, hgo, hrest⟩ := ih.1 hsplit
          exact ⟨⟨rfl, rfl⟩, ⟨Bool.eq_false_iff.2 hstop, hgo⟩, hrest⟩
        · rintro ⟨⟨rfl, rfl⟩, ⟨-, hgo⟩, hrest⟩
          obtain ⟨rfl, rfl⟩ := Prod.mk.inj (hsplit.symm.trans (ih.2 ⟨rfl, hgo, hrest⟩))
          exact ⟨⟨rfl, rfl⟩, rfl⟩

/-- At no place of a row that nothing comes after does a payload end if it takes the whole row. -/
theorem goesOn_nil_iff : r.GoesOn stop last ts [] ↔ (splitFrom r stop last ts).2 = [] := by
  rcases hsplit : splitFrom r stop last ts with ⟨taken, rest⟩
  obtain ⟨rfl, hgo, -⟩ := splitFrom_eq_iff.1 hsplit
  constructor
  · intro hall
    have hwhole := splitFrom_eq_iff.2 ⟨(List.append_nil _).symm, hall, .inl rfl⟩
    exact (Prod.mk.inj (hsplit.symm.trans hwhole)).2
  · rintro rfl
    rwa [List.append_nil]

/-- **A payload is the first part of a split** of the tokens to come: it ends at no place before. -/
theorem takeUntil_eq_iff :
    r.takeUntil stop = (taken, r') ↔
      ∃ rest, r.tokens = taken ++ rest ∧ r' = r.goOn rest ∧ r.GoesOn stop none taken rest ∧
        (rest = [] ∨ stop taken.getLast? (r.goOn rest) = true) := by
  have hsplit (rest : List Tree) : splitFrom r stop none r.tokens = (taken, rest) ↔
      r.tokens = taken ++ rest ∧ r.GoesOn stop none taken rest ∧
        (rest = [] ∨ stop taken.getLast? (r.goOn rest) = true) := by
    rw [splitFrom_eq_iff, Option.or_none]
  rw [takeUntil]
  rcases hr : splitFrom r stop none r.tokens with ⟨taken', rest'⟩
  rw [Prod.mk.injEq]
  constructor
  · rintro ⟨rfl, rfl⟩
    obtain ⟨htokens, hgo, hrest⟩ := (hsplit rest').1 hr
    exact ⟨rest', htokens, rfl, hgo, hrest⟩
  · rintro ⟨rest, htokens, rfl, hgo, hrest⟩
    obtain ⟨rfl, rfl⟩ := Prod.mk.inj (hr.symm.trans ((hsplit rest).2 ⟨htokens, hgo, hrest⟩))
    exact ⟨rfl, rfl⟩

theorem goOn_of_takeUntil (h : (r.goOn ts).takeUntil stop = (taken, r')) :
    ∃ rest, r' = r.goOn rest := by
  obtain ⟨rest, -, rfl, -⟩ := takeUntil_eq_iff.1 h
  exact ⟨rest, rfl⟩

/-- A payload ends at its end, if anything is left. -/
theorem stop_of_takeUntil (h : (r.goOn ts).takeUntil stop = (taken, r.goOn rest))
    (hne : rest ≠ []) : stop taken.getLast? (r.goOn rest) = true := by
  obtain ⟨rest', -, heq, -, hstop⟩ := takeUntil_eq_iff.1 h
  obtain rfl : rest = rest' := congrArg Region.tokens heq
  exact hstop.resolve_left hne

/-- Where a payload ends, it is the first part of a split if it ends at no place before. -/
theorem takeUntil_eq_iff_of_stop (h : stop taken.getLast? (r.goOn rest) = true) :
    (r.goOn ts).takeUntil stop = (taken, r.goOn rest) ↔
      ts = taken ++ rest ∧ r.GoesOn stop none taken rest := by
  rw [takeUntil_eq_iff]
  constructor
  · rintro ⟨rest', htokens, heq, hgo, -⟩
    obtain rfl : rest = rest' := congrArg Region.tokens heq
    exact ⟨htokens, hgo⟩
  · rintro ⟨htokens, hgo⟩
    exact ⟨rest, htokens, rfl, hgo, Or.inr h⟩

/-! ### Looking ahead -/

theorem peekIs_goOn_zero : (r.goOn ts).peekIs p 0 = ts.head?.any p := by
  rw [peekIs, peek, List.head?_eq_getElem?]
  rfl

theorem peekIs_goOn_cons_one :
    (r.goOn (t :: ts)).peekIs p 1 = ts.head?.any p :=
  peekIs_goOn_zero (r := r)

theorem peekArrow_goOn_cons_cons : (r.goOn (t :: u :: ts)).peekArrow 0 = t.isArrow u := rfl

theorem peekArrow_goOn_singleton : (r.goOn [t]).peekArrow 0 = false := by
  simp [peekArrow, peekIs, peek, goOn]

/-- Where a row goes on with anything but a greater sign, no arrow reaches into it. -/
theorem peekArrow_goOn_cons_of_not (h : ts.head?.any (Tree.isPunct '>') = false) :
    (r.goOn (t :: ts)).peekArrow 0 = false := by
  cases ts with
  | nil => exact peekArrow_goOn_singleton
  | cons u ts =>
    rw [List.head?_cons, Option.any_some] at h
    rw [peekArrow_goOn_cons_cons, Tree.isArrow, h, Bool.and_false, Bool.false_and]

/-- An arrow is two tokens. -/
theorem peekArrow_goOn_iff :
    (r.goOn ts).peekArrow 0 = true ↔ ∃ t u more, ts = t :: u :: more ∧ t.isArrow u = true := by
  rcases ts with _ | ⟨t, _ | ⟨u, ts⟩⟩
  · exact iff_of_false Bool.false_ne_true (by simp)
  · rw [peekArrow_goOn_singleton]
    exact iff_of_false Bool.false_ne_true (by simp)
  · rw [peekArrow_goOn_cons_cons]
    refine ⟨fun h => ⟨t, u, ts, rfl, h⟩, ?_⟩
    rintro ⟨t', u', more, heq, h⟩
    rw [List.cons.injEq, List.cons.injEq] at heq
    rwa [heq.1, heq.2.1]

/-! ### Being free of an end -/

theorem goesOn_or_iff (stop stop' : Stop) :
    r.GoesOn (fun last r => stop last r || stop' last r) last taken rest ↔
      r.GoesOn stop last taken rest ∧ r.GoesOn stop' last taken rest := by
  constructor
  · intro h
    refine ⟨fun before t after heq => ?_, fun before t after heq => ?_⟩
    · exact (Bool.or_eq_false_iff.1 (h before t after heq)).1
    · exact (Bool.or_eq_false_iff.1 (h before t after heq)).2
  · rintro ⟨h, h'⟩ before t after heq
    exact Bool.or_eq_false_iff.2 ⟨h before t after heq, h' before t after heq⟩

/-- An end that one token makes is at none of the tokens. -/
theorem goesOn_peekIs_iff :
    r.GoesOn (fun _ r => r.peekIs p 0) last taken rest ↔ ∀ t ∈ taken, p t = false := by
  constructor
  · intro h t ht
    obtain ⟨before, after, heq⟩ := List.append_of_mem ht
    exact h before t after heq
  · rintro h before t after rfl
    exact h t (List.mem_append_right _ List.mem_cons_self)

/-- An end at an arrow is at none of the tokens if there is no arrow among them. -/
theorem goesOn_arrow_iff (hrest : rest.head?.any (Tree.isPunct '>') = false) :
    r.GoesOn .arrow last taken rest ↔ ArrowFree taken := by
  rw [ArrowFree, List.isChain_iff_forall_rel_of_append_cons_cons]
  constructor
  · intro h t u before after heq
    exact h before t (u :: after) heq
  · rintro h before t after rfl
    change (r.goOn (t :: (after ++ rest))).peekArrow 0 = false
    cases after with
    | nil => exact peekArrow_goOn_cons_of_not hrest
    | cons u after => exact h rfl

/-- At the word `join` before a group in round brackets, unless it comes first or follows a point. -/
def Stop.join : Stop :=
  fun last r => r.peekIs (Tree.isWord "join") 0 && r.peekIs (Tree.isGroup .parenthesis) 1 &&
    last.any fun t => !t.isPunct '.'

/-- An end at a `join` is at none of the tokens if there is none among them that may end them. -/
theorem goesOn_join_iff (hrest : rest.head?.any (Tree.isGroup .parenthesis) = false) :
    r.GoesOn .join none taken rest ↔ JoinFree taken := by
  have hends {before : List Tree} :
      (before.getLast?.or none).any (fun t => !t.isPunct '.') = false ↔
        ∀ p ∈ before.getLast?, p.isPunct '.' = true := by
    rw [Option.or_none]
    cases before.getLast? <;> simp
  constructor
  · rintro h before t u after rfl hjoin hgroup
    refine hends.1 ?_
    have hgo := h before t (u :: after) rfl
    change (t.isWord "join" && u.isGroup .parenthesis && _) = false at hgo
    rwa [hjoin, hgroup, Bool.and_self, Bool.true_and] at hgo
  · rintro h before t after rfl
    rw [Stop.join, peekIs_goOn_cons_one, Bool.and_eq_false_imp, Bool.and_eq_true]
    rintro ⟨hjoin, hgroup⟩
    cases after with
    | nil => exact absurd (hgroup.symm.trans hrest) (by decide)
    | cons u after => exact hends.2 (h before t u after rfl hjoin hgroup)

instance (ts : List Tree) : Decidable (JoinFree ts) :=
  decidable_of_iff ((splitFrom default .join none ts).2 = [])
    (goesOn_nil_iff.symm.trans (goesOn_join_iff rfl))

/-! ### Ends of payloads -/

/-- A token that begins a body in curly brackets or is a word is neither a greater sign nor a group
in round brackets, and neither is the first one of an arrow. -/
theorem head_of_ends {ts : List Tree} {w : String}
    (h : (r.goOn ts).peekArrow 0 = true ∨ ts.head?.any (Tree.isGroup .brace) = true ∨
      ts.head?.any (Tree.isWord w) = true) :
    ts.head?.any (Tree.isPunct '>') = false ∧
      ts.head?.any (Tree.isGroup .parenthesis) = false := by
  rcases h with h | h
  · obtain ⟨t, u, more, rfl, harrow⟩ := peekArrow_goOn_iff.1 h
    rw [Tree.isArrow, Bool.and_eq_true, Bool.and_eq_true] at harrow
    cases t with
    | leaf l => exact ⟨isPunct_unique harrow.1.1 (by decide), rfl⟩
    | group d children span => exact absurd harrow.1.1 Bool.false_ne_true
  · cases ts with
    | nil => exact ⟨rfl, rfl⟩
    | cons t ts =>
      cases t with
      | leaf l =>
        rcases h with h | h
        · exact absurd h Bool.false_ne_true
        · rw [List.head?_cons, Option.any_some, Tree.isWord, Bool.and_eq_true, beq_iff_eq] at h
          exact ⟨isPunct_of_name h.1 _, rfl⟩
      | group d children span =>
        rcases h with h | h
        · rw [List.head?_cons, Option.any_some, Tree.isGroup, beq_iff_eq] at h
          subst h
          exact ⟨rfl, rfl⟩
        · exact absurd h Bool.false_ne_true

/-- The tokens up to an arrow. -/
theorem takeUntil_arrow_iff (h : (r.goOn rest).peekArrow 0 = true) :
    (r.goOn ts).takeUntil .arrow = (taken, r.goOn rest) ↔ ts = taken ++ rest ∧ ArrowFree taken := by
  rw [takeUntil_eq_iff_of_stop h, goesOn_arrow_iff (head_of_ends (w := "") (.inl h)).1]

/-- The tokens up to an arrow or a group in curly brackets. -/
theorem takeUntil_arrowOrBrace_iff
    (h : (r.goOn rest).peekArrow 0 = true ∨ rest.head?.any (Tree.isGroup .brace) = true) :
    (r.goOn ts).takeUntil .arrowOrBrace = (taken, r.goOn rest) ↔
      ts = taken ++ rest ∧ ArrowFree taken ∧ ∀ t ∈ taken, t.isGroup .brace = false := by
  have hstop : Stop.arrowOrBrace taken.getLast? (r.goOn rest) = true := by
    rw [Stop.arrowOrBrace, peekIs_goOn_zero, Bool.or_eq_true]
    exact h
  have hor : r.GoesOn .arrowOrBrace none taken rest ↔ _ :=
    goesOn_or_iff .arrow fun _ r => r.peekIs (Tree.isGroup .brace) 0
  rw [takeUntil_eq_iff_of_stop hstop, hor,
    goesOn_arrow_iff (head_of_ends (w := "") (h.imp_right .inl)).1, goesOn_peekIs_iff]

/-- The tokens up to the word `in`. -/
theorem takeUntil_wordIn_iff (h : rest.head?.any (Tree.isWord "in") = true) :
    (r.goOn ts).takeUntil .wordIn = (taken, r.goOn rest) ↔
      ts = taken ++ rest ∧ ∀ t ∈ taken, t.isWord "in" = false := by
  have hstop : Stop.wordIn taken.getLast? (r.goOn rest) = true := by
    rw [Stop.wordIn, peekIs_goOn_zero]
    exact h
  rw [takeUntil_eq_iff_of_stop hstop]
  exact and_congr_right' goesOn_peekIs_iff

/-- What follows the source of a loop. -/
theorem loopBody_goOn_iff :
    Stop.loopBody last (r.goOn ts) = true ↔
      (r.goOn ts).peekArrow 0 = true ∨ ts.head?.any (Tree.isGroup .brace) = true ∨
        ts.head?.any (Tree.isWord "join") = true ∧
          (ts.drop 1).head?.any (Tree.isGroup .parenthesis) = true ∧
          last.any (fun t => !t.isPunct '.') = true := by
  have hsecond : (r.goOn ts).peekIs (Tree.isGroup .parenthesis) 1 =
      (ts.drop 1).head?.any (Tree.isGroup .parenthesis) := by
    rw [peekIs, peek, List.head?_drop]
    rfl
  rw [Stop.loopBody, Stop.arrowOrBrace, peekIs_goOn_zero, peekIs_goOn_zero, hsecond,
    Bool.or_eq_true, Bool.or_eq_true, Bool.and_eq_true, Bool.and_eq_true, or_assoc, and_assoc]

/-- The tokens up to what follows the source of a loop. -/
theorem takeUntil_loopBody_iff (h : Stop.loopBody taken.getLast? (r.goOn rest) = true) :
    (r.goOn ts).takeUntil .loopBody = (taken, r.goOn rest) ↔
      ts = taken ++ rest ∧ ArrowFree taken ∧ (∀ t ∈ taken, t.isGroup .brace = false) ∧
        JoinFree taken := by
  have hhead := head_of_ends (r := r) (w := "join")
    ((loopBody_goOn_iff.1 h).imp_right (Or.imp_right And.left))
  have hor : r.GoesOn .loopBody none taken rest ↔ _ :=
    goesOn_or_iff .arrowOrBrace .join
  have hor' : r.GoesOn .arrowOrBrace none taken rest ↔ _ :=
    goesOn_or_iff .arrow fun _ r => r.peekIs (Tree.isGroup .brace) 0
  rw [takeUntil_eq_iff_of_stop h, hor, hor', goesOn_arrow_iff hhead.1, goesOn_peekIs_iff,
    goesOn_join_iff hhead.2, and_assoc]

/-- The tokens up to a last group in curly brackets. -/
theorem takeUntil_finalBrace_iff (h : t.isGroup .brace = true) :
    (r.goOn ts).takeUntil .finalBrace = (taken, r.goOn [t]) ↔ ts = taken ++ [t] := by
  have hstop : Stop.finalBrace taken.getLast? (r.goOn [t]) = true :=
    (Bool.and_true _).trans h
  rw [takeUntil_eq_iff_of_stop hstop]
  refine and_iff_left ?_
  rintro before u after rfl
  change (u.isGroup .brace && (u :: (after ++ [t])).length == 1) = false
  simp

/-- The tokens up to the word `if` or an arrow. -/
theorem takeUntil_guardOrArrow_iff
    (h : rest.head?.any (Tree.isWord "if") = true ∨ (r.goOn rest).peekArrow 0 = true) :
    (r.goOn ts).takeUntil .guardOrArrow = (taken, r.goOn rest) ↔
      ts = taken ++ rest ∧ (∀ t ∈ taken, t.isWord "if" = false) ∧ ArrowFree taken := by
  have hstop : Stop.guardOrArrow taken.getLast? (r.goOn rest) = true := by
    rw [Stop.guardOrArrow, peekIs_goOn_zero, Bool.or_eq_true]
    exact h
  have hor : r.GoesOn .guardOrArrow none taken rest ↔ _ :=
    goesOn_or_iff (fun _ r => r.peekIs (Tree.isWord "if") 0) .arrow
  rw [takeUntil_eq_iff_of_stop hstop, hor, goesOn_peekIs_iff,
    goesOn_arrow_iff (head_of_ends (h.symm.imp_right .inr)).1]

end Region

end TokenTemplate
