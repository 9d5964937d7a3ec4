import TokenTemplate.Proofs.Routine.Encoder
import TokenTemplate.Proofs.Template.Placed

/-!
# Following the compiler

What is shown of all regions that the compiler gets to, and of everything that it complains about, is
shown by following it from the whole template inwards. A `TokenTemplate.Survey` says what has to be
known for this: which regions lie at a level, which pieces of text they may complain about, and which
complaints are allowed. The compiler goes on in a region or into a group of it, so it is enough that
these two steps are within the survey.

There is one statement for each part of the compiler. Reading a payload or a piece of an interpolation
block only has to keep its complaints to those allowed. What compiles a region on a given encoder has
to do more: it hands back the same open groups as it was given. A group opens one, has its inside
compiled and closes it; everything else is a node that has nothing to do with open groups,
`TokenTemplate.Node.IsNeutral`. So a body, which starts with none, ends with none, and the encoder
never has anything to complain about.

How deep the compiler goes is limited by the number of levels that are left for it. As every step
inwards takes one of them and goes into a group, a survey may allow complaints about the depth beyond
a limit only (`TokenTemplate.Survey.levels_keeps`).
-/

namespace TokenTemplate

/-- **What the compiler may get to and complain about.** -/
structure Survey where
  /-- The regions at each level. -/
  Covers : Nat → Region → Prop
  /-- The pieces of text that there may be a complaint about. -/
  Allows : Span → Prop
  /-- The complaints that there may be. -/
  Bad : CompileError → Prop
  /-- The level beyond which there may be complaints about the depth. -/
  limit : Nat
  /-- Going on in a region. -/
  goOn {n : Nat} {r : Region} {ts : List Tree} (h : Covers n r) (hts : ts <:+ r.tokens) :
    Covers n (r.goOn ts)
  /-- Going into a group. -/
  inside {n : Nat} {r : Region} {d : Delimiter} {ts : List Tree} {span : Span} (h : Covers n r)
    (hmem : .group d ts span ∈ r.tokens) : Covers (n + 1) (r.inside ts span)
  /-- The whole of a region. -/
  allows_span {n : Nat} {r : Region} (h : Covers n r) : Allows r.span
  /-- The end of a region. -/
  allows_endSpan {n : Nat} {r : Region} (h : Covers n r) : Allows r.endSpan
  /-- A token of a region. -/
  allows_token {n : Nat} {r : Region} {t : Tree} (h : Covers n r) (ht : t ∈ r.tokens) :
    Allows t.span
  /-- From one piece of text to another. -/
  allows_join {s s' : Span} (h : Allows s) (h' : Allows s') : Allows (s.join s')
  /-- A complaint about anything but the depth. -/
  bad_of_allows {n : Nat} {r : Region} {s : Span} {p : SyntaxProblem} (h : Covers n r)
    (hs : Allows s) (hp : ∀ k, p ≠ .tooDeep k) : Bad (.malformed (r.errorAt p s))
  /-- A complaint about the depth. -/
  bad_of_deep {n : Nat} {r : Region} (k : Int) (h : Covers n r) (hn : limit < n) :
    Bad (.malformed (r.errorAt (.tooDeep k) r.span))

theorem Meets.lift {α : Type} {bad : CompileError → Prop} {good : α → Prop}
    {x : Except SyntaxError α} (h : Meets (fun e => bad (.malformed e)) good x) :
    Meets bad good (liftM x : Except CompileError α) := by
  cases x with
  | error e => exact h
  | ok a => exact h

namespace Survey

variable {S : Survey} {n : Nat} {r : Region} {t : Tree} {ts : List Tree}

variable (S) in
/-- The complaints that there may be about a template. -/
def Complains (e : SyntaxError) : Prop :=
  S.Bad (.malformed e)

/-! ### Regions -/

theorem goOn_of_tokens_eq (before : List Tree) (h : S.Covers n r) (hr : r.tokens = before ++ ts) :
    S.Covers n (r.goOn ts) :=
  S.goOn h ⟨before, hr.symm⟩

theorem allows_currentSpan (h : S.Covers n r) : S.Allows r.currentSpan := by
  rw [Region.currentSpan]
  split
  · next hr => exact S.allows_token h (hr ▸ .head _)
  · exact S.allows_endSpan h

theorem allows_spanOf {us : List Tree} {fallback : Span} (h : S.Covers n r)
    (hus : ∀ t ∈ us, t ∈ r.tokens) (hfallback : S.Allows fallback) :
    S.Allows (Region.spanOf us fallback) := by
  rw [Region.spanOf]
  split
  · next t u ht hu =>
    exact S.allows_join (S.allows_token h (hus t (List.mem_of_head? ht)))
      (S.allows_token h (hus u (List.mem_of_getLast? hu)))
  · exact hfallback

theorem complains_errorAt {s : Span} {p : SyntaxProblem} (h : S.Covers n r) (hs : S.Allows s)
    (hp : ∀ k, p ≠ .tooDeep k) : S.Complains (r.errorAt p s) :=
  S.bad_of_allows h hs hp

theorem complains_error {p : SyntaxProblem} (h : S.Covers n r) (hp : ∀ k, p ≠ .tooDeep k) :
    S.Complains (r.error p) :=
  complains_errorAt h (allows_currentSpan h) hp

/-! ### Taking tokens -/

theorem next_meets (h : S.Covers n r) :
    Meets S.Complains (fun s => S.Covers n s.2) r.next := by
  rw [Region.next]
  split
  · next t ts hr => exact meets_ok (goOn_of_tokens_eq [t] h hr)
  · exact meets_error (complains_error h nofun)

theorem expect_meets (h : S.Covers n r) (p : Tree → Bool) {problem : SyntaxProblem}
    (hp : ∀ k, problem ≠ .tooDeep k) :
    Meets S.Complains (fun s => S.Covers n s.2) (r.expect p problem) := by
  rw [Region.expect]
  split
  · next t ts hr =>
    split
    · exact meets_ok (goOn_of_tokens_eq [t] h hr)
    · exact meets_error (complains_error h hp)
  · exact meets_error (complains_error h hp)

theorem expectWord_meets (h : S.Covers n r) (w : String) :
    Meets S.Complains (fun s => S.Covers n s.2) (r.expectWord w) :=
  expect_meets h _ nofun

theorem expectPunct_meets (h : S.Covers n r) (c : Char) :
    Meets S.Complains (fun s => S.Covers n s.2) (r.expectPunct c) :=
  expect_meets h _ nofun

theorem expectName_meets (h : S.Covers n r) :
    Meets S.Complains (fun s => S.Allows s.1.span ∧ S.Covers n s.2) r.expectName := by
  rw [Region.expectName]
  split
  · next l ts hr =>
    split
    · have hl : S.Allows (Tree.leaf l).span := S.allows_token h (hr ▸ .head _)
      exact meets_ok ⟨hl, goOn_of_tokens_eq [.leaf l] h hr⟩
    · exact meets_error (complains_error h nofun)
  · exact meets_error (complains_error h nofun)

theorem expectGroup_meets (h : S.Covers n r) (d : Delimiter) :
    Meets S.Complains (fun s => S.Covers (n + 1) s.1 ∧ S.Covers n s.2) (r.expectGroup d) := by
  rw [Region.expectGroup]
  split
  · next d' children span ts hr =>
    split
    · exact meets_ok ⟨S.inside h (d := d') (hr ▸ .head _),
        goOn_of_tokens_eq [.group d' children span] h hr⟩
    · exact meets_error (complains_error h nofun)
  · exact meets_error (complains_error h nofun)

theorem expectArrow_meets (h : S.Covers n r) :
    Meets S.Complains (fun s => S.Covers n s.2) r.expectArrow := by
  rw [Region.expectArrow]
  split
  · next t u ts hr =>
    split
    · exact meets_ok (goOn_of_tokens_eq [t, u] h hr)
    · exact meets_error (complains_error h nofun)
  · exact meets_error (complains_error h nofun)

theorem expectEnd_meets (h : S.Covers n r) : Meets S.Complains (fun _ => True) r.expectEnd := by
  rw [Region.expectEnd]
  split
  · exact meets_ok trivial
  · exact meets_error (complains_error h nofun)

/-- What is taken up to where a payload ends. -/
theorem takeUntil_covers (h : S.Covers n r) (stop : Region.Stop) :
    (∀ t ∈ (r.takeUntil stop).1, t ∈ r.tokens) ∧ S.Covers n (r.takeUntil stop).2 := by
  have hall := Region.splitFrom_append r stop none r.tokens
  refine ⟨fun t ht => ?_, goOn_of_tokens_eq _ h hall.symm⟩
  rw [← hall]
  exact List.mem_append_left _ ht

/-! ### Payloads -/

theorem expression_ofSource_meets (h : S.Covers n r) (text : String) {span : Span}
    (hspan : S.Allows span) :
    Meets S.Complains (fun _ => True) (Expression.ofSource r.settings text span) := by
  rw [Expression.ofSource]
  split
  · exact meets_error (complains_errorAt h hspan nofun)
  · split
    · exact meets_ok trivial
    · exact meets_error (complains_errorAt h hspan nofun)

theorem case_ofSource_meets (h : S.Covers n r) (text : String) (guard : Option String) {span : Span}
    (hspan : S.Allows span) :
    Meets S.Complains (fun _ => True) (Case.ofSource r.settings text span guard) := by
  rw [Case.ofSource]
  split
  · exact meets_error (complains_errorAt h hspan nofun)
  · split
    · exact meets_error (complains_errorAt h hspan nofun)
    · split
      · exact meets_ok trivial
      · refine meets_error (complains_errorAt h hspan fun k => ?_)
        rw [Case.problem.eq_def]
        split <;> exact nofun

/-! ### Interpolation blocks -/

variable (S) in
/-- What begins at the front of a block: a group of it lies one level further in. -/
def Sights (n : Nat) : Piece.Sighting → Prop
  | .piece _ => True
  | .group _ inside => S.Covers (n + 1) inside

theorem sights_plain (h : S.Covers n r) (ht : t ∈ r.tokens) : S.Sights n (Piece.plain r t) := by
  cases t with
  | leaf l => exact trivial
  | group d children span => exact S.inside h ht

theorem site_meets (h : S.Covers n r) (text : String) {first last : Span}
    (hfirst : S.Allows first) (hlast : S.Allows last) :
    Meets S.Complains (S.Sights n) (Piece.site r text first last) :=
  (expression_ofSource_meets h text (S.allows_join hfirst hlast)).bind fun _ _ => meets_pure trivial

theorem piece_sight_meets (h : S.Covers n r) (hts : t :: ts <:+ r.tokens) :
    Meets S.Complains (fun s => S.Sights n s.1 ∧ s.2 <:+ r.tokens) (Piece.sight r t ts) := by
  have ht := hts.subset List.mem_cons_self
  have hplain := sights_plain h ht
  have hmore := (List.suffix_cons t ts).trans hts
  unfold Piece.sight
  cases ts with
  | nil => exact meets_pure ⟨hplain, hmore⟩
  | cons u rest =>
    have hu := S.allows_token h (hmore.subset List.mem_cons_self)
    have hrest := (List.suffix_cons u rest).trans hmore
    have hsite (text : String) : Meets S.Complains (fun s => S.Sights n s.1 ∧ s.2 <:+ r.tokens)
        (do return (← Piece.site r text t.span u.span, rest)) :=
      (site_meets h text (S.allows_token h ht) hu).bind fun _ hs => meets_pure ⟨hs, hrest⟩
    simp only
    split
    · exact meets_pure ⟨hplain, hmore⟩
    · split
      · exact meets_pure ⟨trivial, hrest⟩
      · split
        · exact meets_error (complains_errorAt h (S.allows_token h ht) nofun)
        · split
          · split
            · exact meets_pure ⟨hplain, hmore⟩
            · split
              · exact meets_error (complains_errorAt h (S.allows_token h ht) nofun)
              · exact hsite _
          · split
            · exact meets_error (complains_errorAt h hu nofun)
            · exact hsite _
          · exact meets_pure ⟨hplain, hmore⟩

theorem ofTokens_meets {inner : Region → Except SyntaxError (List Piece)}
    (hinner : ∀ g, S.Covers (n + 1) g → Meets S.Complains (fun _ => True) (inner g))
    (h : S.Covers n r) (hts : ts <:+ r.tokens) :
    Meets S.Complains (fun _ => True) (Piece.ofTokens inner r ts) := by
  fun_induction Piece.ofTokens inner r ts with
  | case1 => exact meets_ok trivial
  | case2 t ts e heq =>
    have hsight := piece_sight_meets h hts
    rw [heq] at hsight
    exact hsight
  | case3 t ts p rest heq ih =>
    have hsight := piece_sight_meets h hts
    rw [heq] at hsight
    exact (ih hsight.2).bind fun _ _ => meets_pure trivial
  | case4 t ts d inside rest heq span before after ih =>
    have hsight := piece_sight_meets h hts
    rw [heq] at hsight
    exact (hinner inside hsight.1).bind fun _ _ => (ih hsight.2).bind fun _ _ => meets_pure trivial

/-- The groups of a block are too deep only if they lie beyond the limit. -/
theorem segment_ofRegion_meets {room : Nat} (hroom : S.limit < n + 1 + room) (h : S.Covers n r) :
    Meets S.Complains (fun _ => True) (Segment.ofRegion room r) := by
  suffices hpieces : Meets S.Complains (fun _ => True) (Piece.ofRegion room r) from
    hpieces.bind fun _ _ => meets_pure trivial
  induction room generalizing n r with
  | zero =>
    rw [Piece.ofRegion]
    exact ofTokens_meets (fun g hg => meets_error (S.bad_of_deep _ hg hroom)) h List.suffix_rfl
  | succ room ih =>
    rw [Piece.ofRegion]
    exact ofTokens_meets (fun g hg => ih (by omega) hg) h List.suffix_rfl

/-! ### Constructs -/

variable (S) in
/-- What begins at a place of a region: its groups lie one level further in. -/
def Begins (n : Nat) : Construct → Prop
  | .block _ inside => S.Covers (n + 1) inside
  | .payload _ inside => S.Covers (n + 1) inside
  | .group _ inside => S.Covers (n + 1) inside
  | .leaf l => S.Allows l.span
  | _ => True

theorem begins_plain (h : S.Covers n r) (ht : t ∈ r.tokens) : S.Begins n (Construct.plain r t) := by
  cases t with
  | leaf l => exact S.allows_token h ht
  | group d children span => exact S.inside h ht

theorem directiveRest_meets (h : S.Covers n r) (start mark : Span) :
    Meets S.Complains (fun s => S.Begins n s.1 ∧ S.Covers n s.2)
      (Construct.directiveRest r start mark) := by
  refine (expectName_meets h).bind ?_
  rintro ⟨l, r'⟩ ⟨hl, hr'⟩
  simp only
  split
  · exact meets_error (complains_errorAt hr' hl nofun)
  · refine (expectPunct_meets hr' _).bind ?_
    rintro ⟨stop, r''⟩ hr''
    exact meets_pure ⟨trivial, hr''⟩

theorem sight_meets (h : S.Covers n r) (hts : t :: ts <:+ r.tokens) :
    Meets S.Complains (fun s => S.Begins n s.1 ∧ S.Covers n s.2) (Construct.sight r t ts) := by
  have hplain := begins_plain h (hts.subset List.mem_cons_self)
  have hmore := (List.suffix_cons t ts).trans hts
  unfold Construct.sight
  cases ts with
  | nil => exact meets_ok ⟨hplain, S.goOn h hmore⟩
  | cons u rest =>
    have hrest := (List.suffix_cons u rest).trans hmore
    simp only
    split
    · exact meets_ok ⟨hplain, S.goOn h hmore⟩
    · split
      · exact meets_ok ⟨trivial, S.goOn h hrest⟩
      · split
        · exact directiveRest_meets (S.goOn h hrest) _ _
        · split
          · split
            · exact meets_ok ⟨hplain, S.goOn h hmore⟩
            · split
              · next children span more =>
                split
                · exact meets_ok ⟨S.inside h (hrest.subset (.head _)),
                    S.goOn h ((List.suffix_cons _ more).trans hrest)⟩
                · exact meets_ok ⟨trivial, S.goOn h hrest⟩
              · exact meets_ok ⟨trivial, S.goOn h hrest⟩
          · exact meets_ok ⟨S.inside h (hmore.subset (.head _)), S.goOn h hrest⟩
          · exact meets_ok ⟨hplain, S.goOn h hmore⟩

/-! ### Control constructs -/

variable (S) in
/-- Bodies are compiled at a level and further in, and give a region at the same level after them. -/
def Bodies (n : Nat) (bodies : TokenTemplate.Bodies) : Prop :=
  ∀ m, n ≤ m → ∀ edges untilComma r, S.Covers m r →
    Meets S.Bad (fun s => S.Covers m s.2) (bodies edges untilComma r)

variable (S) in
/-- What a control construct gives: a neutral node, and a region at the same level after it. -/
def Gives (n : Nat) (s : Node × Region) : Prop :=
  s.1.IsNeutral ∧ S.Covers n s.2

section Controls

variable {bodies : TokenTemplate.Bodies}

theorem decode_meets {l : Leaf} (h : S.Covers n r) (hl : S.Allows l.span) :
    Meets S.Bad (fun _ => True) (Construct.decode r l) := by
  rw [Construct.decode]
  split
  · exact meets_ok trivial
  · exact meets_error (complains_errorAt h hl nofun)

/-- The expression of some tokens, which need not be in the region any more. -/
theorem expression_meets {r' : Region} {us : List Tree} (h : S.Covers n r)
    (hus : ∀ t ∈ us, t ∈ r.tokens) (h' : S.Covers n r') :
    Meets S.Bad (fun _ => True) (Construct.expression r' us) := by
  rw [Construct.expression]
  split
  · exact meets_error (complains_error h' nofun)
  · exact (expression_ofSource_meets h' _ (allows_spanOf h hus (S.allows_span h'))).lift

theorem bracedBody_meets (hb : S.Bodies n bodies) (h : S.Covers n r) :
    Meets S.Bad (fun s => S.Covers n s.2) (Construct.bracedBody bodies r) := by
  refine (expectGroup_meets h _).lift.bind ?_
  rintro ⟨inside, r⟩ ⟨hinside, hr⟩
  exact (hb _ (Nat.le_succ n) _ _ _ hinside).bind fun _ _ => meets_pure hr

theorem arrowBody_meets (hb : S.Bodies n bodies) (h : S.Covers n r) :
    Meets S.Bad (fun s => S.Covers n s.2) (Construct.arrowBody bodies r) := by
  refine (expectArrow_meets h).lift.bind ?_
  rintro ⟨span, r⟩ hr
  exact hb _ le_rfl _ _ _ hr

theorem condition_meets (hb : S.Bodies n bodies) (h : S.Covers n r) :
    Meets S.Bad (S.Gives n) (Construct.condition bodies r) := by
  refine (expectWord_meets h _).lift.bind ?_
  rintro ⟨t, r⟩ hr
  obtain ⟨htokens, hr'⟩ := takeUntil_covers hr .arrowOrBrace
  refine (expression_meets hr htokens hr').bind fun test _ => ?_
  split
  · exact (arrowBody_meets hb hr').bind fun s hs => meets_pure ⟨trivial, hs⟩
  · refine (bracedBody_meets hb hr').bind ?_
    rintro ⟨yes, r⟩ hr
    simp only
    split
    · refine (next_meets hr).lift.bind ?_
      rintro ⟨t, r⟩ hr
      exact (bracedBody_meets hb hr).bind fun s hs => meets_pure ⟨trivial, hs⟩
    · exact meets_pure ⟨trivial, hr⟩

theorem join_meets (hb : S.Bodies n bodies) (h : S.Covers n r) :
    Meets S.Bad (fun s => S.Covers n s.2) (Construct.join bodies r) := by
  rw [Construct.join]
  split
  · refine (next_meets h).lift.bind ?_
    rintro ⟨t, r⟩ hr
    refine (expectGroup_meets hr _).lift.bind ?_
    rintro ⟨inside, r⟩ ⟨hinside, hr⟩
    exact (hb _ (Nat.le_succ n) _ _ _ hinside).bind fun _ _ => meets_pure hr
  · exact meets_pure h

theorem loop_meets (hb : S.Bodies n bodies) (h : S.Covers n r) :
    Meets S.Bad (S.Gives n) (Construct.loop bodies r) := by
  refine (expectWord_meets h _).lift.bind ?_
  rintro ⟨t, r⟩ hr
  obtain ⟨htokens, hr'⟩ := takeUntil_covers hr .wordIn
  have hspan := allows_spanOf hr htokens (allows_currentSpan hr')
  refine (expectWord_meets hr' _).lift.bind ?_
  rintro ⟨t, r⟩ hr
  refine (case_ofSource_meets hr _ none hspan).lift.bind fun pattern _ => ?_
  obtain ⟨htokens, hr'⟩ := takeUntil_covers hr .loopBody
  refine (expression_meets hr htokens hr').bind fun items _ => ?_
  refine (join_meets hb hr').bind ?_
  rintro ⟨between, r⟩ hr
  simp only
  split
  · exact (arrowBody_meets hb hr).bind fun s hs => meets_pure ⟨trivial, hs⟩
  · exact (bracedBody_meets hb hr).bind fun s hs => meets_pure ⟨trivial, hs⟩

theorem armPattern_meets (h : S.Covers n r) :
    Meets S.Bad (fun s => S.Covers n s.2) (Construct.armPattern r) := by
  obtain ⟨htokens, hr⟩ := takeUntil_covers h .guardOrArrow
  have hspan := allows_spanOf h htokens (allows_currentSpan hr)
  rw [Construct.armPattern]
  simp only
  split
  · refine (next_meets hr).lift.bind ?_
    rintro ⟨t, r'⟩ hr'
    obtain ⟨hguard, hr''⟩ := takeUntil_covers hr' .arrow
    -- the guard is read further on in the same region as the pattern
    have hboth : S.Allows (Region.spanOf ((r.takeUntil .guardOrArrow).1 ++ (r'.takeUntil .arrow).1)
        (Region.spanOf (r.takeUntil .guardOrArrow).1 (r.takeUntil .guardOrArrow).2.currentSpan)) := by
      rw [Region.spanOf]
      split
      · next t u ht hu =>
        refine S.allows_join ?_ ?_
        · rcases List.mem_append.1 (List.mem_of_head? ht) with ht | ht
          · exact S.allows_token h (htokens t ht)
          · exact S.allows_token hr' (hguard t ht)
        · rcases List.mem_append.1 (List.mem_of_getLast? hu) with hu | hu
          · exact S.allows_token h (htokens u hu)
          · exact S.allows_token hr' (hguard u hu)
      · exact hspan
    exact (case_ofSource_meets hr'' _ _ hboth).lift.bind fun _ _ => meets_pure hr''
  · exact (case_ofSource_meets hr _ none hspan).lift.bind fun _ _ => meets_pure hr

theorem arm_meets (hb : S.Bodies n bodies) (h : S.Covers n r) :
    Meets S.Bad (fun s => S.Covers n s.2) (Construct.arm bodies r) := by
  refine (armPattern_meets h).bind ?_
  rintro ⟨pattern, r⟩ hr
  refine (expectArrow_meets hr).lift.bind ?_
  rintro ⟨t, r⟩ hr
  have hcomma {body : Routine × Region} (hbody : S.Covers n body.2) :
      S.Covers n (if body.2.peekIs (Tree.isPunct ',') 0 then
        body.2.goOn (body.2.tokens.drop 1) else body.2) := by
    split
    · exact S.goOn hbody (List.drop_suffix 1 _)
    · exact hbody
  simp only
  split
  · exact (bracedBody_meets hb hr).bind fun _ hbody => meets_pure (hcomma hbody)
  · exact (hb _ le_rfl _ _ _ hr).bind fun _ hbody => meets_pure (hcomma hbody)

theorem arms_meets (hb : S.Bodies n bodies) (fuel : Nat) (h : S.Covers n r) :
    Meets S.Bad (fun _ => True) (Construct.arms bodies fuel r) := by
  induction fuel generalizing r with
  | zero => exact meets_ok trivial
  | succ fuel ih =>
    rw [Construct.arms]
    split
    · exact meets_pure trivial
    · refine (arm_meets hb h).bind ?_
      rintro ⟨a, r⟩ hr
      exact (ih hr).bind fun _ _ => meets_pure trivial

theorem Bodies.mono {m : Nat} (hb : S.Bodies n bodies) (hnm : n ≤ m) : S.Bodies m bodies :=
  fun k hk => hb k (hnm.trans hk)

theorem dispatch_meets (hb : S.Bodies n bodies) (h : S.Covers n r) :
    Meets S.Bad (S.Gives n) (Construct.dispatch bodies r) := by
  refine (expectWord_meets h _).lift.bind ?_
  rintro ⟨t, r⟩ hr
  obtain ⟨htokens, hr'⟩ := takeUntil_covers hr .finalBrace
  refine (expression_meets hr htokens hr').bind fun subject _ => ?_
  refine (expectGroup_meets hr' _).lift.bind ?_
  rintro ⟨inside, r⟩ ⟨hinside, hr⟩
  exact (arms_meets (hb.mono (Nat.le_succ n)) _ hinside).bind fun _ _ => meets_pure ⟨trivial, hr⟩

theorem scope_meets (hb : S.Bodies n bodies) (h : S.Covers n r) :
    Meets S.Bad (S.Gives n) (Construct.scope bodies r) := by
  refine (expectWord_meets h _).lift.bind ?_
  rintro ⟨t, r⟩ hr
  refine (expectName_meets hr).lift.bind ?_
  rintro ⟨l, r⟩ ⟨-, hr⟩
  simp only
  split
  · exact (bracedBody_meets hb hr).bind fun s hs => meets_pure ⟨trivial, hs⟩
  · exact (arrowBody_meets hb hr).bind fun s hs => meets_pure ⟨trivial, hs⟩

theorem payloadNode_meets (hb : S.Bodies n bodies) (h : S.Covers n r) :
    Meets S.Bad (S.Gives n) (Construct.payloadNode bodies r) := by
  have hother : Meets S.Bad (S.Gives n) (Construct.payloadNode.other bodies r) := by
    rw [Construct.payloadNode.other]
    split
    · exact condition_meets hb h
    · split
      · exact loop_meets hb h
      · split
        · exact dispatch_meets hb h
        · split
          · exact scope_meets hb h
          · obtain ⟨htokens, hr⟩ := takeUntil_covers h .never
            exact (expression_meets h htokens hr).bind fun _ _ => meets_pure ⟨trivial, hr⟩
  unfold Construct.payloadNode
  split
  · next l hr =>
    split
    · have hl : S.Allows (Tree.leaf l).span := S.allows_token h (hr ▸ .head _)
      refine (decode_meets h hl).bind fun _ _ => meets_pure ⟨trivial, ?_⟩
      exact S.goOn h (List.nil_suffix)
    · exact hother
  · exact hother

end Controls

/-! ### Bodies -/

variable (S) in
/-- **What compiles a region on an encoder hands its open groups back**, at a level and further
in. -/
def Keeps (n : Nat) (inside : Inside) : Prop :=
  ∀ m, n ≤ m → ∀ untilComma e r, S.Covers m r →
    Meets S.Bad (fun s => s.1.opened = e.opened ∧ S.Covers m s.2) (inside untilComma e r)

variable {b : Body} {inside : Inside}

theorem compileWith_meets (hi : S.Keeps n inside) (h : S.Covers n r) :
    Meets S.Bad (fun s => S.Covers n s.2) (b.compileWith inside r) := by
  refine (hi _ le_rfl _ _ _ h).bind ?_
  rintro ⟨e, r⟩ ⟨hopened, hr⟩
  obtain ⟨routine, hfinish⟩ := Encoder.finish_of_closed (e := e) hopened
  simp only [hfinish]
  exact meets_pure hr

theorem Keeps.bodies (hi : S.Keeps n inside) : S.Bodies n (b.bodies inside) :=
  fun _ hm _ _ _ h => compileWith_meets (fun k hk => hi k (hm.trans hk)) h

/-- **A construct leaves the open groups as they were.** -/
theorem place_meets {c : Construct} {e : Encoder} {room : Nat} (hroom : S.limit < n + 1 + room)
    (hi : S.Keeps (n + 1) inside) (h : S.Covers n r) (hc : S.Begins n c) :
    Meets S.Bad (fun e' => e'.opened = e.opened) (b.place inside room e r c) := by
  have hwrite {node : Node} {span : Span} {cursor : Cursor} (hnode : node.IsNeutral) :
      Meets S.Bad (fun e' => e'.opened = e.opened) (e.write span cursor node) := by
    obtain ⟨e', hok, hopened⟩ := Encoder.write_of_isNeutral (e := e) hnode span cursor
    rw [hok]
    exact meets_ok hopened
  cases c with
  | escape first second =>
    rw [Body.place]
    exact hwrite trivial
  | block start block =>
    have hblock : S.limit < n + 1 + 1 + (room - 1) := by omega
    exact (segment_ofRegion_meets hblock hc).lift.bind fun _ _ => hwrite trivial
  | directive start mark stop w =>
    rw [Body.place]
    exact hwrite trivial
  | name start l =>
    rw [Body.place]
    exact hwrite trivial
  | payload start scope =>
    refine (payloadNode_meets hi.bodies hc).bind ?_
    rintro ⟨node, rest⟩ ⟨hnode, hrest⟩
    exact (expectEnd_meets hrest).lift.bind fun _ _ => hwrite hnode
  | group d group =>
    -- what is opened for a group is closed behind it, as its content leaves it open
    obtain ⟨e₁, hok₁, hwrote₁⟩ :=
      e.write_opening group.span group.span.cursor.firstCharacter d
    rw [Body.place, hok₁]
    refine (hi _ le_rfl false e₁ group hc).bind ?_
    rintro ⟨e₂, r₂⟩ ⟨hopened₂, -⟩
    obtain ⟨e₃, hok₃, hwrote₃⟩ := Encoder.write_closing (hopened₂.trans hwrote₁.opened_eq)
      group.span group.span.cursor.lastCharacter
    simp only [hok₃]
    exact meets_ok hwrote₃.opened_eq
  | leaf l =>
    rw [Body.place]
    simp only
    split
    · rcases hd : Construct.decode r l with err | text
      · have hmeets := decode_meets h hc
        rw [hd] at hmeets
        exact hmeets
      · change Meets _ _ (e.write l.span l.span.cursor (.quoted text))
        exact hwrite trivial
    · change Meets _ _ (e.write l.span l.span.cursor (.token l.text))
      exact hwrite trivial

theorem placeAll_meets {e : Encoder} {room : Nat} {untilComma : Bool}
    (hroom : S.limit < n + 1 + room) (hi : S.Keeps (n + 1) inside) (h : S.Covers n r)
    (hts : ts <:+ r.tokens) :
    Meets S.Bad (fun s => s.1.opened = e.opened ∧ S.Covers n s.2)
      (b.placeAll inside room untilComma e r ts) := by
  -- by induction on the tokens that are left, of which every construct takes one
  induction hlen : ts.length using Nat.strongRecOn generalizing e r ts with
  | ind k ih =>
    unfold Body.placeAll
    cases ts with
    | nil => exact meets_ok ⟨rfl, S.goOn h hts⟩
    | cons t ts =>
      have hsight := sight_meets h hts
      simp only
      split
      · exact meets_ok ⟨rfl, S.goOn h hts⟩
      · split
        · next err heq =>
          rw [heq] at hsight
          exact hsight
        · next c r' heq =>
          have hle := Construct.sight_length_le heq
          rw [heq] at hsight
          refine (place_meets hroom hi hsight.2 hsight.1).bind fun e' he' => ?_
          refine (ih _ ?_ hsight.2 List.suffix_rfl rfl).mono fun s hs => ?_
          · rw [← hlen, List.length_cons]
            exact Nat.lt_succ_of_le hle
          · exact ⟨hs.1.trans he', hs.2⟩

/-- **Every level keeps to the survey** if so many levels are left that nothing within the limit is
too deep. -/
theorem levels_keeps {room : Nat} (hroom : S.limit < n + room) : S.Keeps n (levels b room) := by
  induction room generalizing n with
  | zero => exact fun m hm _ _ r hr => meets_error (S.bad_of_deep _ hr (hroom.trans_le hm))
  | succ room ih =>
    exact fun m hm _ _ r hr =>
      placeAll_meets (by omega) (ih (by omega)) hr List.suffix_rfl

end Survey

end TokenTemplate
