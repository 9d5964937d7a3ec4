import Mathlib
import TokenTemplate.Proofs.Grammar.Comma
import TokenTemplate.Proofs.Grammar.Control
import TokenTemplate.Proofs.Routine.Bare

/-!
# Control constructs are recognized as they are written

Reading a control construct takes payloads up to where they end and bodies where they begin, and it
may fail at any of these places. What it comes to is that the tokens in the brackets are split into
the parts of a construct, `TokenTemplate.ControlForm.Splits`, and that each part by itself stands for
something: a payload for an expression or a case, and a body for a routine,
`TokenTemplate.ControlForm.Means`. So what is read is known from the tokens alone, without following
how it was read (`TokenTemplate.Body.place_control_iff`).
-/

namespace TokenTemplate

/-! ### What parts stand for -/

/-- The expression that some tokens of a region make up. -/
def Region.Says (r : Region) (ts : List Tree) (e : Expression) : Prop :=
  Expression.ofSource r.settings (r.textOf ts) (spanOf ts r.span) = .ok e

/-- The case that the tokens of a pattern make up, and those of its guard if it has one. -/
def Region.Tests (r : Region) (pattern : List Tree) (guard : Option (List Tree)) (c : Case) : Prop :=
  Case.ofSource r.settings (r.textOf pattern) (spanOf (pattern ++ guard.getD []) r.span)
    (guard.map r.textOf) = .ok c

/-- The whole of a region is compiled to a body. -/
def Bodies.Compiles (bodies : Bodies) (edges : Option Span) (r : Region) (body : Routine) : Prop :=
  bodies edges false r = .ok (body, r.goOn [])

section Means

variable (bodies : Bodies) (r : Region)

/-- The routine that a body stands for. -/
def BodyForm.Means : BodyForm → Routine → Prop
  | .arrow ts, body => bodies.Compiles none (r.goOn ts) body
  | .braces g, body => bodies.Compiles none (r.inside g.children g.span) body

/-- What an arm stands for. -/
structure ArmForm.Means (form : ArmForm) (arm : Arm) : Prop where
  /-- Its pattern and guard are a case. -/
  pattern : r.Tests form.pattern form.guard arm.pattern
  /-- Its body is compiled. -/
  body : form.body.Means bodies r arm.body

/-- **What a control construct stands for**, part by part. -/
inductive ControlForm.Means : ControlForm → Node → Prop
  /-- A choice. -/
  | choice {tokens : List Tree} {test : Expression} {yes : BodyForm} {no : Option Enclosed}
      {yes' : Routine} {no' : Option Routine} (htest : r.Says tokens test)
      (hyes : yes.Means bodies r yes')
      (hno : no.Rel (fun g => bodies.Compiles none (r.inside g.children g.span)) no') :
      Means (.choice tokens yes no) (.condition test yes' no')
  /-- A loop. The white space next to the brackets of its join counts. -/
  | loop {pattern tokens : List Tree} {c : Case} {source : Expression} {between : Option Enclosed}
      {body : BodyForm} {body' : Routine} {between' : Option Routine}
      (hpattern : r.Tests pattern none c) (hsource : r.Says tokens source)
      (hbetween : between.Rel
        (fun g => bodies.Compiles (some g.span) (r.inside g.children g.span)) between')
      (hbody : body.Means bodies r body') :
      Means (.loop pattern tokens between body) (.loop c source body' between')
  /-- A match. Its arms are read inside its block. -/
  | dispatch {tokens : List Tree} {subject : Expression} {block : Enclosed} {forms : List ArmForm}
      {arms : List Arm} (hsubject : r.Says tokens subject)
      (harms : forms.Forall₂ (ArmForm.Means bodies (r.inside block.children block.span)) arms) :
      Means (.dispatch tokens block forms) (.dispatch subject arms)
  /-- A body under a name, which an underscore leaves out. -/
  | scope {l : Leaf} {body : BodyForm} {body' : Routine} (hbody : body.Means bodies r body') :
      Means (.scope l body) (.scope (if l.text = "_" then none else some l.text) body')

end Means

namespace Construct

variable {bodies : Bodies} {r after : Region} {ts rest : List Tree} {node : Node} {body : Routine}

/-! ### Payloads -/

theorem spanOf_of_ne_nil {fallback fallback' : Span} (h : ts ≠ []) :
    Region.spanOf ts fallback = Region.spanOf ts fallback' := by
  cases ts with
  | nil => exact absurd rfl h
  | cons t ts => simp [Region.spanOf, List.getLast?_cons]

theorem expression_eq_ok_iff {e : Expression} :
    expression r ts = .ok e ↔ ts ≠ [] ∧ r.Says ts e := by
  rw [expression]
  cases ts with
  | nil => exact iff_of_false error_ne_ok fun h => h.1 rfl
  | cons t ts =>
    rw [if_neg (by simp), lift_eq_ok_iff]
    exact ⟨fun h => ⟨List.cons_ne_nil _ _, h⟩, And.right⟩

/-- There is no case without tokens, nor one with a guard that has none. -/
theorem ne_nil_of_case {span : Span} {c : Case} (guard : Option (List Tree))
    (h : Case.ofSource r.settings (r.textOf ts) span (guard.map r.textOf) = .ok c) :
    ts ≠ [] ∧ guard ≠ some [] := by
  obtain ⟨hts, hguard⟩ := Case.ofSource_ne_empty h
  constructor
  · rintro rfl
    exact hts rfl
  · rintro rfl
    exact hguard rfl

/-! ### Bodies -/

theorem word_goOn_iff {w : String} :
    Word w (r.goOn ts) after ↔ ∃ t us, ts = t :: us ∧ t.isWord w = true ∧ after = r.goOn us := Iff.rfl

theorem word_cons {w : String} {t : Tree} (h : t.isWord w = true) :
    Word w (r.goOn (t :: ts)) (r.goOn ts) :=
  ⟨t, ts, rfl, h, rfl⟩

theorem arrowed_goOn_iff :
    Arrowed bodies (r.goOn ts) body after ↔
      ∃ t u us, ts = t :: u :: us ∧ t.isArrow u = true ∧
        bodies none false (r.goOn us) = .ok (body, after) := by
  constructor
  · rintro ⟨harrow, hbody⟩
    obtain ⟨t, u, us, hts, hpeek, -, rfl⟩ := Region.expectArrow_eq_ok_iff.1 harrow
    obtain rfl : ts = t :: u :: us := hts
    exact ⟨t, u, us, rfl, hpeek, hbody⟩
  · rintro ⟨t, u, us, rfl, harrow, hbody⟩
    exact .mk (Region.expectArrow_eq_ok_iff.2 ⟨t, u, us, rfl, harrow, rfl, rfl⟩) hbody

theorem braced_goOn_iff (hbodies : bodies.Regular) :
    Braced bodies (r.goOn ts) body after ↔
      ∃ g us, ts = Enclosed.tree g .brace :: us ∧
        (BodyForm.braces g).Means bodies r body ∧ after = r.goOn us := by
  constructor
  · rintro ⟨hgroup, hbody⟩
    obtain ⟨children, span, us, hts, rfl, rfl⟩ := Region.expectGroup_eq_ok_iff.1 hgroup
    obtain rfl := hbodies.whole hbody
    exact ⟨⟨children, span⟩, us, hts, hbody, rfl⟩
  · rintro ⟨g, us, rfl, hbody, rfl⟩
    exact .mk (Region.expectGroup_eq_ok_iff.2 ⟨_, _, us, rfl, rfl, rfl⟩) hbody

/-- **A body that is all that is left** is read as it is written. -/
theorem hasBody_goOn_iff (hbodies : bodies.Regular) :
    (HasBody bodies (r.goOn ts) body after ∧ after.tokens = []) ↔
      ∃ form : BodyForm, form.Spells ts ∧ form.Means bodies r body ∧ after = r.goOn [] := by
  constructor
  · rintro ⟨h | h, hafter⟩
    · obtain ⟨t, u, us, rfl, harrow, hbody⟩ := arrowed_goOn_iff.1 h
      obtain rfl := hbodies.whole hbody
      exact ⟨.arrow us, .arrow harrow, hbody, rfl⟩
    · obtain ⟨g, us, rfl, hbody, rfl⟩ := (braced_goOn_iff hbodies).1 h
      obtain rfl : us = [] := hafter
      exact ⟨.braces g, .braces, hbody, rfl⟩
  · rintro ⟨form, hspells, hbody, rfl⟩
    cases hspells with
    | arrow harrow => exact ⟨.arrow (arrowed_goOn_iff.2 ⟨_, _, _, rfl, harrow, hbody⟩), rfl⟩
    | braces => exact ⟨.braces ((braced_goOn_iff hbodies).2 ⟨_, _, rfl, hbody, rfl⟩), rfl⟩

/-- What goes between the items of a loop is read as it is written. -/
theorem joined_goOn_iff {between : Option Routine} (hbodies : bodies.Regular) :
    Joined bodies (r.goOn ts) between after ↔
      ∃ form us, SpellsJoin form ts us ∧
        form.Rel (fun g => bodies.Compiles (some g.span) (r.inside g.children g.span)) between ∧
        after = r.goOn us ∧ (form = none → ts.head?.any (Tree.isWord "join") = false) := by
  constructor
  · intro h
    cases h with
    | some hword hgroup hbody =>
      obtain ⟨w, us, rfl, hw, rfl⟩ := word_goOn_iff.1 hword
      obtain ⟨children, span, us', hus, rfl, rfl⟩ := Region.expectGroup_eq_ok_iff.1 hgroup
      obtain rfl : us = _ := hus
      obtain rfl := hbodies.whole hbody
      exact ⟨some ⟨children, span⟩, us', .some (g := ⟨children, span⟩) hw, .some hbody, rfl,
        fun h => absurd h (by simp)⟩
    | none hword =>
      rw [Region.peekIs_goOn_zero] at hword
      exact ⟨none, ts, .none, .none, rfl, fun _ => hword⟩
  · rintro ⟨form, us, hspells, hmeans, rfl, hword⟩
    cases hspells with
    | none =>
      cases hmeans
      refine .none ?_
      rw [Region.peekIs_goOn_zero]
      exact hword rfl
    | some hw =>
      cases hmeans with
      | some hbody =>
        exact .some (word_cons hw)
          (Region.expectGroup_eq_ok_iff.2 ⟨_, _, us, rfl, rfl, rfl⟩) hbody

/-! ### Arms -/

/-- The pattern of an arm is read as it is written, up to the arrow after it. -/
theorem matched_goOn_iff {c : Case} :
    (Matched (r.goOn ts) c after ∧ after.peekArrow 0 = true) ↔
      ∃ pattern guard head us, SpellsPattern pattern guard head ∧ ts = head ++ us ∧
        r.Tests pattern guard c ∧ after = r.goOn us ∧ (r.goOn us).peekArrow 0 = true := by
  constructor
  · rintro ⟨h, harrow⟩
    cases h with
    | @guarded r₁ r₂ _ tokens guard _ htokens hword hguard hpattern =>
      obtain ⟨us, rfl⟩ := Region.goOn_of_takeUntil htokens
      obtain ⟨w, us, rfl, hw, rfl⟩ := word_goOn_iff.1 hword
      obtain ⟨vs, rfl⟩ := Region.goOn_of_takeUntil hguard
      have hif' : (w :: us).head?.any (Tree.isWord "if") = true := hw
      -- the pattern ends at the word before the guard, and the guard at the arrow
      obtain ⟨rfl, hif, hfree⟩ := (Region.takeUntil_guardOrArrow_iff (.inl hif')).1 htokens
      obtain ⟨rfl, hfree'⟩ := (Region.takeUntil_arrow_iff harrow).1 hguard
      obtain ⟨hne, hne'⟩ := ne_nil_of_case (some guard) hpattern
      refine ⟨tokens, some guard, tokens ++ w :: guard, vs,
        .guarded hne hif hfree hw (fun h => hne' (congrArg some h)) hfree', ?_, ?_, rfl, harrow⟩
      · rw [List.append_assoc, List.cons_append]
      · rw [Region.Tests, Option.getD_some,
          spanOf_of_ne_nil (List.append_ne_nil_of_left_ne_nil hne _)]
        exact hpattern
    | @plain _ tokens _ htokens hword hpattern =>
      obtain ⟨us, rfl⟩ := Region.goOn_of_takeUntil htokens
      obtain ⟨rfl, hif, hfree⟩ := (Region.takeUntil_guardOrArrow_iff (.inr harrow)).1 htokens
      obtain ⟨hne, -⟩ := ne_nil_of_case none hpattern
      refine ⟨tokens, none, tokens, us, .plain hne hif hfree, rfl, ?_, rfl, harrow⟩
      rw [Region.Tests, Option.getD_none, List.append_nil, spanOf_of_ne_nil hne]
      exact hpattern
  · rintro ⟨pattern, guard, head, us, hspells, rfl, htests, rfl, harrow⟩
    refine ⟨?_, harrow⟩
    cases hspells with
    | plain hne hif hfree =>
      refine .plain ((Region.takeUntil_guardOrArrow_iff (.inr harrow)).2 ⟨rfl, hif, hfree⟩) ?_ ?_
      · obtain ⟨t, u, more, rfl, harrow⟩ := Region.peekArrow_goOn_iff.1 harrow
        rw [Region.peekIs_goOn_zero, List.head?_cons, Option.any_some]
        exact isWord_of_isArrow harrow
      · rw [Region.Tests, Option.getD_none, List.append_nil] at htests
        rw [spanOf_of_ne_nil hne]
        exact htests
    | @guarded guard w hne hif hfree hw hguard hfree' =>
      have hword : (w :: (guard ++ us)).head?.any (Tree.isWord "if") = true := hw
      refine .guarded ((Region.takeUntil_guardOrArrow_iff (.inl hword)).2
        ⟨List.append_assoc .., hif, hfree⟩) (word_cons hw)
        ((Region.takeUntil_arrow_iff harrow).2 ⟨rfl, hfree'⟩) ?_
      rw [spanOf_of_ne_nil (List.append_ne_nil_of_left_ne_nil hne _)]
      exact htests

theorem dropComma_goOn : dropComma (r.goOn ts) = r.goOn (withoutComma ts) := by
  rw [dropComma, Region.peekIs_goOn_zero]
  cases ts with
  | nil => rfl
  | cons t ts =>
    rw [List.head?_cons, Option.any_some, withoutComma]
    split <;> rfl

/-- A row is cut in two before its first comma. -/
theorem exists_comma (ts : List Tree) :
    ∃ us rest, ts = us ++ rest ∧ (∀ v ∈ us, v.isPunct ',' = false) ∧
      ∀ v ∈ rest.head?, v.isPunct ',' = true := by
  exact ⟨ts.takeWhile (!·.isPunct ','), ts.dropWhile (!·.isPunct ','),
    List.takeWhile_append_dropWhile.symm, isPunct_of_mem_takeWhile, isPunct_of_head?_dropWhile⟩

/-- **An arm is read as it is written**, with the comma after it. -/
theorem selected_goOn_iff {arm : Arm} (hbodies : bodies.Regular) :
    Selected bodies (r.goOn ts) arm after ↔
      ∃ form us, SpellsArm form ts us ∧ form.Means bodies r arm ∧ after = r.goOn us := by
  constructor
  · intro h
    cases h with
    | braces hpattern harrow hbody =>
      obtain ⟨t, u, us, hus, hpeek, -, rfl⟩ := Region.expectArrow_eq_ok_iff.1 harrow
      obtain ⟨pattern, guard, head, vs, hspells, rfl, htests, rfl, -⟩ :=
        matched_goOn_iff.1 ⟨hpattern, hpeek⟩
      obtain rfl : vs = t :: u :: us := hus
      obtain ⟨g, rest, rfl, hmeans, rfl⟩ := (braced_goOn_iff hbodies).1 hbody
      exact ⟨⟨pattern, guard, .braces g⟩, _, .braces hspells hpeek, ⟨htests, hmeans⟩,
        dropComma_goOn⟩
    | comma hpattern harrow hgroup hbody =>
      obtain ⟨t, u, us, hus, hpeek, -, rfl⟩ := Region.expectArrow_eq_ok_iff.1 harrow
      obtain ⟨pattern, guard, head, vs, hspells, rfl, htests, rfl, -⟩ :=
        matched_goOn_iff.1 ⟨hpattern, hpeek⟩
      obtain rfl : vs = t :: u :: us := hus
      -- a body after an arrow ends at the comma
      obtain ⟨body, rest, rfl, hcomma, hrest⟩ := exists_comma us
      obtain ⟨hmeans, rfl⟩ := (hbodies.comma hcomma hrest).1 hbody
      have hbrace : body.head?.any (Tree.isGroup .brace) = false := by
        cases body with
        | nil => rfl
        | cons v body => exact hgroup
      exact ⟨⟨pattern, guard, .arrow body⟩, _, .arrow hspells hpeek hbrace hcomma hrest,
        ⟨htests, hmeans⟩, dropComma_goOn⟩
  · rintro ⟨form, us, hspells, hmeans, rfl⟩
    cases hspells with
    | @braces pattern head rest guard t u g hhead harrow =>
      have hpeek : (r.goOn (t :: u :: g.tree .brace :: rest)).peekArrow 0 = true := harrow
      have hpattern := matched_goOn_iff.2
        ⟨pattern, guard, head, _, hhead, rfl, hmeans.pattern, rfl, hpeek⟩
      rw [← dropComma_goOn]
      exact .braces hpattern.1 (Region.expectArrow_eq_ok_iff.2 ⟨t, u, _, rfl, harrow, rfl, rfl⟩)
        ((braced_goOn_iff hbodies).2 ⟨g, rest, rfl, hmeans.body, rfl⟩)
    | @arrow pattern head body rest guard t u hhead harrow hbrace hcomma hrest =>
      have hpeek : (r.goOn (t :: u :: (body ++ rest))).peekArrow 0 = true := harrow
      have hpattern := matched_goOn_iff.2
        ⟨pattern, guard, head, _, hhead, rfl, hmeans.pattern, rfl, hpeek⟩
      rw [← dropComma_goOn]
      refine .comma hpattern.1 (Region.expectArrow_eq_ok_iff.2 ⟨t, u, _, rfl, harrow, rfl, rfl⟩) ?_
        ((hbodies.comma hcomma hrest).2 ⟨hmeans.body, rfl⟩)
      -- what follows an empty body is a comma or nothing, so no brace either
      have hhead' : (body ++ rest).head?.any (Tree.isGroup .brace) = false := by
        cases body with
        | nil =>
          cases rest with
          | nil => rfl
          | cons v rest =>
            cases v with
            | leaf l => rfl
            | group d children span => exact absurd (hrest _ rfl) Bool.false_ne_true
        | cons v body => exact hbrace
      rw [← hhead']
      exact Region.peekIs_goOn_zero (r := r)

/-- **The arms of a match are read as they are written.** -/
theorem arms_goOn_iff {fuel : Nat} {arms : List Arm} (hbodies : bodies.Regular)
    (hfuel : ts.length ≤ fuel) :
    Arms bodies fuel (r.goOn ts) arms ↔
      ∃ forms, SpellsArms forms ts ∧ forms.Forall₂ (ArmForm.Means bodies r) arms := by
  -- an arm takes a token, so there are never more arms than there is fuel for
  induction fuel generalizing ts arms with
  | zero =>
    obtain rfl := List.length_eq_zero_iff.1 (Nat.le_zero.1 hfuel)
    constructor
    · rintro ⟨⟩
      exact ⟨[], .nil, .nil⟩
    · rintro ⟨forms, hspells, hmeans⟩
      cases hspells with
      | nil =>
        cases hmeans
        exact .spent
      | cons h => exact absurd rfl h.ne_nil
  | succ fuel ih =>
    have hstep {form : ArmForm} {us : List Tree} (h : SpellsArm form ts us) : us.length ≤ fuel :=
      Nat.le_of_lt_succ (h.length_lt.trans_le hfuel)
    constructor
    · intro h
      cases h with
      | nil hnil =>
        obtain rfl : ts = [] := hnil
        exact ⟨[], .nil, .nil⟩
      | cons _ harm h =>
        obtain ⟨form, us, hspells, hmeans, rfl⟩ := (selected_goOn_iff hbodies).1 harm
        obtain ⟨forms, hmore, hall⟩ := (ih (hstep hspells)).1 h
        exact ⟨form :: forms, .cons hspells hmore, .cons hmeans hall⟩
    · rintro ⟨forms, hspells, hmeans⟩
      cases hspells with
      | nil =>
        cases hmeans
        exact .nil rfl
      | cons h hmore =>
        cases hmeans with
        | cons hform hall =>
          exact .cons h.ne_nil ((selected_goOn_iff hbodies).2 ⟨_, _, h, hform, rfl⟩)
            ((ih (hstep h)).2 ⟨_, hmore, hall⟩)

/-! ### Control constructs -/

/-- A payload that is evaluated, up to where it ends. -/
theorem evaluates_goOn_iff {stop : Region.Stop} {e : Expression} :
    Evaluates stop (r.goOn ts) e after ↔
      ∃ tokens us, (r.goOn ts).takeUntil stop = (tokens, r.goOn us) ∧ tokens ≠ [] ∧
        r.Says tokens e ∧ after = r.goOn us := by
  constructor
  · rintro ⟨tokens, hcut, he⟩
    obtain ⟨us, rfl⟩ := Region.goOn_of_takeUntil hcut
    obtain ⟨hne, hsays⟩ := expression_eq_ok_iff.1 he
    exact ⟨tokens, us, hcut, hne, hsays, rfl⟩
  · rintro ⟨tokens, us, hcut, hne, hsays, rfl⟩
    exact ⟨tokens, hcut, expression_eq_ok_iff.2 ⟨hne, hsays⟩⟩

/-- The condition of a choice is read as it is written, up to its body. -/
theorem evaluates_condition_iff {e : Expression}
    (hafter : after.peekArrow 0 = true ∨ after.tokens.head?.any (Tree.isGroup .brace) = true) :
    Evaluates .arrowOrBrace (r.goOn ts) e after ↔
      ∃ test us, ts = test ++ us ∧ IsCondition test ∧ r.Says test e ∧ after = r.goOn us := by
  rw [evaluates_goOn_iff]
  constructor
  · rintro ⟨test, us, hcut, hne, hsays, rfl⟩
    obtain ⟨rfl, hfree, hbrace⟩ := (Region.takeUntil_arrowOrBrace_iff hafter).1 hcut
    exact ⟨test, us, rfl, ⟨hne, hfree, hbrace⟩, hsays, rfl⟩
  · rintro ⟨test, us, rfl, htest, hsays, rfl⟩
    exact ⟨test, us, htest.takeUntil hafter, htest.ne_nil, hsays, rfl⟩

/-- What is read of a region that a control construct is written in. -/
theorem exists_form {w : String} (hbodies : bodies.Regular)
    (hw : r.tokens.head?.any (Tree.isWord w) = true) (hmem : w ∈ ["if", "for", "match", "ref"])
    (h : Parses bodies r node after) (hafter : after.tokens = []) :
    ∃ form : ControlForm, form.Splits r.tokens ∧ form.Means bodies r node := by
  suffices hgoOn : ∀ ts, ts.head?.any (Tree.isWord w) = true →
      Parses bodies (r.goOn ts) node after →
      ∃ form : ControlForm, form.Splits ts ∧ form.Means bodies r node from hgoOn r.tokens hw h
  -- each rule of the parser cuts payloads off, and where they are cut is what the rule of the grammar
  -- says about their tokens
  intro ts hw h
  cases h with
  | @literal l text htokens hkind =>
    obtain rfl : ts = [.leaf l] := htokens
    rw [List.head?_cons, Option.any_some, Tree.isWord, hkind] at hw
    exact absurd hw Bool.false_ne_true
  | expression _ hwords =>
    have hnot := hwords w hmem
    rw [Region.peekIs_goOn_zero] at hnot
    exact absurd (hw.symm.trans hnot) (by decide)
  | arrow hword htest hyes =>
    obtain ⟨v, us, rfl, hv, rfl⟩ := word_goOn_iff.1 hword
    obtain ⟨test, us, rfl, hcond, hsays, rfl⟩ :=
      (evaluates_condition_iff (.inl hyes.peekArrow)).1 htest
    obtain ⟨form, hspells, hmeans, -⟩ := (hasBody_goOn_iff hbodies).1 ⟨.arrow hyes, hafter⟩
    exact ⟨.choice test form none, ⟨.choice hv hcond hspells, trivial⟩,
      .choice hsays hmeans .none⟩
  | braces hword htest hyes =>
    obtain ⟨v, us, rfl, hv, rfl⟩ := word_goOn_iff.1 hword
    have hbrace := hyes.peekBrace
    rw [Region.peekIs, Region.peek, ← List.head?_eq_getElem?] at hbrace
    obtain ⟨test, us, rfl, hcond, hsays, rfl⟩ := (evaluates_condition_iff (.inr hbrace)).1 htest
    obtain ⟨form, hspells, hmeans, -⟩ := (hasBody_goOn_iff hbodies).1 ⟨.braces hyes, hafter⟩
    exact ⟨.choice test form none, ⟨.choice hv hcond hspells, trivial⟩,
      .choice hsays hmeans .none⟩
  | both hword htest hyes helse hno =>
    obtain ⟨v, us, rfl, hv, rfl⟩ := word_goOn_iff.1 hword
    have hbrace := hyes.peekBrace
    rw [Region.peekIs, Region.peek, ← List.head?_eq_getElem?] at hbrace
    obtain ⟨test, us, rfl, hcond, hsays, rfl⟩ := (evaluates_condition_iff (.inr hbrace)).1 htest
    obtain ⟨yes, us, rfl, hmeans, rfl⟩ := (braced_goOn_iff hbodies).1 hyes
    obtain ⟨x, us, rfl, hx, rfl⟩ := word_goOn_iff.1 helse
    obtain ⟨no, us, rfl, hmeans', rfl⟩ := (braced_goOn_iff hbodies).1 hno
    obtain rfl : us = [] := hafter
    exact ⟨.choice test (.braces yes) (some no), ⟨.both hv hcond hx, trivial⟩,
      .choice hsays hmeans (.some hmeans')⟩
  | loop hword htokens hin hpattern hsource hjoin hbody =>
    obtain ⟨v, us, rfl, hv, rfl⟩ := word_goOn_iff.1 hword
    obtain ⟨us', rfl⟩ := Region.goOn_of_takeUntil htokens
    obtain ⟨x, us', rfl, hx, rfl⟩ := word_goOn_iff.1 hin
    have hin' : (x :: us').head?.any (Tree.isWord "in") = true := hx
    obtain ⟨rfl, hfree⟩ := (Region.takeUntil_wordIn_iff hin').1 htokens
    obtain ⟨source, us', hcut, hne, hsays, rfl⟩ := evaluates_goOn_iff.1 hsource
    obtain ⟨between, vs, hspells, hbetween, rfl, -⟩ := (joined_goOn_iff hbodies).1 hjoin
    obtain ⟨form, hform, hmeans, -⟩ := (hasBody_goOn_iff hbodies).1 ⟨hbody, hafter⟩
    have hstop := Region.stop_of_takeUntil hcut (hspells.ne_nil hform)
    obtain ⟨rfl, harrow, hbrace, hjoins⟩ := (Region.takeUntil_loopBody_iff hstop).1 hcut
    obtain ⟨hpat, -⟩ := ne_nil_of_case none hpattern
    rw [spanOf_of_ne_nil hpat] at hpattern
    refine ⟨.loop _ source between form,
      ⟨.loop hv hpat hfree hx ⟨hne, harrow, hbrace⟩ hjoins hspells hform,
        (hspells.ends_iff hne hform).1 hstop⟩, .loop ?_ hsays hbetween hmeans⟩
    rw [Region.Tests, Option.getD_none, List.append_nil]
    exact hpattern
  | dispatch hword hsubject hgroup harms =>
    obtain ⟨v, us, rfl, hv, rfl⟩ := word_goOn_iff.1 hword
    obtain ⟨subject, us, hcut, hne, hsays, rfl⟩ := evaluates_goOn_iff.1 hsubject
    obtain ⟨children, span, us', hus, rfl, rfl⟩ := Region.expectGroup_eq_ok_iff.1 hgroup
    obtain rfl : us' = [] := hafter
    obtain rfl : us = [.group .brace children span] := hus
    obtain rfl := (Region.takeUntil_finalBrace_iff rfl).1 hcut
    obtain ⟨forms, hspells, hmeans⟩ :=
      (arms_goOn_iff (r := r.inside children span) hbodies le_rfl).1 harms
    exact ⟨.dispatch subject ⟨children, span⟩ forms,
      ⟨.dispatch hv hne hspells, trivial⟩, .dispatch hsays hmeans⟩
  | scope hword hname hbody =>
    obtain ⟨v, us, rfl, hv, rfl⟩ := word_goOn_iff.1 hword
    obtain ⟨us', hus, hl, rfl⟩ := Region.expectName_eq_ok_iff.1 hname
    obtain rfl : us = _ := hus
    obtain ⟨form, hspells, hmeans, -⟩ := (hasBody_goOn_iff hbodies).1 ⟨hbody, hafter⟩
    exact ⟨.scope _ form, ⟨.scope hv hl hspells, trivial⟩, .scope hmeans⟩

/-- A region is read if what it is split into stands for something. -/
theorem parses_of_form {form : ControlForm} (hbodies : bodies.Regular) (h : form.Splits ts)
    (hmeans : form.Means bodies r node) :
    ∃ after, Parses bodies (r.goOn ts) node after ∧ after.tokens = [] := by
  obtain ⟨h, hapart⟩ := h
  cases h with
  | choice hw htest hyes =>
    cases hmeans with
    | choice hsays hbody hno =>
      cases hno
      -- the condition ends where the body begins
      have heval := (evaluates_condition_iff (r := r) hyes.begins).2 ⟨_, _, rfl, htest, hsays, rfl⟩
      obtain ⟨hhas, hafter⟩ := (hasBody_goOn_iff hbodies).2 ⟨_, hyes, hbody, rfl⟩
      refine ⟨r.goOn [], ?_, hafter⟩
      cases hhas with
      | arrow harrow => exact .arrow (word_cons hw) heval harrow
      | braces hbraced => exact .braces (word_cons hw) heval hbraced rfl
  | @both w v test yes no hw htest hv =>
    cases hmeans with
    | choice hsays hbody hno =>
      cases hno with
      | some hno =>
        have hbrace : [yes.tree .brace, v, no.tree .brace].head?.any (Tree.isGroup .brace) = true :=
          rfl
        have heval := (evaluates_condition_iff (r := r) (.inr hbrace)).2
          ⟨_, _, rfl, htest, hsays, rfl⟩
        exact ⟨r.goOn [], .both (word_cons hw) heval
          ((braced_goOn_iff hbodies).2 ⟨yes, _, rfl, hbody, rfl⟩)
          (word_cons hv)
          ((braced_goOn_iff hbodies).2 ⟨no, [], rfl, hno, rfl⟩), rfl⟩
  | @loop w v pattern source more ts between body hw hpattern hin hv hsource hfree hjoin hbody =>
    cases hmeans with
    | loop htests hsays hbetween hmeans =>
      -- what comes after the source stops it, whether it is a join or the body
      have hcut := hjoin.takeUntil (r := r) hsource hfree hbody hapart
      obtain ⟨hhas, hafter⟩ := (hasBody_goOn_iff hbodies).2 ⟨_, hbody, hmeans, rfl⟩
      rw [Region.Tests, Option.getD_none, List.append_nil, spanOf_of_ne_nil hpattern] at htests
      refine ⟨r.goOn [], .loop (word_cons hw)
        (takeUntil_of_wordIn hv hin _) (word_cons hv)
        htests (evaluates_goOn_iff.2 ⟨source, more, hcut, hsource.ne_nil, hsays, rfl⟩)
        ((joined_goOn_iff hbodies).2 ⟨between, ts, hjoin, hbetween, rfl, ?_⟩) hhas, hafter⟩
      rintro rfl
      cases hjoin
      exact hbody.not_word
  | @dispatch w subject block arms hw hsubject harms =>
    cases hmeans with
    | dispatch hsays hforms =>
      -- the subject ends before the last group
      have hcut := (Region.takeUntil_finalBrace_iff (r := r) (t := block.tree .brace)
        rfl).2 (rfl : subject ++ [block.tree .brace] = _)
      exact ⟨r.goOn [], .dispatch (word_cons hw)
        (evaluates_goOn_iff.2 ⟨subject, _, hcut, hsubject, hsays, rfl⟩)
        (Region.expectGroup_eq_ok_iff.2 ⟨_, _, [], rfl, rfl, rfl⟩)
        ((arms_goOn_iff (r := r.inside block.children block.span) hbodies le_rfl).2
          ⟨arms, harms, hforms⟩), rfl⟩
  | @scope w l ts body hw hl hbody =>
    cases hmeans with
    | scope hmeans =>
      obtain ⟨hhas, hafter⟩ := (hasBody_goOn_iff hbodies).2 ⟨_, hbody, hmeans, rfl⟩
      exact ⟨r.goOn [], .scope (word_cons hw)
        (Region.expectName_eq_ok_iff.2 ⟨ts, rfl, hl, rfl⟩) hhas, hafter⟩

end Construct

namespace Body

/-- **A control construct is compiled exactly if it is written as one.** In brackets that begin with
one of four words, the tokens split into the parts of a construct in one way, the parts stand for
something, and it is with this that the encoder goes on. -/
theorem place_control_iff (b : Body) (levelsLeft room : Nat) (e e' : Encoder) (r scope : Region)
    (start : Span) (w : String) (hmem : w ∈ ["if", "for", "match", "ref"])
    (hw : scope.tokens.head?.any (Tree.isWord w) = true) :
    b.place (levels b levelsLeft) room e r (.payload start scope) = .ok e' ↔
      ∃ form : ControlForm, (∀ form' : ControlForm, form'.Splits scope.tokens ↔ form' = form) ∧
        ∃ node, form.Means (b.bodies (levels b levelsLeft)) scope node ∧
          e' = e.add (start.join scope.span) (start.cursor.join scope.span.cursor) node
            e.opened := by
  have hbodies := bodies_regular b levelsLeft
  have hwrite {node : Node} {form : ControlForm}
      (h : form.Means (b.bodies (levels b levelsLeft)) scope node) :
      e.write (start.join scope.span) (start.cursor.join scope.span.cursor) node = .ok e' ↔
        e' = e.add (start.join scope.span) (start.cursor.join scope.span.cursor) node
          e.opened := by
    have hopened : node.opened? e.opened = some e.opened := by cases h <;> rfl
    rw [Encoder.write_eq_ok_iff, hopened]
    simp
  rw [place_payload_eq_ok_iff]
  constructor
  · rintro ⟨node, rest, hparses, hend, h⟩
    obtain ⟨form, hsplits, hmeans⟩ := Construct.exists_form hbodies hw hmem hparses hend
    refine ⟨form, fun form' => ⟨fun h' => h'.unique hsplits, ?_⟩, node, hmeans, (hwrite hmeans).1 h⟩
    rintro rfl
    exact hsplits
  · rintro ⟨form, hsplits, node, hmeans, h⟩
    obtain ⟨rest, hparses, hend⟩ :=
      Construct.parses_of_form hbodies ((hsplits form).2 rfl) hmeans
    exact ⟨node, rest, hparses, hend, (hwrite hmeans).2 h⟩

/-- A choice between two bodies is compiled, so it splits into parts in one way. -/
theorem place_control_two_bodies :
    ∃ scope e', Region.ofSource {} "if x \x7ba\x7d else \x7bb\x7d".toList = .ok scope ∧
      Body.place {} (levels {} 2) 1 { receiver := "t" } scope (.payload default scope) = .ok e' ∧
      ∃ form : ControlForm, ∀ form' : ControlForm, form'.Splits scope.tokens ↔ form' = form := by
  obtain ⟨scope, e', hscope, hw, hplace⟩ : ∃ scope e',
      Region.ofSource {} "if x \x7ba\x7d else \x7bb\x7d".toList = .ok scope ∧
        scope.tokens.head?.any (Tree.isWord "if") = true ∧
        Body.place {} (levels {} 2) 1 { receiver := "t" } scope (.payload default scope) = .ok e' :=
    ⟨_, _, by cbv, by cbv, by cbv⟩
  obtain ⟨form, hsplits, -⟩ := (place_control_iff {} 2 1 { receiver := "t" } e' scope scope default
    "if" (by decide) hw).1 hplace
  exact ⟨scope, e', hscope, hplace, form, hsplits⟩

/-- A number that ends in a point is an expression, and a join may come after an expression; but a
join right after a point is no join, and a loop that is written so is not compiled. -/
theorem not_place_control_iff_of_point :
    ∃ scope, Region.ofSource {} "for x in 1. join (b) => c".toList = .ok scope ∧
      ¬ ((∃ e', Body.place {} (levels {} 2) 1 { receiver := "t" } scope
          (.payload default scope) = .ok e') ↔
        ∃ (form : ControlForm) (node : Node), form.Spells scope.tokens ∧
          form.Means (Body.bodies {} (levels {} 2)) scope node) := by
  refine ⟨_, by cbv, fun h => ?_⟩
  -- as it is written there is a way to split it, with a join
  obtain ⟨e', hplace⟩ := h.2 <| by
    obtain ⟨c, hc⟩ := exists_of_isOk (x := Case.ofSource {} "x" ⟨⟨1, 5⟩, ⟨1, 6⟩, 4, 5⟩ none)
      (by decide +kernel)
    obtain ⟨source, hsource⟩ := exists_of_isOk
      (x := Expression.ofSource {} "1." ⟨⟨1, 10⟩, ⟨1, 12⟩, 9, 11⟩) (by decide +kernel)
    exact ⟨.loop [_] [_, _] (some ⟨[_], _⟩) (.arrow [_]), _,
      .loop rfl (List.cons_ne_nil _ _) (by decide) rfl
        ⟨List.cons_ne_nil _ _, by decide, by decide⟩ (by decide) (.some rfl) (.arrow rfl),
      .loop hc hsource (.some (by rw [Bodies.Compiles]; cbv))
        (by rw [BodyForm.Means, Bodies.Compiles]; cbv)⟩
  obtain ⟨node, rest, hparses, hend, -⟩ := place_payload_eq_ok_iff.1 hplace
  obtain ⟨form, hsplits, hmeans⟩ :=
    Construct.exists_form (bodies_regular {} 2) (w := "for") rfl (by decide) hparses hend
  -- the join is a part of the source, which is no expression then
  have hform : form = .loop [_] [_, _, _, _] none (.arrow [_]) :=
    hsplits.unique ⟨.loop rfl (List.cons_ne_nil _ _) (by decide) rfl
      ⟨List.cons_ne_nil _ _, by decide, by decide⟩ (by decide) .none (.arrow rfl), trivial⟩
  subst hform
  cases hmeans with
  | loop _ hsays =>
    have hok := congrArg Except.isOk hsays
    exact absurd (hok.symm.trans (by decide +kernel)) Bool.false_ne_true.symm

end Body

end TokenTemplate
