import TokenTemplate.Proofs.Grammar.Split

/-!
# How control constructs are written

What stands in brackets and begins with `if`, `for`, `match` or `ref` has parts: payloads, which are
rows of tokens, and bodies, which are rows of tokens or groups. The parts are
`TokenTemplate.ControlForm`, and `TokenTemplate.ControlForm.Spells` says which rows of tokens they
make up. It is a grammar, with a rule for each way of writing a construct, and no rule asks how far
something was read before: a payload is free of what would end it, and what comes after it is there.

One thing the rules leave open. A `join` right after a point belongs to the payload that it stands
in, as an attribute, so the parts of a loop are to be `TokenTemplate.ControlForm.Apart`. With this a
row of tokens splits into parts in one way only (`TokenTemplate.ControlForm.Splits.unique`).
-/

namespace TokenTemplate

/-! ### Parts -/

/-- What stands in brackets, and where the brackets stand. -/
structure Enclosed where
  /-- The tokens between the brackets. -/
  children : List Tree
  /-- From the first bracket to the second. -/
  span : Span

/-- The token that it is in brackets of some kind. -/
def Enclosed.tree (g : Enclosed) (d : Delimiter) : Tree :=
  .group d g.children g.span

theorem Enclosed.tree_inj {g g' : Enclosed} {d : Delimiter} (h : g.tree d = g'.tree d) : g = g' := by
  cases g
  cases g'
  obtain ⟨-, rfl, rfl⟩ := Tree.group.inj h
  rfl

/-- A body as it is written. -/
inductive BodyForm
  /-- After an arrow. -/
  | arrow (tokens : List Tree)
  /-- In curly brackets. -/
  | braces (group : Enclosed)

/-- An arm as it is written. -/
structure ArmForm where
  /-- What the subject has to match. -/
  pattern : List Tree
  /-- What has to hold then. -/
  guard : Option (List Tree)
  /-- What is run. -/
  body : BodyForm

/-- **A control construct as it is written.** -/
inductive ControlForm
  /-- A choice between a body and another one, or none. -/
  | choice (test : List Tree) (yes : BodyForm) (no : Option Enclosed)
  /-- A loop, perhaps with something between its items. -/
  | loop (pattern source : List Tree) (between : Option Enclosed) (body : BodyForm)
  /-- A match, with the arms that stand in its block. -/
  | dispatch (subject : List Tree) (block : Enclosed) (arms : List ArmForm)
  /-- A body under a name for the receiver. -/
  | scope (name : Leaf) (body : BodyForm)

/-! ### Bodies and arms -/

/-- **How a body is written**: it is all that is left after an arrow, or a last group. -/
inductive BodyForm.Spells : BodyForm → List Tree → Prop
  /-- After an arrow. -/
  | arrow {t u : Tree} {ts : List Tree} (h : t.isArrow u = true) : Spells (.arrow ts) (t :: u :: ts)
  /-- In curly brackets. -/
  | braces {g : Enclosed} : Spells (.braces g) [g.tree .brace]

/-- **How the pattern of an arm is written**, with its guard if it has one. -/
inductive SpellsPattern : List Tree → Option (List Tree) → List Tree → Prop
  /-- Without a guard. -/
  | plain {pattern : List Tree} (hne : pattern ≠ []) (hif : ∀ t ∈ pattern, t.isWord "if" = false)
      (harrow : ArrowFree pattern) : SpellsPattern pattern none pattern
  /-- With one, after its word. -/
  | guarded {pattern guard : List Tree} {w : Tree} (hne : pattern ≠ [])
      (hif : ∀ t ∈ pattern, t.isWord "if" = false) (harrow : ArrowFree pattern)
      (hw : w.isWord "if" = true) (hguard : guard ≠ []) (hfree : ArrowFree guard) :
      SpellsPattern pattern (some guard) (pattern ++ w :: guard)

/-- A row of tokens without the comma that it may begin with. -/
def withoutComma : List Tree → List Tree
  | [] => []
  | t :: ts => if t.isPunct ',' then ts else t :: ts

/-- **How an arm is written**, and what is left after it. -/
inductive SpellsArm : ArmForm → List Tree → List Tree → Prop
  /-- With a body in curly brackets, and perhaps a comma. -/
  | braces {pattern head rest : List Tree} {guard : Option (List Tree)} {t u : Tree} {g : Enclosed}
      (hhead : SpellsPattern pattern guard head) (harrow : t.isArrow u = true) :
      SpellsArm ⟨pattern, guard, .braces g⟩ (head ++ t :: u :: g.tree .brace :: rest)
        (withoutComma rest)
  /-- With a body up to a comma or to the end. -/
  | arrow {pattern head body rest : List Tree} {guard : Option (List Tree)} {t u : Tree}
      (hhead : SpellsPattern pattern guard head) (harrow : t.isArrow u = true)
      (hbrace : body.head?.any (Tree.isGroup .brace) = false)
      (hbody : ∀ v ∈ body, v.isPunct ',' = false) (hrest : ∀ v ∈ rest.head?, v.isPunct ',' = true) :
      SpellsArm ⟨pattern, guard, .arrow body⟩ (head ++ t :: u :: (body ++ rest))
        (withoutComma rest)

/-- **How arms are written**, one after another. -/
inductive SpellsArms : List ArmForm → List Tree → Prop
  /-- There are no more. -/
  | nil : SpellsArms [] []
  /-- An arm, and those after it. -/
  | cons {arm : ArmForm} {arms : List ArmForm} {ts rest : List Tree} (h : SpellsArm arm ts rest)
      (hrest : SpellsArms arms rest) : SpellsArms (arm :: arms) ts

/-! ### Control constructs -/

/-- The tokens of a condition: neither an arrow nor a group in curly brackets is among them. -/
structure IsCondition (ts : List Tree) : Prop where
  /-- There is something. -/
  ne_nil : ts ≠ []
  /-- No body begins with an arrow. -/
  arrowFree : ArrowFree ts
  /-- No body begins with a bracket. -/
  not_brace : ∀ t ∈ ts, t.isGroup .brace = false

/-- **What comes after the source of a loop**, up to the body. -/
inductive SpellsJoin : Option Enclosed → List Tree → List Tree → Prop
  /-- Nothing. -/
  | none {ts : List Tree} : SpellsJoin none ts ts
  /-- The word `join` and a group in round brackets. -/
  | some {w : Tree} {g : Enclosed} {ts : List Tree} (hw : w.isWord "join" = true) :
      SpellsJoin (some g) (w :: g.tree .parenthesis :: ts) ts

namespace ControlForm

/-- **How control constructs are written.** -/
inductive Spells : ControlForm → List Tree → Prop
  /-- A choice with one body. -/
  | choice {w : Tree} {test ts : List Tree} {yes : BodyForm} (hw : w.isWord "if" = true)
      (htest : IsCondition test) (hyes : yes.Spells ts) :
      Spells (.choice test yes none) (w :: (test ++ ts))
  /-- A choice between two bodies in curly brackets. -/
  | both {w v : Tree} {test : List Tree} {yes no : Enclosed} (hw : w.isWord "if" = true)
      (htest : IsCondition test) (hv : v.isWord "else" = true) :
      Spells (.choice test (.braces yes) (some no))
        (w :: (test ++ [yes.tree .brace, v, no.tree .brace]))
  /-- A loop. -/
  | loop {w v : Tree} {pattern source more ts : List Tree} {between : Option Enclosed}
      {body : BodyForm} (hw : w.isWord "for" = true) (hpattern : pattern ≠ [])
      (hin : ∀ t ∈ pattern, t.isWord "in" = false) (hv : v.isWord "in" = true)
      (hsource : IsCondition source) (hfree : JoinFree source)
      (hjoin : SpellsJoin between more ts) (hbody : body.Spells ts) :
      Spells (.loop pattern source between body) (w :: (pattern ++ v :: (source ++ more)))
  /-- A match. -/
  | dispatch {w : Tree} {subject : List Tree} {block : Enclosed} {arms : List ArmForm}
      (hw : w.isWord "match" = true) (hsubject : subject ≠ [])
      (harms : SpellsArms arms block.children) :
      Spells (.dispatch subject block arms) (w :: (subject ++ [block.tree .brace]))
  /-- A body under a name for the receiver. -/
  | scope {w : Tree} {l : Leaf} {ts : List Tree} {body : BodyForm} (hw : w.isWord "ref" = true)
      (hl : l.kind = .name) (hbody : body.Spells ts) : Spells (.scope l body) (w :: .leaf l :: ts)

/-- What goes between the items of a loop stands apart from its source: no point reaches out to
its word. -/
def Apart : ControlForm → Prop
  | .loop _ source (some _) _ => ∀ t ∈ source.getLast?, t.isPunct '.' = false
  | _ => True

/-- **The parts that a row of tokens splits into.** -/
def Splits (form : ControlForm) (ts : List Tree) : Prop :=
  form.Spells ts ∧ form.Apart

end ControlForm

/-! ### One way to split -/

section Unique

variable {r : Region} {w t u t' u' : Tree} {ts more more' head head' pattern pattern' : List Tree}
  {guard guard' : Option (List Tree)}

/-- A body begins with an arrow or a group in curly brackets. -/
theorem BodyForm.Spells.begins {body : BodyForm} (h : body.Spells ts) :
    (r.goOn ts).peekArrow 0 = true ∨ ts.head?.any (Tree.isGroup .brace) = true := by
  cases h with
  | arrow harrow => exact Or.inl harrow
  | braces => exact Or.inr rfl

theorem BodyForm.Spells.ne_nil {body : BodyForm} (h : body.Spells ts) : ts ≠ [] := by
  cases h <;> simp

theorem BodyForm.Spells.unique {body body' : BodyForm} (h : body.Spells ts)
    (h' : body'.Spells ts) : body = body' := by
  cases h with
  | arrow =>
    cases h'
    rfl
  | braces =>
    generalize heq : [_] = ts at h'
    cases h' with
    | arrow => exact absurd heq (by simp)
    | braces => rw [Enclosed.tree_inj (List.singleton_inj.1 heq)]

/-- A group in curly brackets is a body by itself only. -/
theorem not_spells_more {body : BodyForm} {g : Enclosed} :
    ¬ body.Spells (g.tree .brace :: t :: ts) := by
  generalize heq : g.tree .brace :: t :: ts = us
  intro h
  cases h with
  | arrow harrow =>
    obtain ⟨rfl, -⟩ := List.cons.inj heq
    exact absurd harrow Bool.false_ne_true
  | braces => exact absurd heq (by simp)

/-- A payload that is cut off in two ways is cut off in the same way. -/
theorem cut_unique {stop : Region.Stop} {taken taken' rest rest' : List Tree}
    (h : (r.goOn ts).takeUntil stop = (taken, r.goOn rest))
    (h' : (r.goOn ts).takeUntil stop = (taken', r.goOn rest')) :
    taken = taken' ∧ rest = rest' := by
  obtain ⟨htaken, hrest⟩ := Prod.mk.inj (h.symm.trans h')
  exact ⟨htaken, congrArg Region.tokens hrest⟩

/-- No arrow begins with a word. -/
theorem isWord_of_isArrow {s : String} (h : t.isArrow u = true) : t.isWord s = false := by
  rw [Tree.isArrow, Bool.and_eq_true, Bool.and_eq_true] at h
  cases t with
  | leaf l =>
    rw [Tree.isPunct, Bool.and_eq_true, beq_iff_eq] at h
    rw [Tree.isWord, h.1.1.1]
    rfl
  | group d children span => rfl

/-- The pattern of an arm reaches to the first word `if` or arrow. -/
theorem SpellsPattern.takeUntil (h : SpellsPattern pattern guard head) (harrow : t.isArrow u = true)
    (more : List Tree) :
    ∃ rest, head ++ t :: u :: more = pattern ++ rest ∧
      (r.goOn (head ++ t :: u :: more)).takeUntil .guardOrArrow = (pattern, r.goOn rest) ∧
      match guard with
      | none => rest = t :: u :: more
      | some guard => ∃ w, w.isWord "if" = true ∧ rest = w :: (guard ++ t :: u :: more) ∧
          (r.goOn (guard ++ t :: u :: more)).takeUntil .arrow =
            (guard, r.goOn (t :: u :: more)) := by
  have hends : (r.goOn (t :: u :: more)).peekArrow 0 = true := harrow
  cases h with
  | plain hne hif hfree =>
    exact ⟨_, rfl, (Region.takeUntil_guardOrArrow_iff (.inr hends)).2 ⟨rfl, hif, hfree⟩, rfl⟩
  | @guarded guard w hne hif hfree hw _ hfree' =>
    have hword : (w :: (guard ++ t :: u :: more)).head?.any (Tree.isWord "if") = true := hw
    refine ⟨_, List.append_assoc .., ?_, w, hw, rfl,
      (Region.takeUntil_arrow_iff hends).2 ⟨rfl, hfree'⟩⟩
    exact (Region.takeUntil_guardOrArrow_iff (.inl hword)).2
      ⟨List.append_assoc .., hif, hfree⟩

theorem SpellsPattern.unique (h : SpellsPattern pattern guard head)
    (h' : SpellsPattern pattern' guard' head') (harrow : t.isArrow u = true)
    (harrow' : t'.isArrow u' = true) (heq : head ++ t :: u :: more = head' ++ t' :: u' :: more') :
    pattern = pattern' ∧ guard = guard' ∧ more = more' := by
  obtain ⟨rest, -, hcut, hrest⟩ := h.takeUntil (r := default) harrow more
  obtain ⟨rest', -, hcut', hrest'⟩ := h'.takeUntil (r := default) harrow' more'
  rw [heq] at hcut
  obtain ⟨hpattern, hsame⟩ := cut_unique hcut hcut'
  refine ⟨hpattern, ?_⟩
  -- the guard is there in both cases or in none, as no arrow begins with a word
  cases guard with
  | none =>
    cases guard' with
    | none =>
      obtain rfl : rest = _ := hrest
      obtain rfl : rest' = _ := hrest'
      rw [List.cons.injEq, List.cons.injEq] at hsame
      exact ⟨rfl, hsame.2.2⟩
    | some guard' =>
      obtain ⟨w, hw, rfl, -⟩ := hrest'
      obtain rfl : rest = _ := hrest
      obtain ⟨rfl, -⟩ := List.cons.inj hsame
      exact absurd (hw.symm.trans (isWord_of_isArrow harrow)) (by decide)
  | some guard =>
    obtain ⟨w, hw, rfl, hguard⟩ := hrest
    cases guard' with
    | none =>
      obtain rfl : rest' = _ := hrest'
      obtain ⟨rfl, -⟩ := List.cons.inj hsame
      exact absurd (hw.symm.trans (isWord_of_isArrow harrow')) (by decide)
    | some guard' =>
      obtain ⟨w', -, rfl, hguard'⟩ := hrest'
      rw [(List.cons.inj hsame).2] at hguard
      obtain ⟨rfl, hmore⟩ := cut_unique hguard hguard'
      rw [List.cons.injEq, List.cons.injEq] at hmore
      exact ⟨rfl, hmore.2.2⟩

/-- A row of tokens reaches to its first comma in one way. -/
theorem comma_unique {body body' rest rest' : List Tree} (hbody : ∀ v ∈ body, v.isPunct ',' = false)
    (hrest : ∀ v ∈ rest.head?, v.isPunct ',' = true)
    (hbody' : ∀ v ∈ body', v.isPunct ',' = false)
    (hrest' : ∀ v ∈ rest'.head?, v.isPunct ',' = true) (heq : body ++ rest = body' ++ rest') :
    body = body' ∧ rest = rest' := by
  induction body generalizing body' with
  | nil =>
    cases body' with
    | nil => exact ⟨rfl, heq⟩
    | cons v body' =>
      obtain rfl : rest = _ := heq
      exact absurd ((hrest v rfl).symm.trans (hbody' v List.mem_cons_self)) (by decide)
  | cons v body ih =>
    cases body' with
    | nil =>
      obtain rfl : v :: (body ++ rest) = rest' := heq
      exact absurd ((hrest' v rfl).symm.trans (hbody v List.mem_cons_self)) (by decide)
    | cons v' body' =>
      obtain ⟨rfl, hmore⟩ := List.cons.inj heq
      obtain ⟨rfl, hsame⟩ := ih (fun v hv => hbody v (List.mem_cons_of_mem _ hv))
        (fun v hv => hbody' v (List.mem_cons_of_mem _ hv)) hmore
      exact ⟨rfl, hsame⟩

/-- A body up to a comma does not begin with a group in curly brackets. -/
theorem not_brace_of_comma {body rest : List Tree} {g : Enclosed}
    (hbrace : body.head?.any (Tree.isGroup .brace) = false)
    (hrest : ∀ v ∈ rest.head?, v.isPunct ',' = true) : body ++ rest ≠ g.tree .brace :: ts := by
  intro heq
  cases body with
  | nil =>
    obtain rfl : rest = _ := heq
    exact absurd (hrest _ rfl) Bool.false_ne_true
  | cons v body =>
    obtain ⟨rfl, -⟩ := List.cons.inj heq
    exact absurd hbrace (by simp [Enclosed.tree, Tree.isGroup])

theorem length_withoutComma_le (ts : List Tree) : (withoutComma ts).length ≤ ts.length := by
  cases ts with
  | nil => exact le_rfl
  | cons t ts =>
    rw [withoutComma]
    split
    · exact Nat.le_succ _
    · exact le_rfl

/-- An arm takes a token. -/
theorem SpellsArm.length_lt {arm : ArmForm} {rest : List Tree} (h : SpellsArm arm ts rest) :
    rest.length < ts.length := by
  cases h with
  | @braces pattern head rest =>
    have hle := length_withoutComma_le rest
    simp only [List.length_append, List.length_cons]
    omega
  | @arrow pattern head body rest =>
    have hle := length_withoutComma_le rest
    simp only [List.length_append, List.length_cons]
    omega

theorem SpellsArm.ne_nil {arm : ArmForm} {rest : List Tree} (h : SpellsArm arm ts rest) :
    ts ≠ [] := by
  rintro rfl
  exact absurd h.length_lt (Nat.not_lt_zero _)

theorem SpellsArm.unique {arm arm' : ArmForm} {rest rest' : List Tree} (h : SpellsArm arm ts rest)
    (h' : SpellsArm arm' ts rest') : arm = arm' ∧ rest = rest' := by
  cases h with
  | @braces pattern head rest guard t u g hhead harrow =>
    generalize heq : head ++ t :: u :: g.tree .brace :: rest = us at h'
    cases h' with
    | braces hhead' harrow' =>
      obtain ⟨rfl, rfl, hmore⟩ := hhead.unique hhead' harrow harrow' heq
      obtain ⟨hg, rfl⟩ := List.cons.inj hmore
      obtain rfl := Enclosed.tree_inj hg
      exact ⟨rfl, rfl⟩
    | arrow hhead' harrow' hbrace _ hrest =>
      obtain ⟨-, -, hmore⟩ := hhead.unique hhead' harrow harrow' heq
      exact absurd hmore.symm (not_brace_of_comma hbrace hrest)
  | @arrow pattern head body rest guard t u hhead harrow hbrace hbody hrest =>
    generalize heq : head ++ t :: u :: (body ++ rest) = us at h'
    cases h' with
    | braces hhead' harrow' =>
      obtain ⟨-, -, hmore⟩ := hhead.unique hhead' harrow harrow' heq
      exact absurd hmore (not_brace_of_comma hbrace hrest)
    | arrow hhead' harrow' _ hbody' hrest' =>
      obtain ⟨rfl, rfl, hmore⟩ := hhead.unique hhead' harrow harrow' heq
      obtain ⟨rfl, rfl⟩ := comma_unique hbody hrest hbody' hrest' hmore
      exact ⟨rfl, rfl⟩

theorem SpellsArms.unique {arms arms' : List ArmForm} (h : SpellsArms arms ts)
    (h' : SpellsArms arms' ts) : arms = arms' := by
  induction h generalizing arms' with
  | nil =>
    cases h' with
    | nil => rfl
    | cons h => exact absurd rfl h.ne_nil
  | cons h _ ih =>
    cases h' with
    | nil => exact absurd rfl h.ne_nil
    | cons h' hrest' =>
      obtain ⟨rfl, rfl⟩ := h.unique h'
      rw [ih hrest']

/-- A condition reaches to the first arrow or group in curly brackets. -/
theorem IsCondition.takeUntil {test : List Tree} (h : IsCondition test)
    (hmore : (r.goOn more).peekArrow 0 = true ∨ more.head?.any (Tree.isGroup .brace) = true) :
    (r.goOn (test ++ more)).takeUntil .arrowOrBrace = (test, r.goOn more) :=
  (Region.takeUntil_arrowOrBrace_iff hmore).2 ⟨rfl, h.arrowFree, h.not_brace⟩

/-- The pattern of a loop reaches to the first word `in`. -/
theorem takeUntil_of_wordIn (hw : w.isWord "in" = true) (h : ∀ t ∈ pattern, t.isWord "in" = false)
    (more : List Tree) :
    (r.goOn (pattern ++ w :: more)).takeUntil .wordIn = (pattern, r.goOn (w :: more)) := by
  have hword : (w :: more).head?.any (Tree.isWord "in") = true := hw
  exact (Region.takeUntil_wordIn_iff hword).2 ⟨rfl, h⟩

/-- Where a join begins, the source of a loop ends if the join stands apart from it. -/
theorem SpellsJoin.ends_iff {source : List Tree} {between : Option Enclosed} {body : BodyForm}
    (h : SpellsJoin between more ts) (hsource : source ≠ []) (hbody : body.Spells ts) :
    Region.Stop.loopBody source.getLast? (r.goOn more) = true ↔
      (ControlForm.loop pattern source between body).Apart := by
  rw [Region.loopBody_goOn_iff]
  cases h with
  | none => exact iff_of_true (hbody.begins.imp_right .inl) trivial
  | @some w g ts hw =>
    -- a body begins with an arrow or a bracket, and `join` is neither, so only the point is in question
    have hnot : ¬ w.isArrow (g.tree .parenthesis) = true := fun h =>
      absurd (hw.symm.trans (isWord_of_isArrow h)) (by decide)
    have hbrace : ¬ w.isGroup .brace = true := by
      cases w with
      | leaf l => exact Bool.false_ne_true
      | group => exact absurd hw Bool.false_ne_true
    obtain ⟨t, ht⟩ := Option.ne_none_iff_exists'.1 (mt List.getLast?_eq_none_iff.1 hsource)
    rw [ControlForm.Apart, ht, Option.any_some]
    constructor
    · rintro (h | h | ⟨-, -, h⟩)
      · exact absurd h hnot
      · exact absurd h hbrace
      · rintro u ⟨⟩
        rwa [Bool.not_eq_true'] at h
    · intro h
      exact .inr (.inr ⟨hw, rfl, by rw [h t rfl, Bool.not_false]⟩)

/-- The source of a loop reaches to what comes after it, if a join stands apart from it. -/
theorem SpellsJoin.takeUntil {source : List Tree} {between : Option Enclosed} {body : BodyForm}
    (h : SpellsJoin between more ts) (hsource : IsCondition source) (hfree : JoinFree source)
    (hbody : body.Spells ts) (hapart : (ControlForm.loop pattern source between body).Apart) :
    (r.goOn (source ++ more)).takeUntil .loopBody = (source, r.goOn more) :=
  (Region.takeUntil_loopBody_iff ((h.ends_iff hsource.ne_nil hbody).2 hapart)).2
    ⟨rfl, hsource.arrowFree, hsource.not_brace, hfree⟩

/-- No body begins with a word. -/
theorem BodyForm.Spells.not_word {body : BodyForm} {s : String} (h : body.Spells ts) :
    ts.head?.any (Tree.isWord s) = false := by
  cases h with
  | arrow harrow => exact isWord_of_isArrow harrow
  | braces => rfl

theorem SpellsJoin.ne_nil {between : Option Enclosed} {body : BodyForm}
    (h : SpellsJoin between more ts) (hbody : body.Spells ts) : more ≠ [] := by
  cases h with
  | none => exact hbody.ne_nil
  | some => exact List.cons_ne_nil _ _

theorem SpellsJoin.unique {between between' : Option Enclosed} {ts' : List Tree}
    {body body' : BodyForm} (h : SpellsJoin between more ts) (hbody : body.Spells ts)
    (h' : SpellsJoin between' more ts') (hbody' : body'.Spells ts') :
    between = between' ∧ ts = ts' := by
  cases h with
  | none =>
    cases h' with
    | none => exact ⟨rfl, rfl⟩
    | some hw => exact absurd (hw.symm.trans hbody.not_word) (by decide)
  | some hw =>
    generalize heq : _ :: _ :: _ = more at h'
    cases h' with
    | none =>
      subst heq
      exact absurd (hw.symm.trans hbody'.not_word) (by decide)
    | some hw' =>
      rw [List.cons.injEq, List.cons.injEq] at heq
      exact ⟨congrArg _ (Enclosed.tree_inj heq.2.1), heq.2.2⟩

namespace ControlForm

variable {form form' : ControlForm}

/-- What begins with one word does not begin with another one. -/
theorem word_unique {a b : String} (h : t.isWord a = true) (h' : t'.isWord b = true)
    (heq : t :: ts = t' :: more) : a = b := by
  obtain ⟨rfl, -⟩ := List.cons.inj heq
  cases t with
  | leaf l =>
    rw [Tree.isWord, Bool.and_eq_true, beq_iff_eq, beq_iff_eq] at h h'
    exact h.2.symm.trans h'.2
  | group d children span => exact absurd h Bool.false_ne_true

/-- **A row of tokens splits into the parts of a control construct in one way.** -/
theorem Splits.unique (h : form.Splits ts) (h' : form'.Splits ts) : form = form' := by
  obtain ⟨h, hapart⟩ := h
  obtain ⟨h', hapart'⟩ := h'
  -- the first word tells which construct it is; then both are cut at the same places, from the left
  cases h with
  | @choice w test ts yes hw htest hyes =>
    generalize heq : w :: (test ++ ts) = us at h'
    cases h' with
    | choice _ htest' hyes' =>
      have hcut := htest.takeUntil (r := default) hyes.begins
      rw [(List.cons.inj heq).2] at hcut
      obtain ⟨rfl, rfl⟩ := cut_unique hcut (htest'.takeUntil hyes'.begins)
      rw [hyes.unique hyes']
    | @both _ v test' yes' no' _ htest' hv =>
      have hcut := htest.takeUntil (r := default) hyes.begins
      rw [(List.cons.inj heq).2] at hcut
      obtain ⟨rfl, rfl⟩ := cut_unique hcut (htest'.takeUntil (.inr rfl))
      exact absurd hyes not_spells_more
    | loop hw' | dispatch hw' | scope hw' => exact absurd (word_unique hw hw' heq) (by decide)
  | @both w v test yes no hw htest hv =>
    generalize heq : w :: (test ++ [yes.tree .brace, v, no.tree .brace]) = us at h'
    have hcut : ((default : Region).goOn (test ++ [yes.tree .brace, v, no.tree .brace])).takeUntil
        .arrowOrBrace = _ := htest.takeUntil (.inr rfl)
    cases h' with
    | choice _ htest' hyes' =>
      rw [(List.cons.inj heq).2] at hcut
      obtain ⟨rfl, rfl⟩ := cut_unique hcut (htest'.takeUntil hyes'.begins)
      exact absurd hyes' not_spells_more
    | both _ htest' _ =>
      rw [(List.cons.inj heq).2] at hcut
      obtain ⟨rfl, hmore⟩ := cut_unique hcut (htest'.takeUntil (.inr rfl))
      simp only [List.cons.injEq, and_true] at hmore
      rw [Enclosed.tree_inj hmore.1, Enclosed.tree_inj hmore.2.2]
    | loop hw' | dispatch hw' | scope hw' => exact absurd (word_unique hw hw' heq) (by decide)
  | @loop w v pattern source more ts between body hw hpattern hin hv hsource hfree hjoin hbody =>
    generalize heq : w :: (pattern ++ v :: (source ++ more)) = us at h'
    cases h' with
    | loop _ _ hin' hv' hsource' hfree' hjoin' hbody' =>
      -- up to the second word, then up to the join or the body, and then the body
      have hcut := takeUntil_of_wordIn (r := default) hv hin (source ++ more)
      rw [(List.cons.inj heq).2] at hcut
      obtain ⟨rfl, hmore⟩ := cut_unique hcut (takeUntil_of_wordIn hv' hin' _)
      have hcut := hjoin.takeUntil (r := default) hsource hfree hbody hapart
      rw [(List.cons.inj hmore).2] at hcut
      obtain ⟨rfl, rfl⟩ := cut_unique hcut (hjoin'.takeUntil hsource' hfree' hbody' hapart')
      obtain ⟨rfl, rfl⟩ := hjoin.unique hbody hjoin' hbody'
      rw [hbody.unique hbody']
    | choice hw' | both hw' | dispatch hw' | scope hw' =>
      exact absurd (word_unique hw hw' heq) (by decide)
  | @dispatch w subject block arms hw hsubject harms =>
    generalize heq : w :: (subject ++ [block.tree .brace]) = us at h'
    cases h' with
    | dispatch _ _ harms' =>
      -- the block is the last token, so nothing has to be cut
      obtain ⟨rfl, hblock⟩ := List.append_inj' (List.cons.inj heq).2 rfl
      obtain rfl := Enclosed.tree_inj (List.singleton_inj.1 hblock)
      rw [harms.unique harms']
    | choice hw' | both hw' | loop hw' | scope hw' =>
      exact absurd (word_unique hw hw' heq) (by decide)
  | @scope w l ts body hw hl hbody =>
    generalize heq : w :: .leaf l :: ts = us at h'
    cases h' with
    | scope _ _ hbody' =>
      rw [List.cons.injEq, List.cons.injEq, Tree.leaf.injEq] at heq
      obtain ⟨-, rfl, rfl⟩ := heq
      rw [hbody.unique hbody']
    | choice hw' | both hw' | loop hw' | dispatch hw' =>
      exact absurd (word_unique hw hw' heq) (by decide)

end ControlForm

end Unique

end TokenTemplate
