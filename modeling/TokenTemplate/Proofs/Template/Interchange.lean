import TokenTemplate.Proofs.Respacing.Routine
import TokenTemplate.Proofs.Respacing.Verbatim

/-!
# Bodies after an arrow and bodies in brackets

The body of a control construct may be written after an arrow or in curly brackets, and so may that of
an arm. The two are read in different ways: the one is all that is left, or reaches to a comma, and the
other is the inside of a group. But it makes no difference which of them is chosen, as long as the
tokens of the body are the same text, `TokenTemplate.Interchanged`: the template is compiled in both
cases or in neither, and to the same routine apart from places
(`TokenTemplate.Routine.ofSource_interchanged`). Neither does it make a difference what white space
there is at the two ends of a body.

For, what stands before the body tells where it begins (`TokenTemplate.IsHead.exists_alike`), and an arm
is written in one way only, so each part of the one construct is found again in the other.
-/

namespace TokenTemplate

/-! ### Before the body -/

/-- **What stands before the body of a control construct**, up to its arrow or bracket. -/
inductive IsHead : List Tree → Prop
  /-- Of a choice: a condition. -/
  | choice {w : Tree} {test : List Tree} (hw : w.isWord "if" = true) (htest : IsCondition test) :
      IsHead (w :: test)
  /-- Of a loop: a pattern, and after the word `in` a source, perhaps with a join after it. -/
  | loop {w v : Tree} {pattern more : List Tree} (hw : w.isWord "for" = true)
      (hin : ∀ t ∈ pattern, t.isWord "in" = false) (hv : v.isWord "in" = true)
      (hmore : IsCondition more) : IsHead (w :: (pattern ++ v :: more))
  /-- Of a body under a name. -/
  | scope {w : Tree} {l : Leaf} (hw : w.isWord "ref" = true) (hl : l.kind = .name) :
      IsHead [w, .leaf l]

/-- **How the first arms of a match are written**, and what is left after them. -/
inductive SpellsArmsTo : List ArmForm → List Tree → List Tree → Prop
  /-- There are no more that matter. -/
  | nil {ts : List Tree} : SpellsArmsTo [] ts ts
  /-- An arm, and those after it. -/
  | cons {arm : ArmForm} {arms : List ArmForm} {ts us rest : List Tree} (h : SpellsArm arm ts us)
      (hrest : SpellsArmsTo arms us rest) : SpellsArmsTo (arm :: arms) ts rest

/-- **Arms that are the same apart from how their bodies are written.** -/
structure ArmForm.SameText (source source' : List Char) (arm arm' : ArmForm) : Prop where
  /-- The pattern is the same. -/
  pattern : Tree.SameText source source' arm.pattern arm'.pattern
  /-- So is the guard, if there is one. -/
  guard : arm.guard.Rel (Tree.SameText source source') arm'.guard
  /-- So is the inside of the body. -/
  body : Tree.SameText source source' arm.body.tokens arm'.body.tokens

/-- **Control constructs that are the same apart from how their bodies are written**, after an arrow or
in brackets. -/
inductive Interchanged (source source' : List Char) : List Tree → List Tree → Prop
  /-- A body after the same head. -/
  | head {hs hs' ts ts' : List Tree} {body body' : BodyForm} (hhead : IsHead hs)
      (hsame : Tree.SameText source source' hs hs') (hbody : body.Spells ts)
      (hbody' : body'.Spells ts')
      (htokens : Tree.SameText source source' body.tokens body'.tokens) :
      Interchanged source source' (hs ++ ts) (hs' ++ ts')
  /-- The bodies of some arms, with the same text before the arms and after them. -/
  | arms {w w' : Tree} {subject subject' rest rest' : List Tree} {block block' : Enclosed}
      {arms arms' : List ArmForm} (hw : w.isWord "match" = true) (hw' : w'.isWord "match" = true)
      (hsubject : Tree.SameText source source' subject subject')
      (harms : SpellsArmsTo arms block.children rest)
      (harms' : SpellsArmsTo arms' block'.children rest')
      (hsame : arms.Forall₂ (ArmForm.SameText source source') arms')
      (hrest : Tree.SameText source source' rest rest') :
      Interchanged source source' (w :: (subject ++ [block.tree .brace]))
        (w' :: (subject' ++ [block'.tree .brace]))

theorem ArmForm.SameText.symm {source source' : List Char} {arm arm' : ArmForm}
    (h : SameText source source' arm arm') : SameText source' source arm' arm := by
  obtain ⟨pattern, guard, body⟩ := arm
  obtain ⟨pattern', guard', body'⟩ := arm'
  obtain ⟨hpattern, hguard, hbody⟩ := h
  refine ⟨hpattern.symm, ?_, hbody.symm⟩
  cases hguard with
  | none => exact .none
  | some hguard => exact .some hguard.symm

/-! ### Heads -/

section Heads

variable {ρ : Respacing} {w v : Tree} {hs hs' ts ts' more source after pattern : List Tree}
  {between : Option Enclosed} {body body' : BodyForm} {form : ControlForm}

/-- What comes after the source of a loop, apart from the body. -/
theorem SpellsJoin.exists_joined (h : SpellsJoin between after ts) :
    ∃ joined, after = joined ++ ts ∧ SpellsJoin between joined [] := by
  cases h with
  | none => exact ⟨[], rfl, .none⟩
  | some hw => exact ⟨[_, _], rfl, .some hw⟩

theorem SpellsJoin.append (h : SpellsJoin between more []) (ts : List Tree) :
    SpellsJoin between (more ++ ts) ts := by
  cases h with
  | none => exact .none
  | some hw => exact .some hw

/-- With a join after it, the source of a loop is free of arrows and brackets as before. -/
theorem IsCondition.append_join (hsource : IsCondition source) (h : SpellsJoin between more []) :
    IsCondition (source ++ more) := by
  cases h with
  | none => rwa [List.append_nil]
  | @some w g _ hw =>
    have hnot (t u : Tree) (h : t.isWord "join" = true ∨ u.isWord "join" = true) :
        t.isArrow u = false := by
      rw [Bool.eq_false_iff]
      intro harrow
      rcases h with h | h
      · exact absurd (h.symm.trans (isWord_of_isArrow harrow)) (by decide)
      · rw [Tree.isArrow, Bool.and_eq_true, Bool.and_eq_true] at harrow
        cases u with
        | leaf l =>
          rw [Tree.isWord, Bool.and_eq_true, beq_iff_eq] at h
          exact absurd (harrow.1.2.symm.trans (isPunct_of_name h.1 '>')) (by decide)
        | group d children span => exact absurd h Bool.false_ne_true
    have hbrace : w.isGroup .brace = false := by
      cases w with
      | leaf l => rfl
      | group d children span => exact absurd hw Bool.false_ne_true
    refine ⟨List.append_ne_nil_of_left_ne_nil hsource.ne_nil _, ?_, ?_⟩
    · rw [ArrowFree, List.isChain_append]
      refine ⟨hsource.arrowFree, .cons_cons (hnot _ _ (.inl hw)) (.singleton _), ?_⟩
      rintro t - u hu
      obtain rfl : w = u := Option.some.inj hu
      exact hnot _ _ (.inr hw)
    · exact List.forall_mem_append.2 ⟨hsource.not_brace, List.forall_mem_cons.2
        ⟨hbrace, List.forall_mem_singleton.2 rfl⟩⟩

/-- **Where the body of a loop begins** is seen without knowing where its source ends. -/
theorem exists_joined_of_append (hmore : IsCondition more) (hbody : body.Spells ts)
    (hsource : IsCondition source) (hjoin : SpellsJoin between after ts') (hbody' : body'.Spells ts')
    (heq : more ++ ts = source ++ after) :
    ∃ joined, more = source ++ joined ∧ SpellsJoin between joined [] ∧ body = body' := by
  obtain ⟨joined, rfl, hjoined⟩ := hjoin.exists_joined
  have hcut := hmore.takeUntil (r := default) hbody.begins
  rw [heq, ← List.append_assoc] at hcut
  obtain ⟨rfl, rfl⟩ :=
    cut_unique hcut ((hsource.append_join hjoined).takeUntil hbody'.begins)
  exact ⟨joined, rfl, hjoined, hbody.unique hbody'⟩

/-- **The head of a loop before its body** splits in one way: the pattern reaches to the first `in`, and
then it is known where the body begins. -/
theorem exists_loop_of_splits {v : Tree} {pattern : List Tree} {form : ControlForm}
    (hw : w.isWord "for" = true) (hin : ∀ t ∈ pattern, t.isWord "in" = false)
    (hv : v.isWord "in" = true) (hmore : IsCondition more) (hbody : body.Spells ts)
    (h : form.Splits (w :: (pattern ++ v :: more) ++ ts)) :
    ∃ source between joined, form = .loop pattern source between body ∧ pattern ≠ [] ∧
      more = source ++ joined ∧ IsCondition source ∧ JoinFree source ∧
      SpellsJoin between joined [] ∧ form.Apart := by
  obtain ⟨hspells, hapart⟩ := h
  generalize heq : w :: (pattern ++ v :: more) ++ ts = us at hspells
  rw [List.cons_append, List.append_assoc, List.cons_append] at heq
  cases hspells with
  | choice hw' | both hw' | dispatch hw' | scope hw' =>
    exact absurd (ControlForm.word_unique hw hw' heq) (by decide)
  | @loop _ _ _ source _ _ between _ _ hpattern hin' hv' hsource hfree hjoin hbody' =>
    have hcut := takeUntil_of_wordIn (r := default) hv hin (more ++ ts)
    rw [(List.cons.inj heq).2] at hcut
    obtain ⟨rfl, hsplit⟩ := cut_unique hcut (takeUntil_of_wordIn hv' hin' _)
    obtain ⟨joined, rfl, hjoined, rfl⟩ :=
      exists_joined_of_append hmore hbody hsource hjoin hbody' (List.cons.inj hsplit).2
    exact ⟨source, between, joined, rfl, hpattern, rfl, hsource, hfree, hjoined, hapart⟩

theorem Respacing.Rows.word {s : String} (h : ρ.Rows (w :: ts) hs') (hw : w.isWord s = true) :
    ∃ w' ts', hs' = w' :: ts' ∧ w'.isWord s = true ∧ ρ.Rows ts ts' := by
  obtain ⟨w', ts', rfl, hshape, -, hrest⟩ := h.cons_inv
  exact ⟨w', ts', rfl, ((Tree.isShaped_isWord s).eq_of_shape_eq hshape).trans hw, hrest⟩

/-- A name and nothing after it. -/
theorem Respacing.Rows.name {l : Leaf} (h : ρ.Rows [.leaf l] hs') :
    ∃ l', hs' = [.leaf l'] ∧ l'.kind = l.kind ∧ l'.text = l.text := by
  obtain ⟨i, i', j, j', h⟩ := h
  obtain ⟨t', ts', a, a', b, b', rfl, -, ht, hrest⟩ := h.head
  obtain ⟨rfl, -⟩ := hrest.nil_inv
  obtain ⟨l', rfl, hkind, htext⟩ := ht.leaf_inv
  exact ⟨l', rfl, hkind, htext⟩

/-- A head has the same parts in both texts. -/
theorem IsHead.of_rows (h : IsHead hs) (hrows : ρ.Rows hs hs') : IsHead hs' := by
  cases h with
  | choice hw htest =>
    obtain ⟨w', test', rfl, hw', hrows⟩ := hrows.word hw
    exact .choice hw' (hrows.isCondition htest)
  | loop hw hin hv hmore =>
    obtain ⟨w', us', rfl, hw', hrows⟩ := hrows.word hw
    obtain ⟨pattern', vs', rfl, hpattern, hrows⟩ := hrows.append_inv
    obtain ⟨v', more', rfl, hv', hrows⟩ := hrows.word hv
    exact .loop hw' (hpattern.forall_eq_false (Tree.isShaped_isWord "in") hin) hv'
      (hrows.isCondition hmore)
  | scope hw hl =>
    obtain ⟨w', us', rfl, hw', hrows⟩ := hrows.word hw
    obtain ⟨l', rfl, hkind, -⟩ := hrows.name
    exact .scope hw' (hkind.trans hl)

theorem IsHead.head (h : IsHead hs) (ts : List Tree) :
    ∃ s ∈ ["if", "for", "match", "ref"], (hs ++ ts).head?.any (Tree.isWord s) = true := by
  cases h with
  | choice hw => exact ⟨"if", by decide, hw⟩
  | loop hw => exact ⟨"for", by decide, hw⟩
  | scope hw => exact ⟨"ref", by decide, hw⟩

/-- What goes between the items of a loop stands in brackets in both texts. -/
theorem Respacing.Rows.spellsJoin (hrows : ρ.Rows more hs') (h : SpellsJoin between more []) :
    ∃ between', SpellsJoin between' hs' [] ∧
      between.Rel (fun g g' => ρ.Rows [g.tree .parenthesis] [g'.tree .parenthesis]) between' := by
  cases h with
  | none =>
    obtain rfl := hrows.nil_inv
    exact ⟨none, .none, .none⟩
  | some hw =>
    obtain ⟨w', us', rfl, hw', hrows⟩ := hrows.word hw
    obtain ⟨i, i', j, j', hrow⟩ := hrows
    obtain ⟨t', ts', a, a', b, b', rfl, -, ht, hrest⟩ := hrow.head
    obtain ⟨rfl, -⟩ := hrest.nil_inv
    obtain ⟨children', span', c, c', rfl, -⟩ := ht.group_inv
    exact ⟨some ⟨children', span'⟩, .some hw', .some ⟨i, i', j, j', hrow⟩⟩

/-- The parts of a loop stand apart in both texts or in none. -/
theorem apart_of_rows {pattern' source' : List Tree} {between' : Option Enclosed}
    (hrows : ρ.Rows source source') {R : Enclosed → Enclosed → Prop} (hbetween : between.Rel R between')
    (h : (ControlForm.loop pattern source between body).Apart) :
    (ControlForm.loop pattern' source' between' body').Apart := by
  cases hbetween with
  | none => trivial
  | some =>
    have hshapes := congrArg List.getLast? hrows.allShapes_eq
    rw [Tree.allShapes_eq_map, Tree.allShapes_eq_map, List.getLast?_map, List.getLast?_map] at hshapes
    intro t' ht'
    rw [Option.mem_def] at ht'
    rw [ht', Option.map_some] at hshapes
    obtain ⟨t, ht, hshape⟩ := Option.map_eq_some_iff.1 hshapes.symm
    rw [(Tree.isShaped_isPunct '.').eq_of_shape_eq hshape.symm]
    exact h t ht

end Heads

/-- Which of two templates has the one body and which has the other does not matter. -/
theorem Interchanged.symm {source source' : List Char} {ts ts' : List Tree}
    (h : Interchanged source source' ts ts') (hts : Filled source ts) (hts' : Filled source' ts') :
    Interchanged source' source ts' ts := by
  cases h with
  | head hhead hsame hbody hbody' htokens =>
    exact .head (hhead.of_rows (Respacing.rows_of_sameText hts.left hts'.left hsame)) hsame.symm
      hbody' hbody htokens.symm
  | arms hw hw' hsubject harms harms' hsame hrest =>
    exact .arms hw' hw hsubject.symm harms' harms
      (hsame.flip.imp fun _ _ => ArmForm.SameText.symm) hrest.symm

/-! ### What stands for the same -/

theorem Filled.withoutComma {source : List Char} {ts : List Tree} (h : Filled source ts) :
    Filled source (withoutComma ts) := by
  cases ts with
  | nil => exact h
  | cons t ts =>
    rw [TokenTemplate.withoutComma]
    split
    · exact h.tail
    · exact h

/-- The parts of an arm stand where the arm does. -/
theorem SpellsArm.filled {source : List Char} {arm : ArmForm} {ts rest : List Tree}
    (h : SpellsArm arm ts rest) (hts : Filled source ts) :
    Filled source arm.pattern ∧ (∀ g ∈ arm.guard, Filled source g) ∧
      Filled source arm.body.tokens ∧ Filled source rest := by
  -- the pattern and the guard stand before the arrow, the guard behind its word
  have hparts {pattern head : List Tree} {guard : Option (List Tree)}
      (hhead : SpellsPattern pattern guard head) (hfilled : Filled source head) :
      Filled source pattern ∧ ∀ g ∈ guard, Filled source g := by
    cases hhead with
    | plain => exact ⟨hfilled, nofun⟩
    | @guarded guard w =>
      refine ⟨hfilled.left, ?_⟩
      rintro _ ⟨⟩
      exact hfilled.right.tail
  cases h with
  | @braces pattern head rest guard t u g hhead =>
    have hbody : Filled source (g.tree .brace :: rest) := hts.right.tail.tail
    exact ⟨(hparts hhead hts.left).1, (hparts hhead hts.left).2, hbody.children,
      hbody.tail.withoutComma⟩
  | @arrow pattern head body rest guard t u hhead =>
    have hbody : Filled source (body ++ rest) := hts.right.tail.tail
    exact ⟨(hparts hhead hts.left).1, (hparts hhead hts.left).2, hbody.left,
      hbody.right.withoutComma⟩

/-- The parts of arms that are rows in both texts, whichever way their bodies are written. -/
def Respacing.ArmRows (ρ : Respacing) (arm arm' : ArmForm) : Prop :=
  ρ.Rows arm.pattern arm'.pattern ∧ arm.guard.Rel ρ.Rows arm'.guard ∧
    ρ.Rows arm.body.tokens arm'.body.tokens

/-- Arms with the same text are rows in both texts, and so is what stands after them. -/
theorem SpellsArmsTo.armRows {source source' : List Char} {arms arms' : List ArmForm}
    {ts ts' rest rest' : List Tree} (h : SpellsArmsTo arms ts rest)
    (h' : SpellsArmsTo arms' ts' rest') (hts : Filled source ts) (hts' : Filled source' ts')
    (hsame : arms.Forall₂ (ArmForm.SameText source source') arms') :
    arms.Forall₂ (Respacing.verbatim source source').ArmRows arms' ∧ Filled source rest ∧
      Filled source' rest' := by
  induction hsame generalizing ts ts' with
  | nil =>
    cases h
    cases h'
    exact ⟨.nil, hts, hts'⟩
  | @cons arm arm' _ _ harms _ ih =>
    cases h with
    | cons harm hmore =>
      cases h' with
      | cons harm' hmore' =>
        obtain ⟨hpattern, hguard, hbody, hts⟩ := harm.filled hts
        obtain ⟨hpattern', hguard', hbody', hts'⟩ := harm'.filled hts'
        obtain ⟨hall, hrest, hrest'⟩ := ih hmore hmore' hts hts'
        -- both arms have a guard, or none has
        have hguards : arm.guard.Rel (Respacing.verbatim source source').Rows arm'.guard := by
          have hsame := harms.guard
          generalize arm.guard = guard at hsame hguard ⊢
          generalize arm'.guard = guard' at hsame hguard' ⊢
          cases hsame with
          | none => exact .none
          | some hsame =>
            exact .some (Respacing.rows_of_sameText (hguard _ rfl) (hguard' _ rfl) hsame)
        exact ⟨.cons ⟨Respacing.rows_of_sameText hpattern hpattern' harms.pattern, hguards,
          Respacing.rows_of_sameText hbody hbody' harms.body⟩ hall, hrest, hrest'⟩

section Alike

variable {ρ : Respacing} {bodies bodies' : Bodies} {r r' : Region} {w w' : Tree}
  {hs hs' ts ts' rest rest' : List Tree} {body body' : BodyForm} {form : ControlForm} {node : Node}
  (hbodies : ρ.KeepsBodies bodies bodies') (hregular : bodies'.Regular) (hscopes : ρ.Scopes r r')

include hbodies hregular hscopes

/-- **A construct with another body** of the same text, after the same head, stands for the same. -/
theorem IsHead.exists_alike (hhead : IsHead hs) (hrows : ρ.Rows hs hs') (hbody : body.Spells ts)
    (hbody' : body'.Spells ts') (htokens : ρ.Rows body.tokens body'.tokens)
    (hform : form.Splits (hs ++ ts)) (hmeans : form.Means bodies r node) :
    ∃ (form' : ControlForm) (node' : Node), form'.Splits (hs' ++ ts') ∧
      form'.Means bodies' r' node' ∧ node.Alike node' := by
  cases hhead with
  | @choice w test hw htest =>
    obtain rfl : form = .choice test body none :=
      hform.unique ⟨.choice hw htest hbody, trivial⟩
    obtain ⟨w', test', rfl, hw', hrows⟩ := hrows.word hw
    cases hmeans with
    | choice hexpr hyes hno =>
      cases hno
      obtain ⟨e', hexpr', hebare⟩ := hscopes.exists_expression hrows hexpr
      obtain ⟨yes', hyes', hbare⟩ := hscopes.exists_body hbodies hregular htokens hyes
      refine ⟨.choice test' body' none, _, ⟨.choice hw' (hrows.isCondition htest) hbody', trivial⟩,
        .choice hexpr' hyes' .none, .of_instruction (fun _ => rfl) (fun _ => rfl) ?_ trivial trivial⟩
      rw [Instruction.bare, Instruction.bare, hebare, hbare]
  | @loop w v pattern more hw hin hv hmore =>
    obtain ⟨source, between, joined, rfl, hpattern, rfl, hsource, hfree, hjoined, hapart⟩ :=
      exists_loop_of_splits hw hin hv hmore hbody hform
    obtain ⟨w', us', rfl, hw', hrows⟩ := hrows.word hw
    obtain ⟨pattern', vs', rfl, hprows, hrows⟩ := hrows.append_inv
    obtain ⟨v', more', rfl, hv', hrows⟩ := hrows.word hv
    obtain ⟨source', joined', rfl, hsrows, hrows⟩ := hrows.append_inv
    obtain ⟨between', hjoined', hbetween⟩ := hrows.spellsJoin hjoined
    cases hmeans with
    | loop htests hexpr hbmeans hbody =>
      obtain ⟨c', htests', hcbare⟩ := hscopes.exists_case hprows .none htests
      obtain ⟨e', hexpr', hebare⟩ := hscopes.exists_expression hsrows hexpr
      obtain ⟨join', hbmeans', hjbare⟩ := hscopes.exists_between hbodies hregular hbetween hbmeans
      obtain ⟨routine', hmeans', hbare⟩ := hscopes.exists_body hbodies hregular htokens hbody
      refine ⟨.loop pattern' source' between' body', _, ⟨?_, apart_of_rows hsrows hbetween hapart⟩,
        .loop htests' hexpr' hbmeans' hmeans',
        .of_instruction (fun _ => rfl) (fun _ => rfl) ?_ trivial trivial⟩
      · rw [List.cons_append, List.append_assoc, List.cons_append, List.append_assoc]
        exact .loop hw' (hprows.ne_nil hpattern)
          (hprows.forall_eq_false (Tree.isShaped_isWord "in") hin) hv'
          (hsrows.isCondition hsource) (hsrows.joinFree hfree) (hjoined'.append ts') hbody'
      · rw [Instruction.bare, Instruction.bare, hcbare, hebare, hjbare, hbare]
  | @scope w l hw hl =>
    obtain rfl : form = .scope l body := hform.unique ⟨.scope hw hl hbody, trivial⟩
    obtain ⟨w', us', rfl, hw', hrows⟩ := hrows.word hw
    obtain ⟨l', rfl, hkind, htext⟩ := hrows.name
    cases hmeans with
    | scope hbody =>
      obtain ⟨routine', hmeans', hbare⟩ := hscopes.exists_body hbodies hregular htokens hbody
      refine ⟨.scope l' body', _, ⟨.scope hw' (hkind.trans hl) hbody', trivial⟩, .scope hmeans',
        .of_instruction (fun _ => rfl) (fun _ => rfl) ?_ trivial trivial⟩
      rw [Instruction.bare, Instruction.bare, htext, hbare]

/-- Arms that are the same stand for the same. -/
theorem exists_arms_of_rows {forms : List ArmForm} {arms : List Arm} (hregular₁ : bodies.Regular)
    (hrows : ρ.Rows ts ts') (hspells : SpellsArms forms ts)
    (hmeans : forms.Forall₂ (ArmForm.Means bodies r) arms) :
    ∃ forms' arms', SpellsArms forms' ts' ∧ forms'.Forall₂ (ArmForm.Means bodies' r') arms' ∧
      Routine.bareArms (arms'.map Arm.pair) = Routine.bareArms (arms.map Arm.pair) := by
  obtain ⟨i, i', j, j', hrow⟩ := hrows
  have hall := (Construct.arms_goOn_iff hregular₁ le_rfl).2 ⟨forms, hspells, hmeans⟩
  have hregions : ρ.Regions i i' (r.goOn ts) (r'.goOn ts') j j' :=
    (hscopes.goOn ts ts').regions hrow
  obtain ⟨arms', hall', hbare⟩ :=
    Respacing.exists_arms hbodies hall hregions fun s _ => hscopes.keeps s
  obtain ⟨forms', hspells', hmeans'⟩ :=
    (Construct.arms_goOn_iff hregular hrow.length_eq.le).1 hall'
  exact ⟨forms', arms', hspells', hmeans', hbare⟩

/-- **Arms with other bodies** of the same text, before the same arms, stand for the same. -/
theorem SpellsArmsTo.exists_alike {firsts firsts' forms : List ArmForm} {arms : List Arm}
    (hregular₁ : bodies.Regular) (hsame : firsts.Forall₂ ρ.ArmRows firsts')
    (hfirsts : SpellsArmsTo firsts ts rest) (hfirsts' : SpellsArmsTo firsts' ts' rest')
    (hrest : ρ.Rows rest rest') (hspells : SpellsArms forms ts)
    (hmeans : forms.Forall₂ (ArmForm.Means bodies r) arms) :
    ∃ forms' arms', SpellsArms forms' ts' ∧ forms'.Forall₂ (ArmForm.Means bodies' r') arms' ∧
      Routine.bareArms (arms'.map Arm.pair) = Routine.bareArms (arms.map Arm.pair) := by
  induction hsame generalizing ts ts' forms arms with
  | nil =>
    cases hfirsts
    cases hfirsts'
    exact exists_arms_of_rows hbodies hregular hscopes hregular₁ hrest hspells hmeans
  | cons harms _ ih =>
    obtain ⟨hpattern, hguard, htokens⟩ := harms
    cases hfirsts with
    | cons harm hmore =>
      cases hfirsts' with
      | cons harm' hmore' =>
        cases hspells with
        | nil => exact absurd rfl harm.ne_nil
        | cons harm₁ hspells =>
          obtain ⟨rfl, rfl⟩ := harm.unique harm₁
          cases hmeans with
          | cons hform hmeans =>
            obtain ⟨c', htests', hcbare⟩ := hscopes.exists_case hpattern hguard hform.pattern
            obtain ⟨body', hbody', hbare⟩ :=
              hscopes.exists_body hbodies hregular htokens hform.body
            obtain ⟨forms', arms', hspells', hmeans', hrbare⟩ := ih hmore hmore' hspells hmeans
            refine ⟨_ :: forms', ⟨c', body'⟩ :: arms', .cons harm' hspells',
              .cons ⟨htests', hbody'⟩ hmeans', ?_⟩
            rw [List.map_cons, List.map_cons, Arm.pair, Arm.pair, Routine.bareArms, Routine.bareArms,
              hrbare, hcbare, hbare]

/-- **A match with other bodies** of the same text in its arms stands for the same. -/
theorem exists_alike_of_arms {subject subject' : List Tree} {block block' : Enclosed}
    {firsts firsts' : List ArmForm} (hregular₁ : bodies.Regular) (hw : w.isWord "match" = true)
    (hw' : w'.isWord "match" = true) (hsubject : ρ.Rows subject subject')
    (hfirsts : SpellsArmsTo firsts block.children rest)
    (hfirsts' : SpellsArmsTo firsts' block'.children rest')
    (hsame : firsts.Forall₂ ρ.ArmRows firsts') (hrest : ρ.Rows rest rest')
    (hform : form.Splits (w :: (subject ++ [block.tree .brace]))) (hmeans : form.Means bodies r node) :
    ∃ (form' : ControlForm) (node' : Node),
      form'.Splits (w' :: (subject' ++ [block'.tree .brace])) ∧
        form'.Means bodies' r' node' ∧ node.Alike node' := by
  obtain ⟨hspells, -⟩ := hform
  generalize heq : w :: (subject ++ [block.tree .brace]) = us at hspells
  cases hspells with
  | choice hw₁ | both hw₁ | loop hw₁ | scope hw₁ =>
    exact absurd (ControlForm.word_unique hw hw₁ heq) (by decide)
  | dispatch _ hne hspells =>
    obtain ⟨rfl, hblock⟩ := List.append_inj' (List.cons.inj heq).2 rfl
    obtain rfl := Enclosed.tree_inj (List.singleton_inj.1 hblock)
    cases hmeans with
    | dispatch hexpr hmeans =>
      obtain ⟨e', hexpr', hebare⟩ := hscopes.exists_expression hsubject hexpr
      obtain ⟨forms', arms', hspells', hmeans', hbare⟩ :=
        SpellsArmsTo.exists_alike hbodies hregular (hscopes.inside _ block'.children _ block'.span)
          hregular₁ hsame hfirsts hfirsts' hrest hspells hmeans
      refine ⟨.dispatch subject' block' forms', _, ⟨.dispatch hw' (hsubject.ne_nil hne) hspells',
        trivial⟩, .dispatch hexpr' hmeans',
        .of_instruction (fun _ => rfl) (fun _ => rfl) ?_ trivial trivial⟩
      rw [Instruction.bare, Instruction.bare, hebare]
      exact congrArg _ hbare

omit hbodies hregular hscopes in
/-- A construct begins with its word. -/
theorem Interchanged.head_isWord {source source' : List Char} (h : Interchanged source source' ts ts') :
    ∃ s ∈ ["if", "for", "match", "ref"], ts.head?.any (Tree.isWord s) = true := by
  cases h with
  | head hhead => exact hhead.head _
  | arms hw => exact ⟨"match", by decide, hw⟩

omit hbodies hscopes in
/-- **A construct with other bodies** of the same text stands for the same. -/
theorem Interchanged.exists_alike {source source' : List Char}
    (h : Interchanged source source' ts ts') (hts : Filled source ts) (hts' : Filled source' ts')
    (hbodies : (Respacing.verbatim source source').KeepsBodies bodies bodies')
    (hregular₁ : bodies.Regular) (hscopes : (Respacing.verbatim source source').Scopes r r')
    (hform : form.Splits ts) (hmeans : form.Means bodies r node) :
    ∃ (form' : ControlForm) (node' : Node), form'.Splits ts' ∧ form'.Means bodies' r' node' ∧
      node.Alike node' := by
  cases h with
  | head hhead hsame hbody hbody' htokens =>
    exact hhead.exists_alike hbodies hregular hscopes
      (Respacing.rows_of_sameText hts.left hts'.left hsame) hbody hbody'
      (Respacing.rows_of_sameText (hbody.filled hts.right) (hbody'.filled hts'.right) htokens)
      hform hmeans
  | @arms w w' subject subject' rest rest' block block' arms arms' hw hw' hsubject harms harms' hsame
      hrest =>
    have hinner : Filled source (subject ++ [block.tree .brace]) := hts.tail
    have hinner' : Filled source' (subject' ++ [block'.tree .brace]) :=
      hts'.tail
    obtain ⟨hrows, hlast, hlast'⟩ :=
      harms.armRows harms' hinner.right.children hinner'.right.children hsame
    exact exists_alike_of_arms hbodies hregular hscopes hregular₁ hw hw'
      (Respacing.rows_of_sameText hinner.left hinner'.left hsubject) harms harms' hrows
      (Respacing.rows_of_sameText hlast hlast' hrest) hform hmeans

end Alike

/-! ### Templates -/

/-- A source that is a sigil and a group in round brackets, with what stands in the brackets. -/
def Tree.IsPayload (settings : Settings) (source : String) (ts : List Tree) : Prop :=
  ∃ t span, ofSource settings source.toList = .ok [t, .group .parenthesis ts span] ∧
    t.isPunct sigil = true

namespace Routine

variable {settings : Settings} {receiver source source' : String} {routine : Routine}
  {t t' : Tree} {ts ts' : List Tree} {span span' : Span}

/-- A body of one element is compiled to what the element comes to. -/
theorem exists_write_finish_iff (cursor : Cursor) {span : Span} {node : Node} :
    (∃ e, (Body.encoder { receiver, settings }).write span cursor node = .ok e ∧
        e.finish.2 = .ok routine) ↔
      node.opened? [] = some [] ∧
        routine = ⟨receiver, node.instructions span, settings.filename⟩ := by
  constructor
  · rintro ⟨e, hwrite, hfinish⟩
    obtain ⟨opened, hopened, rfl⟩ := Encoder.write_eq_ok_iff.1 hwrite
    obtain ⟨hnil, rfl⟩ := Encoder.finish_eq_ok_iff.1 hfinish
    obtain rfl : opened = [] := hnil
    exact ⟨hopened, congrArg (Routine.mk receiver · settings.filename) (List.append_nil _)⟩
  · rintro ⟨hopened, rfl⟩
    refine ⟨_, Encoder.write_eq_ok_iff.2 ⟨[], hopened, rfl⟩, Encoder.finish_eq_ok_iff.2 ⟨rfl, ?_⟩⟩
    exact congrArg (Routine.mk receiver · settings.filename) (List.append_nil _).symm

/-- **A template of one construct** is compiled to what the construct comes to. -/
theorem ofSource_payload_iff
    (hts : Tree.ofSource settings source.toList = .ok [t, .group .parenthesis ts span])
    (ht : t.isPunct sigil = true) :
    ofSource settings receiver source = .ok routine ↔
      ∃ room, (settings.maxDepth - 0 + 1).toNat = room + 1 ∧
        ∃ node rest, Construct.Parses
            (Body.bodies { receiver, settings } (levels { receiver, settings } room))
            ⟨source.toList, settings, span, true, ts⟩ node rest ∧ rest.tokens = [] ∧
          node.opened? [] = some [] ∧
          routine = ⟨receiver, node.instructions (t.span.join span), settings.filename⟩ := by
  -- the construct is all that there is, so one element is written
  have hplace (e : Encoder) (room : Nat) (r : Region) :
      Body.placeAll { receiver, settings } (levels { receiver, settings } room) room false e r
          [t, .group .parenthesis ts span] =
        Body.place { receiver, settings } (levels { receiver, settings } room) room e (r.goOn [])
            (.payload t.span (r.inside ts span)) >>= fun e₁ => .ok (e₁, r.goOn []) := by
    rw [Body.placeAll_of_takes rfl (.payload ht)]
    simp only [Body.placeAll]
    rfl
  rw [ofSource_eq_ok_iff]
  constructor
  · rintro ⟨us, rest, hus, hcompile⟩
    obtain rfl := Except.ok.inj (hus.symm.trans hts)
    obtain ⟨e, hlevels, hfinish⟩ := Body.compileWith_eq_ok_iff.1 hcompile
    rcases hroom : (settings.maxDepth - 0 + 1).toNat with _ | room
    · rw [hroom] at hlevels
      exact absurd hlevels error_ne_ok
    · rw [hroom] at hlevels
      obtain ⟨e₁, hplaced, hrest⟩ := bind_eq_ok_iff.1 ((hplace _ _ _).symm.trans hlevels)
      obtain ⟨rfl, rfl⟩ := Prod.mk.inj (Except.ok.inj hrest)
      obtain ⟨node, after, hparses, hafter, hwrite⟩ := Body.place_payload_eq_ok_iff.1 hplaced
      obtain ⟨hopened, hroutine⟩ := (exists_write_finish_iff _).1 ⟨_, hwrite, hfinish⟩
      exact ⟨room, rfl, node, after, hparses, hafter, hopened, hroutine⟩
  · rintro ⟨room, hroom, node, rest, hparses, hrest, hopened, hroutine⟩
    obtain ⟨e, hwrite, hfinish⟩ :=
      (exists_write_finish_iff (t.span.cursor.join span.cursor)).2 ⟨hopened, hroutine⟩
    refine ⟨_, Region.goOn ⟨source.toList, settings, .ofSource source.toList, false, []⟩ [], hts,
      Body.compileWith_eq_ok_iff.2 ⟨e, ?_, hfinish⟩⟩
    change levels _ (settings.maxDepth - 0 + 1).toNat _ _ _ = _
    rw [hroom]
    exact (hplace _ _ _).trans (bind_eq_ok_iff.2
      ⟨e, Body.place_payload_eq_ok_iff.2 ⟨node, rest, hparses, hrest, hwrite⟩, rfl⟩)

/-- If all nodes that the one construct may stand for are found again in the other one, then so are the
routines of the templates. -/
theorem exists_ofSource_of_alike
    (hts : Tree.ofSource settings source.toList = .ok [t, .group .parenthesis ts span])
    (ht : t.isPunct sigil = true)
    (hts' : Tree.ofSource settings source'.toList = .ok [t', .group .parenthesis ts' span'])
    (ht' : t'.isPunct sigil = true)
    (halike : ∀ room node rest, Construct.Parses
        (Body.bodies { receiver, settings } (levels { receiver, settings } room))
        ⟨source.toList, settings, span, true, ts⟩ node rest → rest.tokens = [] →
      ∃ node' rest', Construct.Parses
        (Body.bodies { receiver, settings } (levels { receiver, settings } room))
        ⟨source'.toList, settings, span', true, ts'⟩ node' rest' ∧ rest'.tokens = [] ∧
        node.Alike node')
    (h : ofSource settings receiver source = .ok routine) :
    ∃ routine', ofSource settings receiver source' = .ok routine' ∧ routine'.bare = routine.bare := by
  obtain ⟨room, hroom, node, rest, hparses, hrest, hopened, rfl⟩ :=
    (ofSource_payload_iff hts ht).1 h
  obtain ⟨node', rest', hparses', hrest', hsame⟩ := halike room node rest hparses hrest
  refine ⟨_, (ofSource_payload_iff hts' ht').2 ⟨room, hroom, node', rest', hparses', hrest',
    (hsame.opened_eq []).trans hopened, rfl⟩, ?_⟩
  rw [Routine.bare, Routine.bare, hsame.bare_eq]

/-- A construct with other bodies of the same text is compiled if the one is. -/
theorem exists_ofSource_of_interchanged
    (hts : Tree.ofSource settings source.toList = .ok [t, .group .parenthesis ts span])
    (ht : t.isPunct sigil = true)
    (hts' : Tree.ofSource settings source'.toList = .ok [t', .group .parenthesis ts' span'])
    (ht' : t'.isPunct sigil = true) (hfilled : Filled source.toList ts)
    (hfilled' : Filled source'.toList ts')
    (hsame : Interchanged source.toList source'.toList ts ts')
    (h : ofSource settings receiver source = .ok routine) :
    ∃ routine', ofSource settings receiver source' = .ok routine' ∧ routine'.bare = routine.bare := by
  refine exists_ofSource_of_alike hts ht hts' ht' (fun room node rest hparses hrest => ?_) h
  have hregular := Body.bodies_regular { receiver, settings } room
  have hscopes : (Respacing.verbatim source.toList source'.toList).Scopes
      ⟨source.toList, settings, span, true, ts⟩ ⟨source'.toList, settings, span', true, ts'⟩ :=
    ⟨rfl, rfl, rfl, fun _ _ _ _ _ => trivial⟩
  obtain ⟨s, hmem, hw⟩ := hsame.head_isWord
  obtain ⟨form, hform, hmeans⟩ := Construct.exists_form hregular hw hmem hparses hrest
  obtain ⟨form', node', hform', hmeans', halike⟩ :=
    hsame.exists_alike hregular hfilled hfilled'
      (Respacing.keepsBodies_levels _ { receiver, settings } room) hregular hscopes hform hmeans
  obtain ⟨rest', hparses', hrest'⟩ := Construct.parses_of_form hregular hform' hmeans'
  exact ⟨node', rest', hparses', hrest', halike⟩

/-- **It makes no difference how a body is written.** Two templates that are one control construct
each, with the same text apart from bodies after an arrow or in brackets and the white space at the two
ends of a body: they are compiled both or neither, and to the same routine apart from places. -/
theorem ofSource_interchanged (hts : Tree.IsPayload settings source ts)
    (hts' : Tree.IsPayload settings source' ts')
    (hsame : Interchanged source.toList source'.toList ts ts') :
    (ofSource settings receiver source').toOption.map bare =
      (ofSource settings receiver source).toOption.map bare := by
  obtain ⟨t, span, hts, ht⟩ := hts
  obtain ⟨t', span', hts', ht'⟩ := hts'
  have hfilled : Filled source.toList ts :=
    (Filled.tail ⟨0, _, (Tree.fills_of_ofSource hts).1⟩).children
  have hfilled' : Filled source'.toList ts' :=
    (Filled.tail ⟨0, _, (Tree.fills_of_ofSource hts').1⟩).children
  rcases h : ofSource settings receiver source with e | routine
  · rcases h' : ofSource settings receiver source' with e' | routine'
    · rfl
    · obtain ⟨routine, hok, -⟩ := exists_ofSource_of_interchanged hts' ht' hts ht hfilled' hfilled
        (hsame.symm hfilled hfilled') h'
      exact absurd (h.symm.trans hok) error_ne_ok
  · obtain ⟨routine', h', hbare⟩ :=
      exists_ofSource_of_interchanged hts ht hts' ht' hfilled hfilled' hsame h
    rw [h']
    exact congrArg some hbare

/-- A loop with a join, the body of which is a control construct itself, and a match with a guard. -/
theorem ofSource_interchanged_loop_and_match :
    (∃ routine, ofSource {} "t" "#(for x in xs join (, ) =>#(if x => \x7ba\x7d) )" = .ok routine) ∧
      (ofSource {} "t" "#(for x in xs join (, ) \x7b #(if x => \x7ba\x7d)\x7d)").toOption.map bare =
        (ofSource {} "t" "#(for x in xs join (, ) =>#(if x => \x7ba\x7d) )").toOption.map bare ∧
      (∃ routine, ofSource {} "t" "#(match x \x7bn if n => b #n, _ => c\x7d)" = .ok routine) ∧
      (ofSource {} "t" "#(match x \x7bn if n => \x7b b #n \x7d, _ => c\x7d)").toOption.map bare =
        (ofSource {} "t" "#(match x \x7bn if n => b #n, _ => c\x7d)").toOption.map bare := by
  refine ⟨exists_of_isOk (by decide +kernel), ?_, exists_of_isOk (by decide +kernel), ?_⟩
  · refine ofSource_interchanged ⟨_, _, by cbv, by cbv⟩ ⟨_, _, by cbv, by cbv⟩ ?_
    exact @Interchanged.head _ _ [_, _, _, _, _, _] [_, _, _, _, _, _] _ _ (.arrow _) (.braces ⟨_, _⟩)
      (@IsHead.loop _ _ [_] _ rfl (by decide) rfl ⟨List.cons_ne_nil _ _, by decide, by decide⟩)
      ⟨rfl, by cbv⟩ (.arrow rfl) .braces ⟨rfl, by cbv⟩
  · refine ofSource_interchanged ⟨_, _, by cbv, by cbv⟩ ⟨_, _, by cbv, by cbv⟩ ?_
    refine @Interchanged.arms _ _ _ _ [_] [_] _ _ ⟨_, _⟩ ⟨_, _⟩
      [⟨[_], some [_], .arrow _⟩] [⟨[_], some [_], .braces ⟨_, _⟩⟩] rfl rfl ⟨rfl, by cbv⟩
      (.cons (@SpellsArm.arrow [_] [_, _, _] [_, _, _] _ (some [_]) _ _
        (.guarded (List.cons_ne_nil _ _) ?_ ?_ rfl (List.cons_ne_nil _ _) ?_) rfl rfl ?_ ?_) .nil)
      (.cons (@SpellsArm.braces [_] [_, _, _] _ (some [_]) _ _ _
        (.guarded (List.cons_ne_nil _ _) ?_ ?_ rfl (List.cons_ne_nil _ _) ?_) rfl) .nil)
      (.cons ⟨⟨rfl, by cbv⟩, .some ⟨rfl, by cbv⟩, ⟨rfl, by cbv⟩⟩ .nil) ⟨rfl, by cbv⟩
    all_goals decide

end Routine

end TokenTemplate
