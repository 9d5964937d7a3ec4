import TokenTemplate.Proofs.Routine.Grouped
import TokenTemplate.Proofs.Template.Faithful
import TokenTemplate.Proofs.Template.Locality

/-!
# Payloads are what stands where they say they do

A payload is compiled from a text, and what is said about it later is said about a span. Here both are
tied to the source. `TokenTemplate.Region.Cuts` says that a text is what stands at a span, and that it
goes from the first to the last of some siblings, so it begins and ends with a token. The payloads of a
template are cut out like this, each in its own way: an expression by itself, a case with or without a
guard (`TokenTemplate.Region.CutsCase`), and a site of a block from its sigil
(`TokenTemplate.Region.CutsSite`). This holds at all depths
(`TokenTemplate.Routine.cuts_of_ofSource`).
-/

namespace TokenTemplate

/-! ### Where tokens begin and end -/

theorem Runs.le_length {source : List Char} {ts : List Tree} {a k : Nat} (h : Runs source ts a k) :
    k ≤ source.length := by
  obtain ⟨-, -, -, -, -, -, -, -, -, -, -, hk⟩ := h
  exact hk

/-- **Tokens that fill a piece of source** run from the first of them to the last. -/
theorem Fills.runs {source : List Char} {i j : Nat} {run : List Tree} (h : Fills source i run j)
    (hne : run ≠ []) :
    Runs source run (run.head hne).span.startPos (run.getLast hne).span.stopPos ∧
      (run.head hne).span.startPos < (run.getLast hne).span.stopPos := by
  obtain ⟨t, ts, rfl⟩ := List.exists_cons_of_ne_nil hne
  obtain ⟨a, b, -, hab, hspan, -, hrest⟩ := h.head
  -- the last token is the first one, or it comes after it
  obtain ⟨p, k, hap, hbk, hpk, hk, hlast⟩ : ∃ p k, a ≤ p ∧ b ≤ k ∧ p ≤ k ∧ k ≤ source.length ∧
      ((t :: ts).getLast hne).span = .between source p k := by
    rcases List.mem_cons.1 (List.getLast_mem hne) with hlast | hlast
    · have hb := hrest.le.trans hrest.stop_le
      exact ⟨a, b, le_rfl, le_rfl, hab.le, hb, by rw [hlast, hspan]⟩
    · obtain ⟨p, k, hp, -, hspan'⟩ := hrest.exists_between _ hlast
      have hlies := (hrest.mem_allParts _ (Tree.mem_allParts_of_mem hlast)).1
      rw [hspan'] at hlies
      have hpk : p ≤ k := hlies.startPos_le
      exact ⟨p, k, by omega, by omega, hpk, hlies.stopPos_le, hspan'⟩
  refine ⟨⟨t, _, b, p, rfl, List.getLast?_eq_some_getLast hne, ?_, ?_, ?_, ?_, ?_, ?_⟩, ?_⟩
  all_goals simp only [List.head_cons, hspan, hlast, Span.between]
  all_goals omega

/-! ### Pieces of a template -/

/-- **A text is cut out of a template** at a span, from the first to the last of some siblings. -/
structure Region.Cuts (whole : Region) (run : List Tree) (text : String) (span : Span) : Prop where
  /-- The tokens follow each other in a row of the template. -/
  siblings : Tree.Siblings whole.tokens run
  /-- The first of them begins where the span does. -/
  begins : ∃ t, run.head? = some t ∧ t.span.startPos = span.startPos
  /-- The last of them ends where the span does. -/
  ends : ∃ t, run.getLast? = some t ∧ t.span.stopPos = span.stopPos
  /-- The span lies in the source, and its places are those of its offsets. -/
  span_liesIn : span.LiesIn whole.source
  /-- It is not empty. -/
  span_lt : span.startPos < span.stopPos
  /-- The text is what stands there. -/
  text_eq : text.toList = slice whole.source span.startPos span.stopPos

/-- **A case is cut out of a template.** -/
inductive Region.CutsCase (whole : Region) (c : Case) : Prop
  /-- The span of a pattern without a guard is that of its text. -/
  | plain {run : List Tree} (hguard : c.guard = none) (hcuts : whole.Cuts run c.source c.span)
  /-- With a guard it goes from the beginning of the pattern over a word to the end of the guard. -/
  | guarded {pattern guard : List Tree} {w : Tree} {between text : String} {span span' : Span}
      (hguard : c.guard = some text) (hpattern : whole.Cuts pattern c.source span)
      (hword : w.isWord "if" = true) (htext : whole.Cuts guard text span')
      (hcuts : whole.Cuts (pattern ++ w :: guard) (c.source ++ between ++ text) c.span)

/-- **A site of a block is cut out of a template**, from its sigil to its end. -/
inductive Region.CutsSite (whole : Region) (e : Expression) : Prop
  /-- The text of a name is the name. -/
  | name {t : Tree} {l : Leaf} {between : String} (ht : t.isPunct sigil = true) (hl : l.kind = .name)
      (htext : whole.Cuts [.leaf l] e.source l.span)
      (hcuts : whole.Cuts [t, .leaf l] (String.singleton sigil ++ between ++ e.source) e.span)
  /-- The text of a group in round brackets is what stands between them. -/
  | group {t : Tree} {children : List Tree} {span span' : Span} {before after : String}
      (ht : t.isPunct sigil = true) (htext : whole.Cuts children e.source span')
      (hcuts : whole.Cuts [t, .group .parenthesis children span]
        (String.singleton sigil ++ before ++ e.source ++ after) e.span)

/-! ### Payloads of instructions -/

namespace Instruction

/-- The expressions that an instruction evaluates by themselves. -/
def expressions : Instruction → List Expression
  | .splice e | .branch e _ _ | .iterate _ e _ _ | .dispatch e _ => [e]
  | _ => []

/-- The cases that an instruction tries. -/
def cases : Instruction → List Case
  | .iterate pattern _ _ _ => [pattern]
  | .dispatch _ arms => arms.map (·.1)
  | _ => []

/-- The sites of the blocks that an instruction writes. -/
def sites : Instruction → List Expression
  | .interpolate segments => segments.filterMap Segment.expression?
  | _ => []

end Instruction

/-- **The payloads of an instruction are cut out of a template**, each in its own way. -/
structure Region.CutsPayloads (whole : Region) (i : Instruction) : Prop where
  /-- An expression has the text that stands at its span. -/
  expressions : ∀ e ∈ i.expressions, ∃ run, whole.Cuts run e.source e.span
  /-- So has a case, perhaps with a guard. -/
  cases : ∀ c ∈ i.cases, whole.CutsCase c
  /-- A site stands there with its sigil. -/
  sites : ∀ e ∈ i.sites, whole.CutsSite e

/-- An instruction without payloads. -/
theorem Region.CutsPayloads.of_none {whole : Region} {i : Instruction} (he : i.expressions = [])
    (hc : i.cases = []) (hs : i.sites = []) : whole.CutsPayloads i where
  expressions := he ▸ List.forall_mem_nil _
  cases := hc ▸ List.forall_mem_nil _
  sites := hs ▸ List.forall_mem_nil _

/-! ### Texts of siblings -/

namespace Region

variable {whole r : Region} {us ws run : List Tree} {text text₁ text₂ : String}
  {span span₁ span₂ : Span} {d : Delimiter}

/-- The tokens of a piece fill it. -/
theorem Cuts.fills (h : whole.Cuts run text span)
    (hwhole : Fills whole.source 0 whole.tokens whole.source.length) :
    Fills whole.source span.startPos run span.stopPos := by
  obtain ⟨row, hrow, hrun⟩ := h.siblings
  obtain ⟨t, ht, hbegins⟩ := h.begins
  obtain ⟨u, hu, hends⟩ := h.ends
  have hne : run ≠ [] := by
    rintro rfl
    cases ht
  have hfills := hrow.fills_run hwhole hrun hne
  rw [List.head?_eq_some_head hne, Option.some.injEq] at ht
  rw [List.getLast?_eq_some_getLast hne, Option.some.injEq] at hu
  rwa [ht, hu, hbegins, hends] at hfills

/-- **Siblings of a template are cut out** as the text from the first to the last. -/
theorem cuts_of_siblings (hwhole : Fills whole.source 0 whole.tokens whole.source.length)
    (hrun : Tree.Siblings whole.tokens run) (hne : run ≠ []) (hr : r.source = whole.source)
    (fallback : Span) : whole.Cuts run (r.textOf run) (spanOf run fallback) := by
  obtain ⟨row, hrow, hinfix⟩ := hrun
  obtain ⟨hruns, hlt⟩ := (hrow.fills_run hwhole hinfix hne).runs hne
  have hlast := List.getLast?_eq_some_getLast hne
  have hstop := hruns.le_length
  rw [hruns.spanOf_eq, hruns.textOf_eq hr]
  exact ⟨⟨row, hrow, hinfix⟩, ⟨_, List.head?_eq_some_head hne, rfl⟩, ⟨_, hlast, rfl⟩,
    Span.liesIn_between hlt.le hstop, hlt, String.toList_ofList⟩

/-- **A piece of three parts**: its text is that of the first part, something, and that of the last. -/
theorem Cuts.exists_between (vs : List Tree)
    (hwhole : Fills whole.source 0 whole.tokens whole.source.length)
    (h : whole.Cuts (us ++ (vs ++ ws)) text span) (h₁ : whole.Cuts us text₁ span₁)
    (h₂ : whole.Cuts ws text₂ span₂) : ∃ between, text = text₁ ++ between ++ text₂ := by
  obtain ⟨k, hus, hmore⟩ := (h.fills hwhole).append_inv
  obtain ⟨k', hvs, hws⟩ := hmore.append_inv
  have hkk' := hvs.le
  -- the first part begins with the piece, the last part ends with it, and they are apart
  have hbegins : span₁.startPos = span.startPos := by
    obtain ⟨t, ht, heq⟩ := h.begins
    obtain ⟨t₁, ht₁, heq₁⟩ := h₁.begins
    rw [List.head?_append, ht₁, Option.some_or, Option.some.injEq] at ht
    rw [← heq, ← heq₁, ht]
  have hends : span₂.stopPos = span.stopPos := by
    obtain ⟨u, hu, heq⟩ := h.ends
    obtain ⟨u₂, hu₂, heq₂⟩ := h₂.ends
    rw [List.getLast?_append, List.getLast?_append, hu₂, Option.some_or, Option.some_or,
      Option.some.injEq] at hu
    rw [← heq, ← heq₂, hu]
  have hapart : span₁.stopPos ≤ span₂.startPos := by
    obtain ⟨u₁, hu₁, heq₁⟩ := h₁.ends
    obtain ⟨t₂, ht₂, heq₂⟩ := h₂.begins
    obtain ⟨_, b, -, hb, hspan₁⟩ := hus.exists_between u₁ (List.mem_of_getLast? hu₁)
    obtain ⟨c, _, hc, -, hspan₂⟩ := hws.exists_between t₂ (List.mem_of_head? ht₂)
    rw [hspan₁] at heq₁
    rw [hspan₂] at heq₂
    simp only [Span.between] at heq₁ heq₂
    omega
  have hlt₁ := h₁.span_lt
  have hlt₂ := h₂.span_lt
  refine ⟨String.ofList (slice whole.source span₁.stopPos span₂.startPos), String.toList_inj.1 ?_⟩
  rw [String.toList_append, String.toList_append, String.toList_ofList, h.text_eq, h₁.text_eq,
    h₂.text_eq, slice_append hlt₁.le hapart, slice_append (by omega) hlt₂.le, hbegins, hends]

/-- What stands between the brackets of a group is a part of its text. -/
theorem Cuts.exists_around (hwhole : Fills whole.source 0 whole.tokens whole.source.length)
    (h : whole.Cuts [.group d us span₁] text span) (h₂ : whole.Cuts us text₂ span₂) :
    ∃ before after, text = before ++ text₂ ++ after := by
  obtain ⟨a, b, hspan₁, -, -, hfills⟩ := (h.fills hwhole).group_inv (Tree.mem_allParts_of_mem
    List.mem_cons_self)
  have hbegins : span.startPos ≤ span₂.startPos := by
    obtain ⟨t, ht, heq⟩ := h.begins
    obtain ⟨t₂, ht₂, heq₂⟩ := h₂.begins
    obtain rfl := Option.some.inj ht
    obtain ⟨c, _, hc, -, hspan₂⟩ := hfills.exists_between t₂ (List.mem_of_head? ht₂)
    change span₁.startPos = _ at heq
    rw [hspan₁] at heq
    rw [hspan₂] at heq₂
    simp only [Span.between] at heq heq₂
    omega
  have hends : span₂.stopPos ≤ span.stopPos := by
    obtain ⟨u, hu, heq⟩ := h.ends
    obtain ⟨u₂, hu₂, heq₂⟩ := h₂.ends
    obtain rfl := Option.some.inj hu
    obtain ⟨_, c, -, hc, hspan₂⟩ := hfills.exists_between u₂ (List.mem_of_getLast? hu₂)
    change span₁.stopPos = _ at heq
    rw [hspan₁] at heq
    rw [hspan₂] at heq₂
    simp only [Span.between] at heq heq₂
    omega
  have hlt := h₂.span_lt
  refine ⟨String.ofList (slice whole.source span.startPos span₂.startPos),
    String.ofList (slice whole.source span₂.stopPos span.stopPos), String.toList_inj.1 ?_⟩
  rw [String.toList_append, String.toList_append, String.toList_ofList, String.toList_ofList,
    h.text_eq, h₂.text_eq, slice_append hbegins hlt.le, slice_append (by omega) hends]

/-! ### What control constructs are made of -/

section Parts

variable (hwhole : Fills whole.source 0 whole.tokens whole.source.length) (hr : whole.Within r)

include hwhole hr

/-- The tokens of a region are cut out as they are read from it. -/
theorem cuts_of_isInfix (hrun : run <:+: r.tokens) (hne : run ≠ []) :
    whole.Cuts run (r.textOf run) (spanOf run r.span) :=
  cuts_of_siblings hwhole (hr.siblings.trans (.of_isInfix hrun)) hne hr.source_eq _

/-- **An expression of a region** is cut out of the template. -/
theorem Says.exists_cuts {e : Expression} (h : r.Says run e) (hrun : run <:+: r.tokens)
    (hne : run ≠ []) : ∃ run, whole.Cuts run e.source e.span := by
  obtain ⟨-, -, hsource, hspan⟩ := Expression.ofSource_eq_ok_iff.1 h
  refine ⟨run, ?_⟩
  rw [hsource, hspan]
  exact cuts_of_isInfix hwhole hr hrun hne

/-- A pattern without a guard is cut out of the template. -/
theorem Tests.cutsCase_plain {c : Case} (h : r.Tests run none c) (hrun : run <:+: r.tokens)
    (hne : run ≠ []) : whole.CutsCase c := by
  obtain ⟨-, -, -, hsource, hspan, hguard⟩ := Case.ofSource_eq_ok_iff.1 h
  rw [Option.getD_none, List.append_nil] at hspan
  have hcuts := cuts_of_isInfix hwhole hr hrun hne
  rw [← hsource, ← hspan] at hcuts
  exact .plain hguard hcuts

/-- **A case of a region** is cut out of the template. -/
theorem Tests.cutsCase {pattern head : List Tree} {guard : Option (List Tree)} {c : Case}
    (h : r.Tests pattern guard c) (hspells : SpellsPattern pattern guard head)
    (hhead : head <:+: r.tokens) : whole.CutsCase c := by
  cases hspells with
  | plain hne => exact h.cutsCase_plain hwhole hr hhead hne
  | @guarded guard w hne _ _ hw hne' =>
    obtain ⟨-, -, -, hsource, hspan, hguard⟩ := Case.ofSource_eq_ok_iff.1 h
    have hcuts {us : List Tree} (hus : us <:+: pattern ++ w :: guard) (hne : us ≠ []) :=
      cuts_of_isInfix hwhole hr (hus.trans hhead) hne
    have hpattern := hcuts (List.prefix_append pattern (w :: guard)).isInfix hne
    have hlast : guard <:+: pattern ++ w :: guard := ⟨pattern ++ [w], [], by simp⟩
    have hguard' := hcuts hlast hne'
    have hall := hcuts List.infix_rfl (List.append_ne_nil_of_left_ne_nil hne _)
    obtain ⟨between, htext⟩ := hall.exists_between [w] hwhole hpattern hguard'
    -- the word in the middle does not matter for the span
    have hends : spanOf (pattern ++ guard) r.span = spanOf (pattern ++ w :: guard) r.span := by
      rw [spanOf, spanOf, List.head?_append_of_ne_nil _ hne, List.head?_append_of_ne_nil _ hne,
        List.getLast?_append_of_ne_nil _ hne', List.getLast?_append_of_ne_nil _ (List.cons_ne_nil _ _),
        List.getLast?_cons_of_ne_nil hne']
    rw [Option.getD_some, hends] at hspan
    rw [htext, ← hspan, ← hsource] at hall
    exact .guarded hguard (hsource ▸ hpattern) hw hguard' hall

/-- **The payloads of a control construct** are cut out of the template. -/
theorem cutsPayloads_of_means {form : ControlForm} {bodies : Bodies} {node : Node} {i : Instruction}
    {span : Span} (hspells : form.Spells r.tokens) (hmeans : form.Means bodies r node)
    (hi : i ∈ node.instructions span) : whole.CutsPayloads i := by
  generalize htokens : r.tokens = ts at hspells
  cases hmeans with
  | @choice test _ _ _ _ _ htest =>
    obtain rfl := List.mem_singleton.1 hi
    refine ⟨List.forall_mem_singleton.2 ?_, List.forall_mem_nil _, List.forall_mem_nil _⟩
    cases hspells with
    | @choice w _ ts _ _ hcondition =>
      have hinfix : test <:+: r.tokens := htokens ▸ ⟨[w], ts, rfl⟩
      exact htest.exists_cuts hwhole hr hinfix hcondition.ne_nil
    | @both w v _ yes no _ hcondition =>
      have hinfix : test <:+: r.tokens := htokens ▸ ⟨[w], [yes.tree .brace, v, no.tree .brace], rfl⟩
      exact htest.exists_cuts hwhole hr hinfix hcondition.ne_nil
  | @loop pattern source _ _ _ _ _ _ hpattern hsource =>
    obtain rfl := List.mem_singleton.1 hi
    cases hspells with
    | @loop w v _ _ more _ _ _ _ hne _ _ hcondition =>
      have hinfix : pattern <:+: r.tokens := htokens ▸ ⟨[w], v :: (source ++ more), rfl⟩
      have hinfix' : source <:+: r.tokens := htokens ▸ ⟨w :: (pattern ++ [v]), more, by simp⟩
      exact ⟨List.forall_mem_singleton.2 (hsource.exists_cuts hwhole hr hinfix' hcondition.ne_nil),
        List.forall_mem_singleton.2 (hpattern.cutsCase_plain hwhole hr hinfix hne),
        List.forall_mem_nil _⟩
  | @dispatch subject _ block forms arms hsubject harms =>
    obtain rfl := List.mem_singleton.1 hi
    cases hspells with
    | @dispatch w _ _ _ _ hne hspells =>
      have hinfix : subject <:+: r.tokens := htokens ▸ ⟨[w], [block.tree .brace], rfl⟩
      have hblock : r.Within (r.inside block.children block.span) :=
        .enclosed (d := .brace) (htokens ▸ by simp)
      refine ⟨List.forall_mem_singleton.2 (hsubject.exists_cuts hwhole hr hinfix hne), ?_,
        List.forall_mem_nil _⟩
      -- each arm stands in the block as one of the forms that it splits into
      intro c hc
      obtain ⟨_, hpair, rfl⟩ := List.mem_map.1 hc
      obtain ⟨arm, harm, rfl⟩ := List.mem_map.1 hpair
      obtain ⟨form, hform, hmeans⟩ := exists_of_forall₂ harms harm
      obtain ⟨⟨head, hhead, hinfix⟩, -⟩ := hspells.exists_head (r := r.inside block.children block.span)
        List.infix_rfl form hform
      exact hmeans.pattern.cutsCase hwhole (hr.trans hblock) hhead hinfix
  | scope =>
    obtain rfl := List.mem_singleton.1 hi
    exact .of_none rfl rfl rfl

end Parts

/-! ### Sites of blocks -/

theorem Cuts.span_eq {t u : Tree} (h : whole.Cuts run text span) (ht : run.head? = some t)
    (hu : run.getLast? = some u) : span = .between whole.source t.span.startPos u.span.stopPos := by
  obtain ⟨t', ht', hbegins⟩ := h.begins
  obtain ⟨u', hu', hends⟩ := h.ends
  obtain rfl := Option.some.inj (ht.symm.trans ht')
  obtain rfl := Option.some.inj (hu.symm.trans hu')
  rw [hbegins, hends]
  exact h.span_liesIn.eq_between

end Region

namespace Fragment

variable {source : List Char} {f : Fragment} {payload : String}

mutual

/-- **A site of a block** is made up of two siblings in it. -/
theorem exists_led?_of_tree (hf : f.kind = .site payload) :
    (t : Tree) → f ∈ ofTree source t →
      ∃ u v, Tree.Siblings [t] [u, v] ∧ led? source u v = some f
  | .leaf l, h => by
    obtain rfl := List.mem_singleton.1 h
    exact absurd hf nofun
  | .group d children span, h => by
    rw [ofTree, List.mem_cons, List.mem_append, List.mem_singleton] at h
    rcases h with rfl | h | rfl
    · exact absurd hf nofun
    · obtain ⟨u, v, huv, hled⟩ := exists_led?_of_row hf children h
      exact ⟨u, v, (Tree.Siblings.children List.mem_cons_self).trans huv, hled⟩
    · exact absurd hf nofun

theorem exists_led?_of_row (hf : f.kind = .site payload) :
    (ts : List Tree) → f ∈ ofRow source ts →
      ∃ u v, Tree.Siblings ts [u, v] ∧ led? source u v = some f
  | [], h => absurd h List.not_mem_nil
  | [t], h => by
    rw [ofRow] at h
    exact exists_led?_of_tree hf t h
  | t :: u :: ts, h => by
    rw [ofRow] at h
    split at h
    · next g hg =>
      rcases List.mem_cons.1 h with rfl | h
      · exact ⟨t, u, .of_isInfix (List.prefix_append [t, u] ts).isInfix, hg⟩
      · obtain ⟨u', v, huv, hled⟩ := exists_led?_of_row hf ts h
        exact ⟨u', v, (Tree.Siblings.of_isInfix (List.suffix_append [t, u] ts).isInfix).trans huv, hled⟩
    · rcases List.mem_append.1 h with h | h
      · obtain ⟨u', v, huv, hled⟩ := exists_led?_of_tree hf t h
        exact ⟨u', v,
          (Tree.Siblings.of_isInfix (List.prefix_append [t] (u :: ts)).isInfix).trans huv, hled⟩
      · obtain ⟨u', v, huv, hled⟩ := exists_led?_of_row hf (u :: ts) h
        exact ⟨u', v, (Tree.Siblings.of_isInfix (List.suffix_cons t (u :: ts)).isInfix).trans huv, hled⟩

end

/-- **A site begins with a sigil**, and its text is a name or what stands between round brackets. -/
theorem led?_site {t u : Tree} (h : led? source t u = some f) (hf : f.kind = .site payload) :
    t.isPunct sigil = true ∧ f.start = t.span.startPos ∧ f.stop = u.span.stopPos ∧
      ((∃ l, u = .leaf l ∧ l.kind = .name ∧ l.text = payload) ∨
        ∃ children span, u = .group .parenthesis children span ∧ children ≠ [] ∧
          ∀ r : Region, r.source = source → r.textOf children = payload) := by
  unfold led? at h
  split at h
  · next l =>
    split at h
    · cases h
    · next ht =>
      rw [Bool.not_eq_true', Bool.not_eq_false] at ht
      split at h
      · next hl =>
        obtain rfl := Option.some.inj h
        exact ⟨ht, rfl, rfl, .inl ⟨l, rfl, hl, FragmentKind.site.inj hf⟩⟩
      · split at h
        · obtain rfl := Option.some.inj h
          exact absurd hf nofun
        · cases h
  · next c cs span =>
    split at h
    · cases h
    · next ht =>
      rw [Bool.not_eq_true', Bool.not_eq_false] at ht
      obtain rfl := Option.some.inj h
      refine ⟨ht, rfl, rfl, .inr ⟨c :: cs, span, rfl, List.cons_ne_nil _ _, fun r hr => ?_⟩⟩
      rw [Region.textOf_cons, hr]
      exact FragmentKind.site.inj hf
  · cases h

end Fragment

namespace Region

variable {whole block : Region} {settings : Settings} {e : Expression} {f : Fragment} {t u : Tree}

section Sites

variable (hwhole : Fills whole.source 0 whole.tokens whole.source.length)

include hwhole

/-- A token without parts has its own text. -/
theorem cuts_leaf {l : Leaf} (hl : Tree.Siblings whole.tokens [.leaf l]) :
    whole.Cuts [.leaf l] l.text l.span := by
  obtain ⟨hlies, hcut, hlt⟩ := hwhole.mem_allParts _
    (hl.allParts_subset (Tree.mem_allParts_of_mem List.mem_cons_self))
  exact ⟨hl, ⟨_, rfl, rfl⟩, ⟨_, rfl, rfl⟩, hlies, hlt, hcut.1.symm⟩

theorem cuts_of_isPunct {c : Char} (ht : t.isPunct c = true) (h : Tree.Siblings whole.tokens [t]) :
    whole.Cuts [t] (String.singleton c) t.span := by
  cases t with
  | leaf l =>
    rw [Tree.isPunct, Bool.and_eq_true, beq_iff_eq, beq_iff_eq] at ht
    rw [← ht.2]
    exact cuts_leaf hwhole h
  | group => exact absurd ht Bool.false_ne_true

/-- **What a sigil makes up with the token after it** is a site of the template, if it is compiled. -/
theorem cutsSite_of_led? (htu : Tree.Siblings whole.tokens [t, u])
    (hled : Fragment.led? whole.source t u = some f) (he : f.Compiles settings whole.source e) :
    whole.CutsSite e := by
  obtain ⟨ht, hstart, hstop, hu⟩ := Fragment.led?_site hled he.kind_eq
  have hfirst : Tree.Siblings whole.tokens [t] :=
    htu.trans (.of_isInfix (List.prefix_append [t] [u]).isInfix)
  have hsecond : Tree.Siblings whole.tokens [u] := htu.trans (.of_isInfix (List.suffix_cons t [u]).isInfix)
  have hsigil := cuts_of_isPunct hwhole ht hfirst
  have hsite := cuts_of_siblings hwhole htu (List.cons_ne_nil _ _) rfl whole.span
  generalize whole.textOf [t, u] = text' at hsite
  rw [hsite.span_eq rfl rfl, List.getLast_cons_cons, List.getLast_singleton, ← hstart, ← hstop,
    ← he.span_eq] at hsite
  rcases hu with ⟨l, rfl, hl, htext⟩ | ⟨children, span, rfl, hne, htext⟩
  · have hname := cuts_leaf hwhole hsecond
    obtain ⟨between, heq⟩ := Cuts.exists_between [] hwhole hsite hsigil hname
    rw [htext] at hname heq
    rw [heq] at hsite
    exact .name ht hl hname hsite
  · have hchildren := cuts_of_siblings hwhole
      (htu.trans (.children (List.mem_cons_of_mem t List.mem_cons_self))) hne rfl span
    have hgroup := cuts_of_siblings hwhole hsecond (List.cons_ne_nil _ _) rfl span
    obtain ⟨between, heq⟩ := Cuts.exists_between [] hwhole hsite hsigil hgroup
    obtain ⟨before, after, hinner⟩ := hgroup.exists_around hwhole hchildren
    rw [htext whole rfl] at hchildren hinner
    have hassoc : text' = String.singleton sigil ++ (between ++ before) ++ e.source ++ after := by
      simp only [heq, hinner, String.append_assoc]
    exact .group ht hchildren (hassoc ▸ hsite)

/-- **The sites of a block** are sites of the template. -/
theorem cutsSite_of_block {room : Nat} {segments : List Segment} (hblock : whole.Within block)
    (h : Segment.ofRegion room block = .ok segments)
    (he : e ∈ segments.filterMap Segment.expression?) : whole.CutsSite e := by
  obtain ⟨ps, hps, h⟩ := bind_eq_ok_iff.1 h
  obtain rfl := Except.ok.inj h
  obtain ⟨row, hrow, hinfix⟩ := hblock.siblings
  obtain ⟨i, j, hfills⟩ : ∃ i j, Fills whole.source i block.tokens j := by
    by_cases hne : block.tokens = []
    · rw [hne]
      exact ⟨0, 0, .nil le_rfl (Nat.zero_le _) isGapRun_slice_self⟩
    · exact ⟨_, _, hrow.fills_run hwhole hinfix hne⟩
  have hmirrors :=
    Piece.inStep_ofRegion block.settings whole.source room hblock.source_eq rfl hfills hps
  rw [hblock.source_eq] at he
  obtain ⟨f, hf, hcompiles⟩ := exists_of_forall₂ hmirrors.forall₂_compiles he
  obtain ⟨t, u, htu, hled⟩ :=
    Fragment.exists_led?_of_row hcompiles.kind_eq block.tokens (List.mem_of_mem_filter hf)
  exact cutsSite_of_led? hwhole (hblock.siblings.trans htu) hled hcompiles

end Sites

/-- **The instructions that a region comes to** have payloads of it. -/
theorem Yields.cutsPayloads {i : Instruction}
    (hwhole : Fills whole.source 0 whole.tokens whole.source.length) (h : whole.Yields i) :
    whole.CutsPayloads i := by
  obtain ⟨c, node, span, hc, hlowers, hi⟩ := h
  cases hlowers with
  | escape | directive | name =>
    obtain rfl := List.mem_singleton.1 hi
    exact .of_none rfl rfl rfl
  | leaf h =>
    cases h <;>
    · obtain rfl := List.mem_singleton.1 hi
      exact .of_none rfl rfl rfl
  | @block start block levels segments h =>
    cases hany : segments.any Segment.isSite with
    | true =>
      rw [hany] at hi
      obtain rfl := List.mem_singleton.1 hi
      exact ⟨List.forall_mem_nil _, List.forall_mem_nil _,
        fun e he => cutsSite_of_block hwhole (hc.within rfl) h he⟩
    | false =>
      rw [hany] at hi
      obtain rfl := List.mem_singleton.1 hi
      exact .of_none rfl rfl rfl
  | payload hbodies h hrest =>
    have hwithin := hc.within rfl
    rcases h.form_or hbodies hrest with ⟨form, hsplits, hmeans⟩ | ⟨text, rfl⟩ | ⟨e, rfl, hne, he⟩
    · exact cutsPayloads_of_means hwhole hwithin hsplits.1 hmeans hi
    · obtain rfl := List.mem_singleton.1 hi
      exact .of_none rfl rfl rfl
    · obtain rfl := List.mem_singleton.1 hi
      exact ⟨List.forall_mem_singleton.2 (he.exists_cuts hwhole hwithin List.infix_rfl hne),
        List.forall_mem_nil _, List.forall_mem_nil _⟩

end Region

/-! ### Payloads of a template -/

/-- **Every payload of a template is what stands where it says it does**, whatever the depth of the
instruction that it belongs to. Its span lies in the source, with the places of its offsets. The text of
a splice, a condition, a loop source, a subject or a pattern without a guard is what stands at its
span; a case with a guard begins there with the text of the pattern and ends with that of the guard; a
site of a block goes from its sigil to its end and holds the text that is evaluated. All these texts
begin with a token and end with one. -/
theorem Routine.cuts_of_ofSource {settings : Settings} {receiver source : String} {routine : Routine}
    (h : Routine.ofSource settings receiver source = .ok routine) :
    ∃ whole, Region.ofSource settings source.toList = .ok whole ∧ whole.source = source.toList ∧
      ∀ i ∈ routine.instructions, i.Everywhere whole.CutsPayloads := by
  obtain ⟨whole, hwhole, -, hgrouped⟩ := grouped_of_ofSource h
  obtain ⟨hsource, hfills⟩ : whole.source = source.toList ∧
      Fills whole.source 0 whole.tokens whole.source.length := by
    obtain ⟨ts, hts, hregion⟩ := bind_eq_ok_iff.1 hwhole
    obtain rfl := Except.ok.inj hregion
    exact ⟨rfl, (Tree.fills_of_ofSource hts).1⟩
  have hspace : ∀ w : Whitespace, whole.CutsPayloads (.layout w) := fun w => .of_none rfl rfl rfl
  have hgroups := hgrouped _ (fun w _ => hspace w) fun i hi => hi.cutsPayloads hfills
  exact ⟨whole, hwhole, hsource, hgroups.everywhere (fun text => .of_none rfl rfl rfl) hspace⟩

/-- A case with a guard, and a site in a block in its body. -/
theorem Routine.cuts_of_ofSource_guard :
    let source := "#(match x \x7b\n [a] if a => #_( #(b ) ) \x7d)"
    let inner (r : Routine) := r.instructions.flatMap Instruction.bodies
    ∃ (routine : Routine) (whole : Region), Routine.ofSource {} "t" source = .ok routine ∧
      (∀ i ∈ routine.instructions, i.Everywhere whole.CutsPayloads) ∧
      (routine.instructions.flatMap Instruction.cases).map (fun c => (c.source, c.guard, c.span)) =
        [("[a]", some "a", ⟨⟨2, 2⟩, ⟨2, 10⟩, 13, 21⟩)] ∧
      (((inner routine).flatMap Routine.instructions).flatMap Instruction.sites).map
        (fun e => (e.source, e.span)) = [("b", ⟨⟨2, 18⟩, ⟨2, 23⟩, 29, 34⟩)] := by
  intro source inner
  let places (r : Routine) :=
    ((r.instructions.flatMap Instruction.cases).map fun c => (c.source, c.guard, c.span),
      (((inner r).flatMap Routine.instructions).flatMap Instruction.sites).map
        fun e => (e.source, e.span))
  obtain ⟨routine, h, hplaces⟩ := @Routine.exists_ofSource _ source places
    ([("[a]", some "a", ⟨⟨2, 2⟩, ⟨2, 10⟩, 13, 21⟩)], [("b", ⟨⟨2, 18⟩, ⟨2, 23⟩, 29, 34⟩)])
    (by decide +kernel)
  obtain ⟨whole, -, -, heverywhere⟩ := cuts_of_ofSource h
  obtain ⟨hcases, hsites⟩ := Prod.mk.inj hplaces
  exact ⟨routine, whole, h, heverywhere, hcases, hsites⟩

end TokenTemplate
