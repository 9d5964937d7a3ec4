import TokenTemplate.Proofs.Grammar.Within
import TokenTemplate.Proofs.Template.Placed

/-!
# Rows of siblings

The tokens of a template form rows: the whole template is one, and the inside of each group is another,
`TokenTemplate.Tree.IsRow`. All that is ever read from a template is a piece of such a row: the regions
that constructs and bodies are read from are, `TokenTemplate.Region.Within`, at all depths
(`TokenTemplate.Region.Contains.exists_takes`).
-/

namespace TokenTemplate

/-! ### Rows -/

namespace Tree

/-- **A row of siblings**: the tokens of a source, or the children of one of its groups. -/
def IsRow (ts row : List Tree) : Prop :=
  row = ts ∨ ∃ d span, .group d row span ∈ allParts ts

/-- **Siblings that follow each other**, somewhere in some tokens. -/
def Siblings (ts us : List Tree) : Prop :=
  ∃ row, IsRow ts row ∧ us <:+: row

variable {ts us vs cs : List Tree} {t u : Tree} {d : Delimiter} {span : Span}

theorem allParts_subset (h : ts ⊆ us) : allParts ts ⊆ allParts us := by
  intro u hu
  obtain ⟨t, ht, hu⟩ := mem_allParts_iff.1 hu
  exact mem_allParts_iff.2 ⟨t, h ht, hu⟩

mutual

/-- What is inside a part of a token is a part of it. -/
theorem parts_subset : (t : Tree) → u ∈ parts t → parts u ⊆ parts t
  | leaf l, h => by
    obtain rfl := List.mem_singleton.1 h
    exact List.Subset.refl _
  | group d children span, h => by
    rw [parts, List.mem_cons] at h
    rcases h with rfl | h
    · exact List.Subset.refl _
    · exact List.subset_cons_of_subset _ (parts_subset_allParts children h)

theorem parts_subset_allParts : (ts : List Tree) → u ∈ allParts ts → parts u ⊆ allParts ts
  | [], h => absurd h List.not_mem_nil
  | t :: ts, h => by
    rw [allParts, List.mem_append] at h
    rcases h with h | h
    · exact List.subset_append_of_subset_left _ (parts_subset t h)
    · exact List.subset_append_of_subset_right _ (parts_subset_allParts ts h)

end

theorem allParts_children_subset (h : .group d cs span ∈ allParts ts) :
    allParts cs ⊆ allParts ts :=
  fun _ hv => parts_subset_allParts ts h (List.mem_cons_of_mem _ hv)

theorem IsRow.allParts_subset {row : List Tree} (h : IsRow ts row) : allParts row ⊆ allParts ts := by
  rcases h with rfl | ⟨d, span, hmem⟩
  · exact List.Subset.refl _
  · exact allParts_children_subset hmem

namespace Siblings

theorem of_isInfix (h : us <:+: ts) : Siblings ts us :=
  ⟨ts, .inl rfl, h⟩

theorem children (h : .group d us span ∈ ts) : Siblings ts us :=
  ⟨us, .inr ⟨d, span, mem_allParts_of_mem h⟩, List.infix_rfl⟩

theorem allParts_subset (h : Siblings ts us) : allParts us ⊆ allParts ts := by
  obtain ⟨row, hrow, hus⟩ := h
  exact List.Subset.trans (Tree.allParts_subset hus.subset) hrow.allParts_subset

theorem trans (h : Siblings ts us) (h' : Siblings us vs) : Siblings ts vs := by
  obtain ⟨row, rfl | ⟨d, span, hmem⟩, hvs⟩ := h'
  · obtain ⟨row', hrow', hrow⟩ := h
    exact ⟨row', hrow', hvs.trans hrow⟩
  · exact ⟨row, .inr ⟨d, span, h.allParts_subset hmem⟩, hvs⟩

end Siblings

end Tree

/-! ### Regions -/

/-- **A region within another one**: of the same template, with siblings of it to come. -/
structure Region.Within (whole r : Region) : Prop where
  /-- The source is the same. -/
  source_eq : r.source = whole.source
  /-- So are the settings. -/
  settings_eq : r.settings = whole.settings
  /-- The tokens to come follow each other in it. -/
  siblings : Tree.Siblings whole.tokens r.tokens

namespace Region.Within

variable {whole r r' : Region} {ts : List Tree} {d : Delimiter} {children : List Tree} {span : Span}

theorem refl (r : Region) : r.Within r :=
  ⟨rfl, rfl, .of_isInfix List.infix_rfl⟩

theorem trans (h : whole.Within r) (h' : r.Within r') : whole.Within r' :=
  ⟨h'.source_eq.trans h.source_eq, h'.settings_eq.trans h.settings_eq, h.siblings.trans h'.siblings⟩

theorem goOn (h : ts <:+: r.tokens) : r.Within (r.goOn ts) :=
  ⟨rfl, rfl, .of_isInfix h⟩

theorem inside (h : .group d children span ∈ r.tokens) : r.Within (r.inside children span) :=
  ⟨rfl, rfl, .children h⟩

theorem enclosed {g : Enclosed} (h : g.tree d ∈ r.tokens) : r.Within (r.inside g.children g.span) :=
  inside h

end Region.Within

/-! ### Constructs -/

/-- The region that a construct goes into. -/
def Construct.inside? : Construct → Option Region
  | .block _ inside | .payload _ inside | .group _ inside => some inside
  | _ => none

namespace Construct.Takes

variable {r r' : Region} {rest : List Tree} {c : Construct}

/-- What a construct leaves are the last of its siblings. -/
theorem suffix {ts : List Tree} (h : Takes r ts c rest) : rest <:+ ts := by
  cases h with
  | escape | name | payload => exact ⟨[_, _], rfl⟩
  | directive => exact ⟨[_, _, _, _], rfl⟩
  | block => exact ⟨[_, _, _], rfl⟩
  | plain => exact ⟨[_], rfl⟩

/-- **What a construct goes into** is a group of its region. -/
theorem within {ts : List Tree} (h : Takes r ts c rest) (hts : ts <:+: r.tokens)
    (hc : c.inside? = some r') : r.Within r' := by
  cases h with
  | escape | directive | name => exact absurd hc nofun
  | block | payload =>
    obtain rfl := Option.some.inj hc
    exact .inside (d := .parenthesis) (hts.subset (by simp))
  | @plain t =>
    cases t with
    | leaf => exact absurd hc nofun
    | group =>
      obtain rfl := Option.some.inj hc
      exact .inside (hts.subset List.mem_cons_self)

end Construct.Takes

/-! ### Bodies -/

section Forms

variable {r r' : Region} {ts rest : List Tree}

/-- A body is made of tokens of its construct. -/
theorem BodyForm.Spells.within {form : BodyForm} (h : form.Spells ts) (hts : ts <:+: r.tokens) :
    r.Within (form.region r) := by
  cases h with
  | @arrow t u ts => exact .goOn (List.IsInfix.trans ⟨[t, u], [], by simp⟩ hts)
  | braces => exact .enclosed (hts.subset List.mem_cons_self)

theorem withoutComma_suffix (ts : List Tree) : withoutComma ts <:+ ts := by
  cases ts with
  | nil => exact List.suffix_rfl
  | cons t ts =>
    rw [withoutComma]
    split
    · exact List.suffix_cons t ts
    · exact List.suffix_rfl

/-- **The parts of an arm**, and what it leaves. -/
theorem SpellsArm.exists_head {form : ArmForm} (h : SpellsArm form ts rest)
    (hts : ts <:+: r.tokens) :
    (∃ head, SpellsPattern form.pattern form.guard head ∧ head <:+: ts) ∧
      r.Within (form.body.region r) ∧ rest <:+ ts := by
  cases h with
  | @braces pattern head rest guard t u g hhead =>
    refine ⟨⟨head, hhead, (List.prefix_append _ _).isInfix⟩,
      .enclosed (d := .brace) (hts.subset (by simp)), (withoutComma_suffix rest).trans ?_⟩
    exact ⟨head ++ [t, u, g.tree .brace], by simp⟩
  | @arrow pattern head body rest guard t u hhead =>
    refine ⟨⟨head, hhead, (List.prefix_append _ _).isInfix⟩,
      .goOn (List.IsInfix.trans ⟨head ++ [t, u], rest, by simp⟩ hts),
      (withoutComma_suffix rest).trans ⟨head ++ t :: u :: body, by simp⟩⟩

theorem SpellsArms.exists_head {forms : List ArmForm} (h : SpellsArms forms ts)
    (hts : ts <:+: r.tokens) : ∀ form ∈ forms,
      (∃ head, SpellsPattern form.pattern form.guard head ∧ head <:+: r.tokens) ∧
        r.Within (form.body.region r) := by
  induction h with
  | nil => exact List.forall_mem_nil _
  | cons h _ ih =>
    obtain ⟨⟨head, hhead, hinfix⟩, hbody, hrest⟩ := h.exists_head hts
    exact List.forall_mem_cons.2
      ⟨⟨⟨head, hhead, hinfix.trans hts⟩, hbody⟩, ih (hrest.isInfix.trans hts)⟩

/-- **The bodies of a control construct** are regions within it. -/
theorem ControlForm.Spells.within {form : ControlForm} (h : form.Spells r.tokens)
    (hr' : r' ∈ form.regions r) : r.Within r' := by
  generalize htokens : r.tokens = ts at h
  cases h with
  | @choice w test ts yes _ _ hyes =>
    obtain rfl := List.mem_singleton.1 hr'
    exact hyes.within (htokens ▸ ⟨w :: test, [], by simp⟩)
  | @both w v test yes no =>
    rcases List.mem_cons.1 hr' with rfl | hr'
    · exact .enclosed (d := .brace) (htokens ▸ by simp)
    · obtain rfl := List.mem_singleton.1 hr'
      exact .enclosed (d := .brace) (htokens ▸ by simp)
  | @loop w v pattern source more ts between body _ _ _ _ _ _ hjoin hbody =>
    have hsuffix : ts <:+ more := by
      cases hjoin with
      | none => exact List.suffix_rfl
      | some => exact ⟨[_, _], rfl⟩
    rcases List.mem_cons.1 hr' with rfl | hr'
    · exact hbody.within (htokens ▸
        (hsuffix.trans ⟨w :: (pattern ++ v :: source), by simp⟩).isInfix)
    · cases hjoin with
      | none => exact absurd hr' List.not_mem_nil
      | some =>
        obtain rfl := List.mem_singleton.1 hr'
        exact .enclosed (d := .parenthesis) (htokens ▸ by simp)
  | @dispatch w subject block arms _ _ harms =>
    obtain ⟨arm, harm, rfl⟩ := List.mem_map.1 hr'
    have hblock : r.Within (r.inside block.children block.span) :=
      .enclosed (d := .brace) (htokens ▸ by simp)
    have hinfix : block.children <:+: (r.inside block.children block.span).tokens := List.infix_rfl
    exact hblock.trans (harms.exists_head hinfix arm harm).2
  | @scope w l ts body _ _ hbody =>
    obtain rfl := List.mem_singleton.1 hr'
    exact hbody.within (htokens ▸ ⟨[w, .leaf l], [], by simp⟩)

end Forms

/-- **A construct in a region** begins a region within it. -/
theorem Region.Contains.exists_takes {r : Region} {c : Construct} (h : r.Contains c) :
    ∃ r' rest, r.Within r' ∧ Construct.Takes r' r'.tokens c rest := by
  induction h with
  | first h => exact ⟨_, _, .refl _, h⟩
  | later h _ ih =>
    obtain ⟨r', rest, hwithin, htakes⟩ := ih
    exact ⟨r', rest, (Within.goOn h.suffix.isInfix).trans hwithin, htakes⟩
  | group _ _ ih ih' =>
    obtain ⟨_, _, houter, hgroup⟩ := ih
    obtain ⟨r', rest, hwithin, htakes⟩ := ih'
    exact ⟨r', rest, (houter.trans (hgroup.within List.infix_rfl rfl)).trans hwithin, htakes⟩
  | body _ hsplits hbody _ ih ih' =>
    obtain ⟨_, _, houter, hpayload⟩ := ih
    obtain ⟨r', rest, hwithin, htakes⟩ := ih'
    exact ⟨r', rest, ((houter.trans (hpayload.within List.infix_rfl rfl)).trans
      (hsplits.1.within hbody)).trans hwithin, htakes⟩

/-- **What a construct goes into**, at whatever depth, is within the region. -/
theorem Region.Contains.within {r r' : Region} {c : Construct} (h : r.Contains c)
    (hc : c.inside? = some r') : r.Within r' := by
  obtain ⟨_, _, hwithin, htakes⟩ := h.exists_takes
  exact hwithin.trans (htakes.within List.infix_rfl hc)

end TokenTemplate
