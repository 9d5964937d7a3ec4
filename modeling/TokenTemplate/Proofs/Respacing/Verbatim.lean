import TokenTemplate.Proofs.Grammar.Recognition
import TokenTemplate.Proofs.Respacing.Body
import TokenTemplate.Proofs.Template.Coverage

/-!
# Tokens that have the same text

The same text may stand in two templates, in the one after an arrow and in the other in brackets.
That is more than having the same tokens, `TokenTemplate.Tree.SameText`: the white space between them
is the same as well. What is around them does not matter, and neither does the white space there.

So what stands in such a place stands for the same in both templates: a payload
(`TokenTemplate.Respacing.Scopes.exists_expression`,
`TokenTemplate.Respacing.Scopes.exists_case`), and a body, be it after an arrow or in brackets
(`TokenTemplate.Respacing.Scopes.exists_body`). For, the one text may be taken for a respacing of
the other, with all gaps left as they were.
-/

namespace TokenTemplate

/-! ### The same text -/

namespace Tree

/-- What stands between consecutive tokens. -/
def gapTexts (source : List Char) (ts : List Tree) : List (List Char) :=
  (gaps ts).map fun g => slice source g.1 g.2

/-- **Rows of tokens with the same text**: the same tokens, and the same white space between them. -/
structure SameText (source source' : List Char) (ts ts' : List Tree) : Prop where
  /-- The tokens are the same, wherever they stand. -/
  allShapes_eq : allShapes ts' = allShapes ts
  /-- So is what stands between them. -/
  gapTexts_eq : gapTexts source' ts' = gapTexts source ts

theorem SameText.symm {source source' : List Char} {ts ts' : List Tree}
    (h : SameText source source' ts ts') : SameText source' source ts' ts :=
  ⟨h.allShapes_eq.symm, h.gapTexts_eq.symm⟩

end Tree

/-- Tokens that stand in a source, wherever it may be. -/
def Filled (source : List Char) (ts : List Tree) : Prop :=
  ∃ i j, Fills source i ts j

namespace Filled

variable {source : List Char} {d : Delimiter} {ts us inner : List Tree} {span : Span}

theorem left (h : Filled source (ts ++ us)) : Filled source ts := by
  obtain ⟨i, j, h⟩ := h
  obtain ⟨k, hts, -⟩ := h.append_inv
  exact ⟨i, k, hts⟩

theorem right (h : Filled source (ts ++ us)) : Filled source us := by
  obtain ⟨i, j, h⟩ := h
  obtain ⟨k, -, hus⟩ := h.append_inv
  exact ⟨k, j, hus⟩

theorem tail {t : Tree} (h : Filled source (t :: ts)) : Filled source ts :=
  @right source [t] ts h

theorem children (h : Filled source (.group d inner span :: ts)) : Filled source inner := by
  obtain ⟨i, j, h⟩ := h
  cases h with
  | group _ _ _ _ _ hchildren _ => exact ⟨_, _, hchildren⟩

end Filled

/-- The tokens of a body. -/
def BodyForm.tokens : BodyForm → List Tree
  | .arrow ts => ts
  | .braces g => g.children

theorem BodyForm.Spells.filled {source : List Char} {body : BodyForm} {ts : List Tree}
    (h : body.Spells ts) (hts : Filled source ts) : Filled source body.tokens := by
  cases h with
  | arrow => exact hts.tail.tail
  | braces => exact hts.children

namespace Respacing

/-- **The change from one text to another** that leaves all gaps as they were. -/
def verbatim (source source' : List Char) : Respacing :=
  ⟨source, source', fun _ _ => True⟩

variable (ρ : Respacing)

/-- Rows of tokens in both texts, wherever they stand. -/
def Rows (ts ts' : List Tree) : Prop :=
  ∃ i i' j j', ρ.Row i i' ts ts' j j'

/-- **Regions of texts in which all gaps are as they were**, whatever tokens are still to come. -/
structure Scopes (r r' : Region) : Prop where
  /-- The one region is of the text. -/
  source_eq : r.source = ρ.source
  /-- The other one is of the changed text. -/
  source_eq' : r'.source = ρ.source'
  /-- The choices of the caller are the same. -/
  settings_eq : r'.settings = r.settings
  /-- All gaps have been left as they were. -/
  keeps : ∀ s, ρ.Keeps s

variable {ρ}

/-! ### Rows wherever they stand -/

section Rows

variable {t : Tree} {ts ts' us row : List Tree}

theorem rows_of_sameText {source source' : List Char} (h : Filled source ts)
    (h' : Filled source' ts') (hsame : Tree.SameText source source' ts ts') :
    (verbatim source source').Rows ts ts' := by
  obtain ⟨i, j, h⟩ := h
  obtain ⟨i', j', h'⟩ := h'
  have hgaps := hsame.gapTexts_eq
  rw [Tree.gapTexts, Tree.gapTexts, ← List.forall₂_eq_eq_eq, List.forall₂_map_left_iff,
    List.forall₂_map_right_iff] at hgaps
  exact Row.of_gaps h h' hsame.allShapes_eq
    (hgaps.flip.imp fun _ _ hslice => ⟨congrArg Whitespace.ofGap? hslice, fun _ => hslice⟩)

theorem Rows.nil_inv (h : ρ.Rows [] row) : row = [] := by
  obtain ⟨i, i', j, j', h⟩ := h
  exact h.nil_inv.1

/-- The first token of a row. -/
theorem Rows.cons_inv (h : ρ.Rows (t :: ts) row) :
    ∃ t' ts', row = t' :: ts' ∧ t'.shape = t.shape ∧ ρ.Rows [t] [t'] ∧ ρ.Rows ts ts' := by
  obtain ⟨i, i', j, j', h⟩ := h
  obtain ⟨t', ts', a, a', b, b', rfl, hgap, ht, hrest⟩ := h.head
  obtain ⟨hb, hb'⟩ := hrest.start_le
  exact ⟨t', ts', rfl, ht.shape_eq, ⟨i, i', b, b', .cons hgap ht (.nil (.refl b b') hb hb')⟩,
    b, b', j, j', hrest⟩

theorem Rows.append_inv (h : ρ.Rows (ts ++ us) row) :
    ∃ ts' us', row = ts' ++ us' ∧ ρ.Rows ts ts' ∧ ρ.Rows us us' := by
  obtain ⟨i, i', j, j', h⟩ := h
  obtain ⟨ts', us', k, k', rfl, hts, hus, -⟩ := h.append
  exact ⟨ts', us', rfl, ⟨i, i', k, k', hts⟩, k, k', j, j', hus⟩

theorem Rows.ne_nil (h : ρ.Rows ts row) (hne : ts ≠ []) : row ≠ [] := by
  obtain ⟨i, i', j, j', h⟩ := h
  exact h.ne_nil hne

theorem Rows.allShapes_eq (h : ρ.Rows ts row) : Tree.allShapes row = Tree.allShapes ts := by
  obtain ⟨i, i', j, j', h⟩ := h
  exact h.allShapes_eq

/-- What no token of a row is by its shape, none is in the other text. -/
theorem Rows.forall_eq_false {p : Tree → Bool} (hp : Tree.IsShaped p) (h : ρ.Rows ts row)
    (hall : ∀ t ∈ ts, p t = false) : ∀ t ∈ row, p t = false := by
  induction ts generalizing row with
  | nil =>
    obtain rfl := h.nil_inv
    exact List.forall_mem_nil _
  | cons t ts ih =>
    obtain ⟨t', ts', rfl, hshape, -, hrest⟩ := h.cons_inv
    rw [List.forall_mem_cons] at hall ⊢
    exact ⟨(hp.eq_of_shape_eq hshape).trans hall.1, ih hrest hall.2⟩

/-- A payload that would take a whole row in the one text would take it in the other. -/
theorem Rows.goesOn {stop : Region.Stop} (hstop : ρ.EndsAlike stop) (h : ρ.Rows ts row)
    {r r' : Region} (hgo : r.GoesOn stop none ts []) : r'.GoesOn stop none row [] := by
  obtain ⟨i, i', j, j', h⟩ := h
  have htaken : (r'.splitFrom stop none row).1.length = (r.splitFrom stop none ts).1.length :=
    length_splitFrom_eq hstop h rfl
  have hall := congrArg List.length (r.splitFrom_append stop none ts)
  have hall' := congrArg List.length (r'.splitFrom_append stop none row)
  rw [Region.goesOn_nil_iff] at hgo ⊢
  rw [List.length_append, hgo, List.length_nil] at hall
  rw [List.length_append] at hall'
  have hlength := h.length_eq
  exact List.length_eq_zero_iff.1 (by omega)

/-- A row is free of arrows in both texts or in none. -/
theorem Rows.arrowFree (h : ρ.Rows ts row) (hfree : ArrowFree ts) : ArrowFree row :=
  (Region.goesOn_arrow_iff (r := default) rfl).1
    (h.goesOn endsAlike_arrow ((Region.goesOn_arrow_iff (r := default) rfl).2 hfree))

theorem Rows.joinFree (h : ρ.Rows ts row) (hfree : JoinFree ts) : JoinFree row :=
  (Region.goesOn_join_iff (r := default) rfl).1
    (h.goesOn endsAlike_join ((Region.goesOn_join_iff (r := default) rfl).2 hfree))

theorem Rows.isCondition (h : ρ.Rows ts row) (hcond : IsCondition ts) : IsCondition row :=
  ⟨h.ne_nil hcond.ne_nil, h.arrowFree hcond.arrowFree,
    h.forall_eq_false (Tree.isShaped_isGroup .brace) hcond.not_brace⟩

end Rows

/-! ### Payloads -/

namespace Scopes

variable {r r' : Region} {ts ts' children children' pattern pattern' : List Tree}
  {guard guard' : Option (List Tree)} {span span' : Span} {i i' j j' : Nat}

theorem goOn (h : ρ.Scopes r r') (ts ts' : List Tree) : ρ.Scopes (r.goOn ts) (r'.goOn ts') :=
  ⟨h.source_eq, h.source_eq', h.settings_eq, h.keeps⟩

theorem inside (h : ρ.Scopes r r') (children children' : List Tree) (span span' : Span) :
    ρ.Scopes (r.inside children span) (r'.inside children' span') :=
  ⟨h.source_eq, h.source_eq', h.settings_eq, h.keeps⟩

theorem regions (h : ρ.Scopes r r') (hrow : ρ.Row i i' r.tokens r'.tokens j j') :
    ρ.Regions i i' r r' j j' :=
  ⟨h.source_eq, h.source_eq', h.settings_eq, hrow, fun s _ => h.keeps s⟩

/-- The text of a payload is the same. -/
theorem textOf_eq (h : ρ.Scopes r r') (hrows : ρ.Rows ts ts') : r'.textOf ts' = r.textOf ts := by
  obtain ⟨i, i', j, j', hrow⟩ := hrows
  by_cases hne : ts = []
  · subst hne
    obtain ⟨rfl, -⟩ := hrow.nil_inv
    rfl
  · obtain ⟨a, a', k, k', -, -, hrow, hruns, hruns'⟩ := hrow.exists_runs hne
    exact textOf_eq_of_keeps hrow hruns hruns' h.source_eq h.source_eq' (h.keeps _)

/-- **A payload is the same expression** in both texts. -/
theorem exists_expression {e : Expression} (h : ρ.Scopes r r') (hrows : ρ.Rows ts ts')
    (h' : r.Says ts e) : ∃ e', r'.Says ts' e' ∧ e'.bare = e.bare := by
  simp only [Region.Says, h.settings_eq, h.textOf_eq hrows]
  exact (Expression.ofSource_eq_ok h').2 _

/-- **A pattern is the same case** in both texts, with its guard if it has one. -/
theorem exists_case {c : Case} (h : ρ.Scopes r r') (hpattern : ρ.Rows pattern pattern')
    (hguard : guard.Rel ρ.Rows guard') (htests : r.Tests pattern guard c) :
    ∃ c', r'.Tests pattern' guard' c' ∧ c'.bare = c.bare := by
  have hguards : guard'.map r'.textOf = guard.map r.textOf := by
    cases hguard with
    | none => rfl
    | some hrows => exact congrArg some (h.textOf_eq hrows)
  simp only [Region.Tests, h.settings_eq, h.textOf_eq hpattern, hguards]
  exact (Case.ofSource_eq_ok htests).2 _

/-! ### Bodies -/

section Bodies

variable {bodies bodies' : Bodies} {body body' : BodyForm} {routine : Routine}

/-- A region that is compiled as a whole is compiled to the same routine in both texts. -/
theorem exists_compiles (hbodies : ρ.KeepsBodies bodies bodies') (hregular : bodies'.Regular)
    {edges edges' : Option Span} (h : ρ.Scopes r r') (hrow : ρ.Row i i' r.tokens r'.tokens j j')
    (hedges : ρ.Edges i i' j j' edges edges') (hcompiles : bodies.Compiles edges r routine) :
    ∃ routine', bodies'.Compiles edges' r' routine' ∧ routine'.bare = routine.bare := by
  obtain ⟨routine', rest', -, -, hcompiles', hbare, -⟩ :=
    hbodies (h.regions hrow) hedges (.inr rfl) hcompiles fun s _ => h.keeps s
  obtain rfl := hregular.whole hcompiles'
  exact ⟨routine', hcompiles', hbare⟩

/-- **A body is the same routine** in both texts, whether it stands after an arrow or in brackets. -/
theorem exists_body (hbodies : ρ.KeepsBodies bodies bodies') (hregular : bodies'.Regular)
    (h : ρ.Scopes r r') (hrows : ρ.Rows body.tokens body'.tokens)
    (hmeans : body.Means bodies r routine) :
    ∃ routine', body'.Means bodies' r' routine' ∧ routine'.bare = routine.bare := by
  obtain ⟨i, i', j, j', hrow⟩ := hrows
  cases body with
  | arrow ts =>
    cases body' with
    | arrow ts' => exact (h.goOn ts ts').exists_compiles hbodies hregular hrow edges_none hmeans
    | braces g' =>
      have hmixed : ρ.Scopes (r.goOn ts) (r'.inside g'.children g'.span) :=
        ⟨h.source_eq, h.source_eq', h.settings_eq, h.keeps⟩
      exact hmixed.exists_compiles hbodies hregular hrow edges_none hmeans
  | braces g =>
    cases body' with
    | arrow ts' =>
      have hmixed : ρ.Scopes (r.inside g.children g.span) (r'.goOn ts') :=
        ⟨h.source_eq, h.source_eq', h.settings_eq, h.keeps⟩
      exact hmixed.exists_compiles hbodies hregular hrow edges_none hmeans
    | braces g' =>
      exact (h.inside g.children g'.children g.span g'.span).exists_compiles hbodies hregular hrow
        edges_none hmeans

/-- **What goes between the items of a loop** is the same routine in both texts. The white space next
to its brackets counts, and it is the same. -/
theorem exists_between (hbodies : ρ.KeepsBodies bodies bodies') (hregular : bodies'.Regular)
    (h : ρ.Scopes r r') {form form' : Option Enclosed} {between : Option Routine}
    (hrows : form.Rel (fun g g' => ρ.Rows [g.tree .parenthesis] [g'.tree .parenthesis]) form')
    (hmeans : form.Rel (fun g => bodies.Compiles (some g.span) (r.inside g.children g.span))
      between) :
    ∃ between', form'.Rel
        (fun g => bodies'.Compiles (some g.span) (r'.inside g.children g.span)) between' ∧
      Routine.bare? between' = Routine.bare? between := by
  cases hrows with
  | none =>
    cases hmeans
    exact ⟨none, .none, rfl⟩
  | @some g g' hrows =>
    cases hmeans with
    | some hcompiles =>
      obtain ⟨i, i', j, j', hrow⟩ := hrows
      obtain ⟨t', ts', a, a', b, b', heq, -, ht, -⟩ := hrow.head
      obtain ⟨rfl, -⟩ := List.cons.inj heq
      have hregions : ρ.Regions i i' (r.goOn _) (r'.goOn _) j j' := (h.goOn _ _).regions hrow
      obtain ⟨children', span', c, c', hg', -, -, hgroups⟩ := hregions.inside ht
        fun s _ => h.keeps s
      obtain ⟨-, rfl, rfl⟩ := Tree.group.inj hg'
      obtain ⟨routine', hcompiles', hbare⟩ := (h.inside _ _ _ _).exists_compiles hbodies hregular
        hgroups.regions.row hgroups.edges hcompiles
      exact ⟨some routine', .some hcompiles', Routine.bare?_some_of_bare_eq hbare⟩

end Bodies

end Scopes

end Respacing

end TokenTemplate
