import TokenTemplate.Proofs.Grammar.Sibling
import TokenTemplate.Proofs.Output.Balance
import TokenTemplate.Proofs.Routine.Grouped

/-!
# Constructs without brackets of their own

Brackets come into an output in two ways: with the delimiters of groups, in pairs, and with texts. A
construct is calm, `TokenTemplate.Construct.IsCalm`, if the texts that it stands for have no brackets
and it is no directive to indent or to unindent. Only string and character literals, and the texts of
blocks, are in question: no other token of a template has a bracket in it
(`TokenTemplate.bracketFree_of_spells`).

So if all constructs of a template are calm, all instructions that they come to are
(`TokenTemplate.Region.Yields.isCalm`).
-/

namespace TokenTemplate

/-! ### Tokens at all depths -/

/-- **Every token without parts**, at any depth, obeys the rules of its kind. -/
theorem Fills.spells {source : List Char} {i j : Nat} (h : Fills source i ts j) :
    ∀ l, .leaf l ∈ Tree.allParts ts → Spells (.leaf l.kind) l.text.toList := by
  induction h with
  | nil => exact fun l hl => absurd hl List.not_mem_nil
  | leaf _ _ hspells _ _ _ _ ih =>
    intro l hl
    rw [Tree.allParts, Tree.parts, List.singleton_append, List.mem_cons] at hl
    rcases hl with heq | hl
    · obtain rfl := Tree.leaf.inj heq
      exact hspells
    · exact ih l hl
  | group _ _ _ _ _ _ _ ihc ih =>
    intro l hl
    rw [Tree.allParts, Tree.parts, List.cons_append, List.mem_cons, List.mem_append] at hl
    rcases hl with heq | hl | hl
    · exact absurd heq nofun
    · exact ihc l hl
    · exact ih l hl

/-- The tokens that a construct is read from, apart from sigils and the like. -/
def Construct.tokens : Construct → List Tree
  | .leaf l => [.leaf l]
  | .group _ inside => inside.tokens
  | .payload _ scope => scope.tokens
  | _ => []

theorem Construct.Takes.allParts_subset {r : Region} {rest : List Tree} {c : Construct}
    (h : Takes r r.tokens c rest) : Tree.allParts c.tokens ⊆ Tree.allParts r.tokens := by
  cases hc : c.inside? with
  | some r' =>
    have hwithin := (h.within List.infix_rfl hc).siblings.allParts_subset
    cases c with
    | payload | group =>
      obtain rfl := Option.some.inj hc
      exact hwithin
    | block => exact List.nil_subset _
    | escape | directive | name | leaf => exact absurd hc nofun
  | none =>
    generalize r.tokens = ts at h
    cases h with
    | @plain t =>
      cases t with
      | leaf l =>
        have hsub : [Tree.leaf l] ⊆ Tree.leaf l :: rest :=
          List.cons_subset_cons _ (List.nil_subset rest)
        exact Tree.allParts_subset hsub
      | group => exact absurd hc nofun
    | block | payload => exact absurd hc nofun
    | escape | directive | name => exact List.nil_subset _

theorem Region.Contains.allParts_subset {r : Region} {c : Construct} (h : r.Contains c) :
    Tree.allParts c.tokens ⊆ Tree.allParts r.tokens := by
  obtain ⟨r', rest, hwithin, htakes⟩ := h.exists_takes
  exact List.Subset.trans htakes.allParts_subset hwithin.siblings.allParts_subset

/-! ### Tokens without brackets -/

theorem bracketOf?_eq_none_iff {c : Char} :
    bracketOf? c = none ↔ ∀ d : Delimiter, c ≠ d.openChar ∧ c ≠ d.closeChar := by
  rw [bracketOf?, Option.or_eq_none_iff, Option.map_eq_none_iff, Option.map_eq_none_iff,
    Delimiter.ofOpen?_eq_none_iff, Delimiter.ofClose?_eq_none_iff, forall_and]

theorem bracketOf?_of_isWord {c : Char} (h : Unicode.isWord c = true) : bracketOf? c = none := by
  refine bracketOf?_eq_none_iff.2 fun d => ⟨?_, ?_⟩
  · rintro rfl
    exact absurd (h.symm.trans (Unicode.isWord_openChar d)) Bool.noConfusion
  · rintro rfl
    exact absurd (h.symm.trans (Unicode.isWord_closeChar d)) Bool.noConfusion

/-- **Only literals can have brackets in them.** -/
theorem bracketFree_of_spells {k : LeafKind} {s : String} (h : Spells (.leaf k) s.toList)
    (hstring : k ≠ .string) (hchar : k ≠ .char) : BracketFree s := by
  intro c hc
  generalize s.toList = cs at h hc
  cases h with
  | string => exact absurd rfl hstring
  | character | escaped => exact absurd rfl hchar
  | number hd hw =>
    rcases List.mem_cons.1 hc with rfl | hc
    · exact bracketOf?_of_isWord (Unicode.isWord_of_isDecimal hd)
    · exact bracketOf?_of_isWord (hw c hc)
  | decimal hd hw he hv =>
    simp only [List.mem_cons, List.mem_append] at hc
    rcases hc with rfl | hc | rfl | rfl | hc
    · exact bracketOf?_of_isWord (Unicode.isWord_of_isDecimal hd)
    · exact bracketOf?_of_isWord (hw c hc)
    · rfl
    · exact bracketOf?_of_isWord (Unicode.isWord_of_isDecimal he)
    · exact bracketOf?_of_isWord (hv c hc)
  | name hc' _ hw =>
    rcases List.mem_cons.1 hc with rfl | hc
    · exact bracketOf?_of_isWord hc'
    · exact bracketOf?_of_isWord (hw c hc)
  | punct _ _ ho hclose =>
    obtain rfl := List.mem_singleton.1 hc
    exact bracketOf?_eq_none_iff.2 fun d => ⟨ho d, hclose d⟩

theorem bracketFree_empty : BracketFree "" := fun c hc => absurd hc (by simp)

theorem bracketFree_sigil : BracketFree (String.singleton sigil) := by
  intro c hc
  rw [String.toList_singleton, List.mem_singleton] at hc
  rw [hc]
  rfl

/-! ### Calm constructs -/

/-- A token whose text has no brackets, if it is a literal: that of a string is what it stands for. -/
structure Leaf.IsCalm (l : Leaf) : Prop where
  /-- A string. -/
  string : l.kind = .string → ∀ s, Payload.tokens? l.text.toList = some [.text s] → BracketFree s
  /-- A character. -/
  char : l.kind = .char → BracketFree l.text

/-- Segments whose texts have no brackets. -/
def Segment.AreCalm (segments : List Segment) : Prop :=
  ∀ text, .literal text ∈ segments → BracketFree text

/-- **A construct without brackets of its own**, which does not indent by itself either. -/
def Construct.IsCalm : Construct → Prop
  | .leaf l => l.IsCalm
  | .payload _ scope => ∀ l, scope.tokens = [.leaf l] → l.IsCalm
  | .block _ inside =>
    ∀ levels segments, Segment.ofRegion levels inside = .ok segments → Segment.AreCalm segments
  | .directive _ _ _ w => w ≠ .indent ∧ w ≠ .unindent
  | _ => True

/-- **An instruction that writes no brackets**, and does not indent, unless a value does. -/
def Instruction.IsCalm : Instruction → Prop
  | .append text => BracketFree text
  | .layout w => w ≠ .indent ∧ w ≠ .unindent
  | .interpolate segments => Segment.AreCalm segments
  | _ => True

theorem Construct.Parses.isCalm {bodies : Bodies} {r rest : Region} {node : Node} {span : Span}
    {i : Instruction} (h : Parses bodies r node rest)
    (hr : ∀ l, r.tokens = [.leaf l] → l.IsCalm) (hi : i ∈ node.instructions span) : i.IsCalm := by
  cases h with
  | literal htokens hkind htext =>
    obtain rfl := List.mem_singleton.1 hi
    exact (hr _ htokens).string hkind _ (decode_eq_ok_iff.1 htext)
  | arrow | braces | both | loop | dispatch | scope | expression =>
    obtain rfl := List.mem_singleton.1 hi
    trivial

theorem Segment.AreCalm.join {segments : List Segment} (h : AreCalm segments) :
    BracketFree (String.join (segments.map fun
      | .literal text => text
      | .site _ => "")) := by
  refine bracketFree_join fun s hs => ?_
  obtain ⟨segment, hsegment, rfl⟩ := List.mem_map.1 hs
  cases segment with
  | literal text => exact h text hsegment
  | site e => exact bracketFree_empty

/-- **If the constructs of a template are calm**, so are the instructions that they come to. -/
theorem Region.Yields.isCalm {settings : Settings} {source : List Char} {r : Region}
    {i : Instruction} (hr : Region.ofSource settings source = .ok r)
    (hcalm : ∀ c, r.Contains c → c.IsCalm) (h : r.Yields i) : i.IsCalm := by
  obtain ⟨c, node, span, hc, hlowers, hi⟩ := h
  have hcalm := hcalm c hc
  cases hlowers with
  | escape =>
    obtain rfl := List.mem_singleton.1 hi
    exact bracketFree_sigil
  | directive =>
    obtain rfl := List.mem_singleton.1 hi
    exact hcalm
  | name =>
    obtain rfl := List.mem_singleton.1 hi
    trivial
  | payload _ h => exact h.isCalm hcalm hi
  | @block start block levels segments h =>
    have hsegments := hcalm levels segments h
    cases hany : segments.any Segment.isSite with
    | true =>
      rw [hany] at hi
      obtain rfl := List.mem_singleton.1 hi
      exact hsegments
    | false =>
      rw [hany] at hi
      obtain rfl := List.mem_singleton.1 hi
      exact hsegments.join
  | leaf h =>
    cases h with
    | quoted hkind hs =>
      obtain rfl := List.mem_singleton.1 hi
      exact hcalm.string hkind _ (Construct.decode_eq_ok_iff.1 hs)
    | token hkind =>
      obtain rfl := List.mem_singleton.1 hi
      rename_i l
      -- a character is calm by assumption, and no other token has a bracket in its text
      by_cases hchar : l.kind = .char
      · exact hcalm.char hchar
      · obtain ⟨ts, hts, rfl⟩ := map_eq_ok_iff.1 hr
        have hmem := hc.allParts_subset (List.mem_append_left _ List.mem_cons_self)
        exact bracketFree_of_spells ((Tree.fills_of_ofSource hts).1.spells l hmem) hkind hchar

/-- **A template without literals is calm** if it has neither directives nor blocks, which is seen at
its tokens. -/
theorem Region.isCalm_of_tokens {r : Region}
    (hliteral : ∀ l, .leaf l ∈ Tree.allParts r.tokens → l.kind ≠ .string ∧ l.kind ≠ .char)
    (hdirective : ∀ t ∈ Tree.allParts r.tokens, t.isPunct '<' = false)
    (hblock : ∀ l, .leaf l ∈ Tree.allParts r.tokens → l.text ≠ "_") {c : Construct}
    (h : r.Contains c) : c.IsCalm := by
  have hleaf (l : Leaf) (hl : .leaf l ∈ Tree.allParts c.tokens) : l.IsCalm := by
    obtain ⟨hstring, hchar⟩ := hliteral l (h.allParts_subset hl)
    exact ⟨fun heq => absurd heq hstring, fun heq => absurd heq hchar⟩
  obtain ⟨r', rest, hwithin, htakes⟩ := h.exists_takes
  have hmem (t : Tree) (ht : t ∈ r'.tokens) : t ∈ Tree.allParts r.tokens :=
    hwithin.siblings.allParts_subset (Tree.mem_allParts_of_mem ht)
  generalize r'.tokens = ts at htakes hmem
  cases htakes with
  | escape | name => trivial
  | directive _ hu =>
    have hnot := hdirective _ (hmem _ (List.mem_cons_of_mem _ List.mem_cons_self))
    exact absurd (hu.symm.trans hnot) (by decide)
  | block _ _ htext =>
    exact absurd htext (hblock _ (hmem _ (List.mem_cons_of_mem _ List.mem_cons_self)))
  | payload =>
    intro l htokens
    refine hleaf l ?_
    rw [Construct.tokens, htokens]
    exact List.mem_append_left _ List.mem_cons_self
  | @plain t =>
    cases t with
    | leaf l => exact hleaf l (List.mem_append_left _ List.mem_cons_self)
    | group => trivial

end TokenTemplate
