import TokenTemplate.Proofs.Grammar.Recognition

/-!
# The constructs of a template at all depths

A construct is in a template, `TokenTemplate.Region.Contains`, if it is one of the row that the
template is, or one of a group or of a body that stands somewhere in it. The bodies of a control
construct are the regions of its parts, `TokenTemplate.ControlForm.regions`.

Each construct but a group comes to one element, `TokenTemplate.Construct.Lowers`. The routines in it
are what its bodies are compiled to (`TokenTemplate.Construct.exists_region`).
-/

namespace TokenTemplate

/-! ### Bodies as regions -/

/-- Where a body stands. -/
def BodyForm.region (r : Region) : BodyForm → Region
  | .arrow ts => r.goOn ts
  | .braces g => r.inside g.children g.span

/-- **Where the bodies of a control construct stand.** -/
def ControlForm.regions (r : Region) : ControlForm → List Region
  | .choice _ yes no => yes.region r :: (no.map fun g => r.inside g.children g.span).toList
  | .loop _ _ between body =>
    body.region r :: (between.map fun g => r.inside g.children g.span).toList
  | .dispatch _ block arms =>
    arms.map fun arm => arm.body.region (r.inside block.children block.span)
  | .scope _ body => [body.region r]

/-- **The constructs in a region**, at all depths. -/
inductive Region.Contains : Region → Construct → Prop
  /-- The first one of its row. -/
  | first {r : Region} {c : Construct} {rest : List Tree} (h : Construct.Takes r r.tokens c rest) :
      Contains r c
  /-- One that comes later in its row. -/
  | later {r : Region} {c c' : Construct} {rest : List Tree}
      (h : Construct.Takes r r.tokens c rest) (h' : Contains (r.goOn rest) c') : Contains r c'
  /-- One in a group. -/
  | group {r group : Region} {c : Construct} {d : Delimiter} (h : Contains r (.group d group))
      (h' : Contains group c) : Contains r c
  /-- One in a body of a control construct. -/
  | body {r scope body : Region} {c : Construct} {start : Span} {form : ControlForm}
      (h : Contains r (.payload start scope)) (hsplits : form.Splits scope.tokens)
      (hbody : body ∈ form.regions scope) (h' : Contains body c) : Contains r c

/-! ### Elements -/

/-- **What a construct comes to**, unless it is a group. -/
inductive Construct.Lowers : Construct → Node → Prop
  /-- A sigil. -/
  | escape {first second : Span} : Lowers (.escape first second) (.token (String.singleton sigil))
  /-- The segments of a block. -/
  | block {start : Span} {block : Region} {levels : Nat} {segments : List Segment}
      (h : Segment.ofRegion levels block = .ok segments) :
      Lowers (.block start block) (.interpolation (segments.any Segment.isSite) segments)
  /-- A mark. -/
  | directive {start mark stop : Span} {w : Whitespace} :
      Lowers (.directive start mark stop w) (.directive w)
  /-- The splice of a name. -/
  | name {start : Span} {l : Leaf} : Lowers (.name start l) (.name l.text)
  /-- What stands in the brackets after a sigil, with nothing left. -/
  | payload {start : Span} {scope rest : Region} {bodies : Bodies} {node : Node}
      (hbodies : bodies.Regular) (h : Construct.Parses bodies scope node rest)
      (hrest : rest.tokens = []) : Lowers (.payload start scope) node
  /-- A token by itself. -/
  | leaf {r : Region} {l : Leaf} {node : Node} (h : Body.Alone r l node) : Lowers (.leaf l) node

theorem Construct.Lowers.isNeutral {c : Construct} {node : Node} (h : c.Lowers node) :
    node.IsNeutral := by
  cases h with
  | payload _ h => cases h <;> trivial
  | leaf h => cases h <;> trivial
  | escape | block | directive | name => trivial

/-- The routines in an element. -/
def Node.bodies : Node → List Routine
  | .condition _ yes no => yes :: no.toList
  | .loop _ _ body join => body :: join.toList
  | .dispatch _ arms => arms.map (·.body)
  | .scope _ body => [body]
  | _ => []

/-- Each item of the second of two related rows is related to one of the first. -/
theorem exists_of_forall₂ {α β : Type} {R : α → β → Prop} {as : List α} {bs : List β} {b : β}
    (h : List.Forall₂ R as bs) (hb : b ∈ bs) : ∃ a ∈ as, R a b := by
  induction h with
  | nil => exact absurd hb List.not_mem_nil
  | cons h _ ih =>
    rcases List.mem_cons.1 hb with rfl | hb
    · exact ⟨_, List.mem_cons_self, h⟩
    · obtain ⟨a, ha, hab⟩ := ih hb
      exact ⟨a, List.mem_cons_of_mem _ ha, hab⟩

section Means

variable {bodies : Bodies} {r : Region} {body : Routine}

theorem BodyForm.Means.compiles {form : BodyForm} (h : form.Means bodies r body) :
    bodies.Compiles none (form.region r) body := by
  cases form <;> exact h

/-- The routines of a control construct are compiled where its bodies stand. -/
theorem ControlForm.Means.exists_region {form : ControlForm} {node : Node}
    (h : form.Means bodies r node) (hbody : body ∈ node.bodies) :
    ∃ r' ∈ form.regions r, ∃ edges, bodies.Compiles edges r' body := by
  cases h with
  | choice htest hyes hno =>
    rcases List.mem_cons.1 hbody with rfl | hbody
    · exact ⟨_, List.mem_cons_self, none, hyes.compiles⟩
    · cases hno with
      | none => exact absurd hbody List.not_mem_nil
      | some hno =>
        obtain rfl := List.mem_singleton.1 hbody
        exact ⟨_, List.mem_cons_of_mem _ (List.mem_singleton.2 rfl), none, hno⟩
  | loop hpattern hsource hbetween hmeans =>
    rcases List.mem_cons.1 hbody with rfl | hbody
    · exact ⟨_, List.mem_cons_self, none, hmeans.compiles⟩
    · cases hbetween with
      | none => exact absurd hbody List.not_mem_nil
      | some hbetween =>
        obtain rfl := List.mem_singleton.1 hbody
        exact ⟨_, List.mem_cons_of_mem _ (List.mem_singleton.2 rfl), _, hbetween⟩
  | dispatch _ harms =>
    obtain ⟨arm, harm, rfl⟩ := List.mem_map.1 hbody
    obtain ⟨form, hform, hmeans⟩ := exists_of_forall₂ harms harm
    exact ⟨_, List.mem_map.2 ⟨form, hform, rfl⟩, none, hmeans.body.compiles⟩
  | scope hmeans =>
    obtain rfl := List.mem_singleton.1 hbody
    exact ⟨_, List.mem_singleton.2 rfl, none, hmeans.compiles⟩

/-- **What stands in the brackets after a sigil** is a control construct, a string literal, or an
expression that takes all tokens there. -/
theorem Construct.Parses.form_or {node : Node} {rest : Region} (hbodies : bodies.Regular)
    (h : Parses bodies r node rest) (hrest : rest.tokens = []) :
    (∃ form : ControlForm, form.Splits r.tokens ∧ form.Means bodies r node) ∨
      (∃ text, node = .literal text) ∨ ∃ e, node = .expression e ∧ r.tokens ≠ [] ∧
        r.Says r.tokens e := by
  -- the brackets hold a control construct as soon as the first word says so
  have hform : ∀ w ∈ ["if", "for", "match", "ref"], (∃ r', Word w r r') →
      ∃ form : ControlForm, form.Splits r.tokens ∧ form.Means bodies r node := by
    rintro w hmem ⟨r', t, ts, htokens, ht, -⟩
    have hw : r.tokens.head?.any (Tree.isWord w) = true := by
      rw [htokens]
      exact ht
    exact exists_form hbodies hw hmem h hrest
  cases h with
  | literal => exact .inr (.inl ⟨_, rfl⟩)
  | expression _ _ he =>
    obtain ⟨tokens, hcut, he⟩ := he
    obtain ⟨us, htokens, rfl, -⟩ := Region.takeUntil_eq_iff.1 hcut
    obtain rfl : us = [] := hrest
    rw [List.append_nil] at htokens
    obtain ⟨hne, hsays⟩ := expression_eq_ok_iff.1 he
    exact .inr (.inr ⟨_, rfl, htokens ▸ hne, htokens ▸ hsays⟩)
  | arrow hword | braces hword | both hword => exact .inl (hform "if" (by decide) ⟨_, hword⟩)
  | loop hword => exact .inl (hform "for" (by decide) ⟨_, hword⟩)
  | dispatch hword => exact .inl (hform "match" (by decide) ⟨_, hword⟩)
  | scope hword => exact .inl (hform "ref" (by decide) ⟨_, hword⟩)

/-- **The routines in what stands in brackets after a sigil** are compiled from the bodies there. -/
theorem Construct.exists_region {node : Node} {rest : Region} (hbodies : bodies.Regular)
    (h : Parses bodies r node rest) (hrest : rest.tokens = []) (hbody : body ∈ node.bodies) :
    ∃ form : ControlForm, form.Splits r.tokens ∧
      ∃ r' ∈ form.regions r, ∃ edges, bodies.Compiles edges r' body := by
  rcases h.form_or hbodies hrest with ⟨form, hsplits, hmeans⟩ | ⟨text, rfl⟩ | ⟨e, rfl, -⟩
  · exact ⟨form, hsplits, hmeans.exists_region hbody⟩
  · exact absurd hbody List.not_mem_nil
  · exact absurd hbody List.not_mem_nil

end Means

/-- **A construct that is placed comes to one element**, unless it is a group. The routines in it are
compiled from the bodies of the construct. -/
theorem Body.exists_node {b : Body} {levelsLeft room : Nat} {e e' : Encoder} {r : Region}
    {c : Construct} (h : b.place (levels b levelsLeft) room e r c = .ok e')
    (hgroup : ∀ d group, c ≠ .group d group) :
    ∃ node span cursor, c.Lowers node ∧ e' = e.add span cursor node e.opened ∧
      ∀ body ∈ node.bodies, ∃ start scope, c = .payload start scope ∧
        ∃ form : ControlForm, form.Splits scope.tokens ∧ ∃ r' ∈ form.regions scope,
          ∃ edges, (b.bodies (levels b levelsLeft)).Compiles edges r' body := by
  have hadd {node : Node} {span : Span} {cursor : Cursor} (hlowers : c.Lowers node)
      (hwrite : e.write span cursor node = .ok e') : e' = e.add span cursor node e.opened := by
    obtain ⟨opened, hopened, rfl⟩ := Encoder.write_eq_ok_iff.1 hwrite
    rw [Node.opened?_of_isNeutral hlowers.isNeutral] at hopened
    rw [Option.some.inj hopened]
  cases c with
  | escape first second =>
    exact ⟨_, _, _, .escape, hadd .escape h, fun body hbody => absurd hbody List.not_mem_nil⟩
  | directive start mark stop w =>
    exact ⟨_, _, _, .directive, hadd .directive h,
      fun body hbody => absurd hbody List.not_mem_nil⟩
  | name start l =>
    exact ⟨_, _, _, .name, hadd .name h, fun body hbody => absurd hbody List.not_mem_nil⟩
  | block start block =>
    obtain ⟨segments, hsegments, hwrite⟩ := place_block_eq_ok_iff.1 h
    exact ⟨_, _, _, .block hsegments, hadd (.block hsegments) hwrite,
      fun body hbody => absurd hbody List.not_mem_nil⟩
  | leaf l =>
    obtain ⟨node, halone, hwrite⟩ := place_leaf_eq_ok_iff.1 h
    refine ⟨_, _, _, .leaf halone, hadd (.leaf halone) hwrite, fun body hbody => ?_⟩
    cases halone <;> exact absurd hbody List.not_mem_nil
  | payload start scope =>
    obtain ⟨node, rest, hparses, hrest, hwrite⟩ := place_payload_eq_ok_iff.1 h
    have hbodies := bodies_regular b levelsLeft
    refine ⟨_, _, _, .payload hbodies hparses hrest, hadd (.payload hbodies hparses hrest) hwrite,
      fun body hbody => ?_⟩
    exact ⟨start, scope, rfl, Construct.exists_region hbodies hparses hrest hbody⟩
  | group d group => exact absurd rfl (hgroup d group)

end TokenTemplate
