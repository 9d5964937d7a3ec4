import TokenTemplate.Proofs.Respacing.Region

/-!
# Control constructs after a change of white space

What stands in the brackets after a sigil is read by the same rules in both texts: rule by rule,
what is accepted in the one is accepted in the other, and the nodes are alike,
`TokenTemplate.Node.Alike`: they come to the same instructions apart from places
(`TokenTemplate.Respacing.Regions.parses`).

The payloads have to be kept, and so do those of the bodies. Bodies are left open here as they are
in the rules: all that is asked is that corresponding regions are compiled to the same routine,
`TokenTemplate.Respacing.KeepsBodies`.
-/

namespace TokenTemplate

/-! ### Nodes that are alike -/

/-- **Nodes that come to the same**, wherever they stand. -/
structure Node.Alike (node node' : Node) : Prop where
  /-- Their instructions are the same apart from places. -/
  bare_eq : ∀ span span', Instruction.allBare (node'.instructions span') =
    Instruction.allBare (node.instructions span)
  /-- They open and close the same groups. -/
  opened_eq : ∀ opened, node'.opened? opened = node.opened? opened

namespace Node.Alike

/-- Where a node stands makes no difference. -/
theorem refl (node : Node) : node.Alike node := by
  refine ⟨fun span span' => ?_, fun _ => rfl⟩
  cases node with
  | interpolation evaluated segments => cases evaluated <;> rfl
  | _ => rfl

/-- Nodes of one instruction. -/
theorem of_instruction {node node' : Node} {i i' : Instruction}
    (hi : ∀ span, node.instructions span = [i]) (hi' : ∀ span, node'.instructions span = [i'])
    (hbare : i'.bare = i.bare) (hneutral : node.IsNeutral)
    (hneutral' : node'.IsNeutral) : node.Alike node' := by
  refine ⟨fun span span' => ?_, fun opened => ?_⟩
  · rw [hi, hi', Instruction.allBare_singleton, Instruction.allBare_singleton, hbare]
  · rw [Node.opened?_of_isNeutral hneutral, Node.opened?_of_isNeutral hneutral']

/-- Interpolated texts of which the segments are the same apart from places. -/
theorem of_segments {segments segments' : List Segment}
    (h : segments'.map Segment.bare = segments.map Segment.bare) :
    Alike (.interpolation (segments.any Segment.isSite) segments)
      (.interpolation (segments'.any Segment.isSite) segments') := by
  -- whether a segment is a site, and its text if it is none, are seen without its place
  have hmap {α : Type} (f : Segment → α) (hf : ∀ s, f s.bare = f s) :
      segments'.map f = segments.map f := by
    have hbare (ss : List Segment) : ss.map f = (ss.map Segment.bare).map f := by
      rw [List.map_map]
      exact List.map_congr_left fun s _ => (hf s).symm
    rw [hbare segments', h, ← hbare segments]
  have hsite : segments'.any Segment.isSite = segments.any Segment.isSite := by
    have hsites := congrArg (List.any · id) (hmap Segment.isSite (by rintro (_ | _) <;> rfl))
    rwa [List.any_map, List.any_map, Function.id_comp] at hsites
  rw [hsite]
  cases segments.any Segment.isSite with
  | true =>
    refine of_instruction (fun _ => rfl) (fun _ => rfl) ?_ trivial trivial
    rw [Instruction.bare, Instruction.bare, h]
  | false =>
    refine of_instruction (fun _ => rfl) (fun _ => rfl) ?_ trivial trivial
    exact congrArg (fun texts => Instruction.append (String.join texts))
      (hmap _ (by rintro (_ | _) <;> rfl))

end Node.Alike

theorem Routine.bare?_some_of_bare_eq {routine routine' : Routine}
    (h : routine'.bare = routine.bare) :
    Routine.bare? (some routine') = Routine.bare? (some routine) := by
  rw [Routine.bare?, Routine.bare?, h]

/-- The arms of a node as those of an instruction. -/
def Arm.pair (a : Arm) : Case × Routine :=
  (a.pattern, a.body)

namespace Respacing

variable (ρ : Respacing)

/-! ### Bodies -/

/-- Places that correspond, if they are given: those of two offsets. -/
inductive Places (i i' : Nat) : Option Position → Option Position → Prop
  /-- None is given. -/
  | none : Places i i' none none
  /-- They are those of the offsets. -/
  | some : Places i i' (some (.ofOffset ρ.source i)) (some (.ofOffset ρ.source' i'))

/-- Edges of a body that correspond, if they are given: they end where the body does. -/
structure Edges (i i' j j' : Nat) (edges edges' : Option Span) : Prop where
  /-- Where the body begins. -/
  before : ρ.Places i i' (edges.map (·.start.right)) (edges'.map (·.start.right))
  /-- Where it ends. -/
  after : ρ.Places j j' (edges.map (·.stop.left)) (edges'.map (·.stop.left))

/-- **Corresponding regions are compiled to the same routine**, apart from places, if its payloads
have been kept; and what is left of them corresponds. -/
def KeepsBodies (bodies bodies' : Bodies) : Prop :=
  ∀ {i i' j j' : Nat} {edges edges' : Option Span} {untilComma : Bool} {r r' rest : Region}
    {routine : Routine}, ρ.Regions i i' r r' j j' → ρ.Edges i i' j j' edges edges' →
    (edges = none ∨ untilComma = false) → bodies edges untilComma r = .ok (routine, rest) →
    (∀ s ∈ routine.payloads, ρ.Keeps s) →
    ∃ routine' rest' k k', bodies' edges' untilComma r' = .ok (routine', rest') ∧
      routine'.bare = routine.bare ∧ ρ.Regions k k' rest rest' j j'

variable {ρ} {i i' j j' k k' a a' b b' : Nat} {r r' rest inside inside' : Region}
  {bodies bodies' : Bodies} {body : Routine} {d : Delimiter}

theorem edges_none : ρ.Edges i i' j j' none none := ⟨.none, .none⟩

/-- The delimiters of a group as edges of its inside. -/
theorem Groups.edges (h : ρ.Groups d a a' inside inside' b b') :
    ρ.Edges (a + 1) (a' + 1) b b' (some inside.span) (some inside'.span) := by
  have hopen : d.openChar ≠ '\n' := by cases d <;> decide
  have hclose : d.closeChar ≠ '\n' := by cases d <;> decide
  rw [h.span_eq, h.span_eq']
  refine ⟨?_, ?_⟩
  · simp only [Option.map_some, Span.between]
    rw [Position.right_ofOffset h.opening hopen, Position.right_ofOffset h.opening' hopen]
    exact .some
  · simp only [Option.map_some, Span.between]
    rw [Position.left_ofOffset_succ h.closing hclose, Position.left_ofOffset_succ h.closing' hclose]
    exact .some

/-- A string literal stands alone in both texts or in none. -/
theorem Row.not_literal (h : ρ.Row i i' r.tokens r'.tokens j j')
    (hliteral : ∀ l, r.tokens = [.leaf l] → l.kind ≠ .string) :
    ∀ l, r'.tokens = [.leaf l] → l.kind ≠ .string := by
  intro l' hl' hkind
  have hshapes := h.allShapes_eq
  rw [hl'] at hshapes
  rcases hr : r.tokens with _ | ⟨⟨l⟩ | ⟨d, children, s⟩, _ | ⟨u, us⟩⟩ <;> rw [hr] at hshapes
  · exact absurd hshapes nofun
  · have hsame := congrArg Leaf.kind (Tree.leaf.inj (List.cons.inj hshapes).1)
    exact hliteral l hr (hsame.symm.trans hkind)
  · exact absurd (List.cons.inj hshapes).2 nofun
  · exact absurd (List.cons.inj hshapes).1 nofun
  · exact absurd (List.cons.inj hshapes).2 nofun

/-- The condition of a choice, after its word. -/
theorem Regions.tested {r₁ : Region} {test : Expression} (h : ρ.Regions i i' r r' j j')
    (hword : Construct.Word "if" r r₁) (htest : Construct.Evaluates .arrowOrBrace r₁ test rest)
    (hkeeps : ρ.Keeps test.span) :
    ∃ r₁' test' rest' k k', Construct.Word "if" r' r₁' ∧
      Construct.Evaluates .arrowOrBrace r₁' test' rest' ∧ test'.bare = test.bare ∧
      ρ.Regions k k' rest rest' j j' := by
  obtain ⟨_, _, r₁', hword', -, -, h₁⟩ := h.word hword
  obtain ⟨test', rest', k, k', htest', hbare, hrest⟩ :=
    h₁.evaluates endsAlike_arrowOrBrace Region.Stop.isolates_arrowOrBrace htest hkeeps
  exact ⟨r₁', test', rest', k, k', hword', htest', hbare, hrest⟩

section Bodies

variable (hbodies : ρ.KeepsBodies bodies bodies') (h : ρ.Regions i i' r r' j j')

include hbodies h

theorem Regions.arrowed (hbody : Construct.Arrowed bodies r body rest)
    (hkeeps : ∀ s ∈ body.payloads, ρ.Keeps s) :
    ∃ body' rest' k k', Construct.Arrowed bodies' r' body' rest' ∧ body'.bare = body.bare ∧
      ρ.Regions k k' rest rest' j j' := by
  obtain ⟨harrow, hbody⟩ := hbody
  obtain ⟨s', k, k', r₁', harrow', h₁⟩ := h.arrow harrow
  obtain ⟨body', rest', m, m', hbody', hbare, hrest⟩ :=
    hbodies h₁ edges_none (.inl rfl) hbody hkeeps
  exact ⟨body', rest', m, m', .mk harrow' hbody', hbare, hrest⟩

theorem Regions.braced (hbody : Construct.Braced bodies r body rest)
    (hkeeps : ∀ s ∈ body.payloads, ρ.Keeps s) :
    ∃ body' rest' k k', Construct.Braced bodies' r' body' rest' ∧ body'.bare = body.bare ∧
      ρ.Regions k k' rest rest' j j' := by
  obtain ⟨hgroup, hbody⟩ := hbody
  obtain ⟨inside', rest', a, a', b, b', k, k', hgroup', hin, hrest⟩ := h.group hgroup
  obtain ⟨body', _, _, _, hbody', hbare, -⟩ :=
    hbodies hin.regions edges_none (.inl rfl) hbody hkeeps
  exact ⟨body', rest', k, k', .mk hgroup' hbody', hbare, hrest⟩

theorem Regions.hasBody (hbody : Construct.HasBody bodies r body rest)
    (hkeeps : ∀ s ∈ body.payloads, ρ.Keeps s) :
    ∃ body' rest' k k', Construct.HasBody bodies' r' body' rest' ∧ body'.bare = body.bare ∧
      ρ.Regions k k' rest rest' j j' := by
  cases hbody with
  | arrow hbody =>
    obtain ⟨body', rest', k, k', hbody', hbare, hrest⟩ := h.arrowed hbodies hbody hkeeps
    exact ⟨body', rest', k, k', .arrow hbody', hbare, hrest⟩
  | braces hbody =>
    obtain ⟨body', rest', k, k', hbody', hbare, hrest⟩ := h.braced hbodies hbody hkeeps
    exact ⟨body', rest', k, k', .braces hbody', hbare, hrest⟩

theorem Regions.joined {between : Option Routine} (hjoin : Construct.Joined bodies r between rest)
    (hkeeps : ∀ s ∈ Routine.payloads? between, ρ.Keeps s) :
    ∃ between' rest' k k', Construct.Joined bodies' r' between' rest' ∧
      Routine.bare? between' = Routine.bare? between ∧ ρ.Regions k k' rest rest' j j' := by
  cases hjoin with
  | some hword hgroup hbody =>
    obtain ⟨k, k', r₁', hword', -, -, h₁⟩ := h.word hword
    obtain ⟨inside', rest', a, a', b, b', m, m', hgroup', hin, hrest⟩ := h₁.group hgroup
    obtain ⟨body', _, _, _, hbody', hbare, -⟩ :=
      hbodies hin.regions hin.edges (.inr rfl) hbody hkeeps
    exact ⟨_, rest', m, m', .some hword' hgroup' hbody', Routine.bare?_some_of_bare_eq hbare, hrest⟩
  | none hword =>
    have hword' : r'.peekIs (Tree.isWord "join") 0 = false := by
      rw [h.row.peekIs_eq (Tree.isShaped_isWord "join"), hword]
    exact ⟨none, r', i, i', .none hword', rfl, h⟩

/-- **An arm.** -/
theorem Regions.selected {arm : Arm} (harm : Construct.Selected bodies r arm rest)
    (hkeeps : ρ.Keeps arm.pattern.span) (hbkeeps : ∀ s ∈ arm.body.payloads, ρ.Keeps s) :
    ∃ arm' rest' k k', Construct.Selected bodies' r' arm' rest' ∧
      arm'.pattern.bare = arm.pattern.bare ∧ arm'.body.bare = arm.body.bare ∧
      ρ.Regions k k' rest rest' j j' := by
  cases harm with
  | braces hpattern harrow hbody =>
    obtain ⟨pattern', r₁', k, k', hpattern', hpbare, h₁⟩ := h.matched hpattern hkeeps
    obtain ⟨s', m, m', r₂', harrow', h₂⟩ := h₁.arrow harrow
    obtain ⟨body', rest', n, n', hbody', hbare, hrest⟩ := h₂.braced hbodies hbody hbkeeps
    obtain ⟨l, l', hlast⟩ := hrest.dropComma
    exact ⟨_, _, l, l', .braces hpattern' harrow' hbody', hpbare, hbare, hlast⟩
  | comma hpattern harrow hgroup hbody =>
    obtain ⟨pattern', r₁', k, k', hpattern', hpbare, h₁⟩ := h.matched hpattern hkeeps
    obtain ⟨s', m, m', r₂', harrow', h₂⟩ := h₁.arrow harrow
    have hgroup' : r₂'.peekIs (Tree.isGroup .brace) 0 = false := by
      rw [h₂.row.peekIs_eq (Tree.isShaped_isGroup .brace), hgroup]
    obtain ⟨body', rest', n, n', hbody', hbare, hrest⟩ :=
      hbodies h₂ edges_none (.inl rfl) hbody hbkeeps
    obtain ⟨l, l', hlast⟩ := hrest.dropComma
    exact ⟨_, _, l, l', .comma hpattern' harrow' hgroup' hbody', hpbare, hbare, hlast⟩

omit h in
/-- **The arms of a match**, one after another. -/
theorem exists_arms {fuel : Nat} {arms : List Arm} (hall : Construct.Arms bodies fuel r arms)
    (h : ρ.Regions i i' r r' j j')
    (hkeeps : ∀ s ∈ Routine.armPayloads (arms.map Arm.pair), ρ.Keeps s) :
    ∃ arms', Construct.Arms bodies' fuel r' arms' ∧
      Routine.bareArms (arms'.map Arm.pair) = Routine.bareArms (arms.map Arm.pair) := by
  -- each arm takes up where the one before it has ended
  induction hall generalizing i i' r' with
  | spent => exact ⟨[], .spent, rfl⟩
  | nil hr =>
    have hrow := h.row
    rw [hr] at hrow
    exact ⟨[], .nil hrow.nil_inv.1, rfl⟩
  | cons hne harm _ ih =>
    rw [List.map_cons, Arm.pair, Routine.armPayloads, List.forall_mem_cons, List.forall_mem_append]
      at hkeeps
    obtain ⟨hpattern, hbody, hrest⟩ := hkeeps
    obtain ⟨arm', r₁', k, k', harm', hpbare, hbare, h₁⟩ := h.selected hbodies harm hpattern hbody
    obtain ⟨arms', hall', harms⟩ := ih h₁ hrest
    refine ⟨arm' :: arms', .cons (h.row.ne_nil hne) harm' hall', ?_⟩
    rw [List.map_cons, List.map_cons, Arm.pair, Arm.pair, Routine.bareArms, Routine.bareArms, harms,
      hpbare, hbare]

/-- **What stands in the brackets after a sigil** is read alike in both texts. -/
theorem Regions.parses {node : Node} {span : Span} (hparses : Construct.Parses bodies r node rest)
    (hkeeps : ∀ s ∈ Instruction.allPayloads (node.instructions span), ρ.Keeps s) :
    ∃ node' rest' k k', Construct.Parses bodies' r' node' rest' ∧ node.Alike node' ∧
      ρ.Regions k k' rest rest' j j' := by
  -- case by case along the rules; each reads its parts one after another
  cases hparses with
  | @literal l text htokens hkind htext =>
    have hrow := h.row
    rw [htokens] at hrow
    obtain ⟨t', ts', a, a', b, b', hr', -, ht, hrest⟩ := hrow.head
    obtain ⟨rfl, -⟩ := hrest.nil_inv
    have hread := Construct.decode_eq_ok_iff.1 htext
    cases ht with
    | leaf =>
      exact ⟨.literal text, _, b, b', .literal hr' hkind (Construct.decode_eq_ok_iff.2 hread),
        .refl _, h.goOn hrest (List.nil_subset _)⟩
  | arrow hword htest hyes =>
    rw [Node.instructions, Instruction.allPayloads_singleton, Instruction.payloads,
      List.forall_mem_cons, List.forall_mem_append] at hkeeps
    obtain ⟨htkeeps, hykeeps, -⟩ := hkeeps
    obtain ⟨r₁', test', r₂', m, m', hword', htest', htbare, h₂⟩ := h.tested hword htest htkeeps
    obtain ⟨yes', rest', n, n', hyes', hybare, hrest⟩ := h₂.arrowed hbodies hyes hykeeps
    refine ⟨_, rest', n, n', .arrow hword' htest' hyes', ?_, hrest⟩
    refine .of_instruction (fun _ => rfl) (fun _ => rfl) ?_ trivial trivial
    rw [Instruction.bare, Instruction.bare, htbare, hybare]
  | braces hword htest hyes helse =>
    rw [Node.instructions, Instruction.allPayloads_singleton, Instruction.payloads,
      List.forall_mem_cons, List.forall_mem_append] at hkeeps
    obtain ⟨htkeeps, hykeeps, -⟩ := hkeeps
    obtain ⟨r₁', test', r₂', m, m', hword', htest', htbare, h₂⟩ := h.tested hword htest htkeeps
    obtain ⟨yes', rest', n, n', hyes', hybare, hrest⟩ := h₂.braced hbodies hyes hykeeps
    have helse' : rest'.peekIs (Tree.isWord "else") 0 = false := by
      rw [hrest.row.peekIs_eq (Tree.isShaped_isWord "else"), helse]
    refine ⟨_, rest', n, n', .braces hword' htest' hyes' helse', ?_, hrest⟩
    refine .of_instruction (fun _ => rfl) (fun _ => rfl) ?_ trivial trivial
    rw [Instruction.bare, Instruction.bare, htbare, hybare]
  | both hword htest hyes helse hno =>
    rw [Node.instructions, Instruction.allPayloads_singleton, Instruction.payloads,
      List.forall_mem_cons, List.forall_mem_append] at hkeeps
    obtain ⟨htkeeps, hykeeps, hnkeeps⟩ := hkeeps
    obtain ⟨r₁', test', r₂', m, m', hword', htest', htbare, h₂⟩ := h.tested hword htest htkeeps
    obtain ⟨yes', r₃', n, n', hyes', hybare, h₃⟩ := h₂.braced hbodies hyes hykeeps
    obtain ⟨l, l', r₄', helse', -, -, h₄⟩ := h₃.word helse
    obtain ⟨no', rest', o, o', hno', hnbare, hrest⟩ := h₄.braced hbodies hno hnkeeps
    refine ⟨_, rest', o, o', .both hword' htest' hyes' helse' hno', ?_, hrest⟩
    refine .of_instruction (fun _ => rfl) (fun _ => rfl) ?_ trivial trivial
    rw [Instruction.bare, Instruction.bare, htbare, hybare, Routine.bare?_some_of_bare_eq hnbare]
  | @loop r₁ r₂ r₃ _ _ _ tokens _ _ _ _ hword htokens hin hpattern hsource hjoin hbody =>
    rw [Node.instructions, Instruction.allPayloads_singleton, Instruction.payloads,
      List.forall_mem_cons, List.forall_mem_cons, List.forall_mem_append] at hkeeps
    obtain ⟨hpkeeps, hskeeps, hbkeeps, hjkeeps⟩ := hkeeps
    obtain ⟨k, k', r₁', hword', -, -, h₁⟩ := h.word hword
    obtain ⟨tokens', r₂', m, m', htokens', -, -, h₂, hruns⟩ :=
      h₁.takeUntil endsAlike_wordIn Region.Stop.isolates_wordIn htokens
    obtain ⟨n, n', r₃', hin', -, -, h₃⟩ := h₂.word hin
    -- the pattern is cut out after the second word has been read
    obtain ⟨pattern', hpattern', hpbare⟩ := h₃.pattern hruns hpattern hpkeeps r₂'.currentSpan
    obtain ⟨source', r₄', o, o', hsource', hsbare, h₄⟩ :=
      h₃.evaluates endsAlike_loopBody Region.Stop.isolates_loopBody hsource hskeeps
    obtain ⟨between', r₅', q, q', hjoin', hjbare, h₅⟩ := h₄.joined hbodies hjoin hjkeeps
    obtain ⟨body', rest', u, u', hbody', hbbare, hrest⟩ := h₅.hasBody hbodies hbody hbkeeps
    refine ⟨_, rest', u, u', .loop hword' htokens' hin' hpattern' hsource' hjoin' hbody', ?_, hrest⟩
    refine .of_instruction (fun _ => rfl) (fun _ => rfl) ?_ trivial trivial
    rw [Instruction.bare, Instruction.bare, hpbare, hsbare, hjbare, hbbare]
  | dispatch hword hsubject hgroup harms =>
    rw [Node.instructions, Instruction.allPayloads_singleton, Instruction.payloads,
      List.forall_mem_cons] at hkeeps
    obtain ⟨hskeeps, hakeeps⟩ := hkeeps
    obtain ⟨k, k', r₁', hword', -, -, h₁⟩ := h.word hword
    obtain ⟨subject', r₂', m, m', hsubject', hsbare, h₂⟩ :=
      h₁.evaluates endsAlike_finalBrace Region.Stop.isolates_finalBrace hsubject hskeeps
    obtain ⟨inside', rest', a, a', b, b', n, n', hgroup', hinside, hrest⟩ := h₂.group hgroup
    obtain ⟨arms', harms', habare⟩ := exists_arms hbodies harms hinside.regions hakeeps
    rw [← hinside.regions.row.length_eq] at harms'
    refine ⟨_, rest', n, n', .dispatch hword' hsubject' hgroup' harms', ?_, hrest⟩
    refine .of_instruction (fun _ => rfl) (fun _ => rfl) ?_ trivial trivial
    rw [Instruction.bare, Instruction.bare, hsbare]
    exact congrArg _ habare
  | scope hword hname hbody =>
    rw [Node.instructions, Instruction.allPayloads_singleton, Instruction.payloads] at hkeeps
    obtain ⟨k, k', r₁', hword', -, -, h₁⟩ := h.word hword
    obtain ⟨l', m, m', r₂', hname', htext, h₂⟩ := h₁.name hname
    obtain ⟨body', rest', n, n', hbody', hbare, hrest⟩ := h₂.hasBody hbodies hbody hkeeps
    refine ⟨_, rest', n, n', .scope hword' hname' hbody', ?_, hrest⟩
    refine .of_instruction (fun _ => rfl) (fun _ => rfl) ?_ trivial trivial
    rw [Instruction.bare, Instruction.bare, htext, hbare]
  | expression hliteral hwords he =>
    rw [Node.instructions, Instruction.allPayloads_singleton, Instruction.payloads,
      List.forall_mem_singleton] at hkeeps
    obtain ⟨e', rest', k, k', he', hbare, hrest⟩ :=
      h.evaluates endsAlike_never Region.Stop.isolates_never he hkeeps
    refine ⟨_, rest', k, k', .expression ?_ ?_ he', ?_, hrest⟩
    · exact h.row.not_literal hliteral
    · intro w hw
      rw [h.row.peekIs_eq (Tree.isShaped_isWord w), hwords w hw]
    · refine .of_instruction (fun _ => rfl) (fun _ => rfl) ?_ trivial trivial
      rw [Instruction.bare, Instruction.bare, hbare]

end Bodies

end Respacing

end TokenTemplate
