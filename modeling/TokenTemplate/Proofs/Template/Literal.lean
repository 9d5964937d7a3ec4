import TokenTemplate.Proofs.Escape.Render
import TokenTemplate.Proofs.Grammar.Body
import TokenTemplate.Proofs.Payload.Literal

/-!
# Templates that are one literal

A string literal may hold any text whatever: delimiters, sigils, arrows, quotes. By itself, and in round
brackets after a sigil, it is a template that writes this text and nothing else
(`TokenTemplate.Template.literal_carries`). What the text holds is seen by no stage: a scan takes the literal
as one token wherever it comes to it, the tree has this token as its only leaf but for the sigil, and what
is compiled is what the payload tokens make of it.
-/

namespace TokenTemplate

open Text (literal)

variable {settings : Settings} {v : String}

/-! ### Scanning -/

/-- A reading ends early only where no token begins. -/
theorem Reads.not_begins {source : List Char} {i : Nat} {marks : List Mark} {stop : Option Nat}
    (h : Reads source i marks stop) {p : Nat} (hp : stop = some p) :
    ∀ k text, ¬ Begins (source.drop p) k text := by
  induction h with
  | done => exact absurd hp (Option.some_ne_none p).symm
  | gap _ _ _ ih | token _ _ _ _ ih => exact ih hp
  | stray _ _ hnone =>
    obtain rfl := Option.some.inj hp
    exact hnone

/-- A token of one character before a reading. -/
theorem Reads.cons_char {source : List Char} {i : Nat} {marks : List Mark} {stop : Option Nat} {c : Char}
    {k : LexemeKind} (h : Reads source (i + 1) marks stop) (hc : source[i]? = some c)
    (hbegins : ∀ cs, Begins (c :: cs) k [c]) : Reads source i (⟨k, [c], i, i + 1⟩ :: marks) stop := by
  refine .cons (List.getElem?_eq_some_iff.1 hc).1 ?_ h
  rw [drop_eq_cons hc]
  exact hbegins _

/-- **A scan takes a literal as one token**, wherever it comes to one: no other token begins there. -/
theorem Text.lexeme_eq_of_literal {source : List Char} {l : Lexeme} (hl : l ∈ (scan source).1)
    (h : (literal v).toList <+: source.drop l.span.startPos) :
    l = ⟨.leaf .string, literal v, .between source l.span.startPos
      (l.span.startPos + (literal v).toList.length)⟩ := by
  obtain ⟨marks, stop, hreads⟩ := exists_reads (Nat.zero_le source.length)
  rw [scan_eq hreads] at hl
  obtain ⟨m, hm, rfl⟩ := List.mem_map.1 hl
  obtain ⟨hkind, htext⟩ := (hreads.begins m hm).unique (Text.begins_literal h)
  have hstop := (hreads.tiles.mem m hm).2.2.2.1
  have hstart : (m.lexeme source).span.startPos = m.start := rfl
  rw [hstart, Mark.lexeme, hkind, hstop, htext, String.ofList_toList]

/-- **No scan ends at a literal.** -/
theorem Text.not_stray_of_literal {source : List Char} {s : Stray} (hs : (scan source).2 = some s) :
    ¬ (literal v).toList <+: source.drop s.pos := by
  obtain ⟨marks, stop, hreads⟩ := exists_reads (Nat.zero_le source.length)
  rw [scan_eq hreads] at hs
  obtain ⟨p, hp, rfl⟩ := Option.map_eq_some_iff.1 hs
  exact fun h => hreads.not_begins hp _ _ (Text.begins_literal h)

/-! ### Trees -/

/-- A literal in round brackets after a sigil. -/
def Text.spliced (v : String) : String :=
  String.ofList (sigil :: '(' :: ((literal v).toList ++ [')']))

/-- A literal at some offset of a source. -/
def literalLeaf (source : List Char) (v : String) (a : Nat) : Leaf :=
  ⟨.string, literal v, .between source a (a + (literal v).toList.length)⟩

/-- A literal fills what it takes. -/
theorem fills_literalLeaf {source : List Char} {a : Nat} (h : (literal v).toList <+: source.drop a)
    (ha : a ≤ source.length) :
    Fills source a [.leaf (literalLeaf source v a)] (a + (literal v).toList.length) :=
  .leaf le_rfl isGapRun_slice_self (Text.spells_literal v) h rfl rfl
    (.nil le_rfl (add_length_le_of_isPrefix h ha) isGapRun_slice_self)

/-- **The tree of a literal** is a leaf. -/
theorem Tree.ofSource_literal (settings : Settings) (v : String) :
    Tree.ofSource settings (literal v).toList =
      .ok [.leaf (literalLeaf (literal v).toList v 0)] := by
  let source := (literal v).toList
  have hpre : (literal v).toList <+: source.drop 0 := List.prefix_rfl
  have hbegins := Text.begins_literal hpre
  have hlength : 0 + (literal v).toList.length = source.length := Nat.zero_add _
  have hreads : Reads source 0 [⟨.leaf .string, (literal v).toList, 0, 0 + (literal v).toList.length⟩]
      none := by
    refine .cons (List.length_pos_iff.2 hbegins.ne_nil) hbegins ?_
    rw [hlength]
    exact .done
  have hfills := fills_literalLeaf hpre (Nat.zero_le _)
  rw [hlength] at hfills
  exact Tree.ofSource_of_fills hfills hreads rfl

/-- **The tree of a spliced literal** is a sigil and a group with a leaf. -/
theorem Tree.ofSource_spliced (v : String) (h : 1 ≤ settings.maxDepth) :
    ∃ stop, Tree.ofSource settings (Text.spliced v).toList =
      .ok [sigilAt (Text.spliced v).toList 0,
        .group .parenthesis [.leaf (literalLeaf (Text.spliced v).toList v 2)]
          (.between (Text.spliced v).toList 1 stop)] := by
  let source := (Text.spliced v).toList
  let n := (literal v).toList.length
  have hsource : source = sigil :: '(' :: ((literal v).toList ++ [')']) := String.toList_ofList
  have hlength : source.length = 2 + n + 1 := by
    rw [hsource, List.length_cons, List.length_cons, List.length_append, List.length_singleton]
    omega
  have hsigil : source[0]? = some sigil := by rw [hsource]; rfl
  have hopen : source[1]? = some Delimiter.parenthesis.openChar := by rw [hsource]; rfl
  have hpre : (literal v).toList <+: source.drop 2 := by
    rw [hsource]
    exact List.prefix_append _ _
  have hclose : source[2 + n]? = some Delimiter.parenthesis.closeChar := by
    rw [hsource, Nat.add_comm, List.getElem?_cons_succ, List.getElem?_cons_succ]
    exact List.getElem?_concat_length
  -- read from its end, the source is a bracket, the literal, a bracket and the sigil
  have hend : Reads source (2 + n + 1) [] none := hlength ▸ .done
  have hclosing := hend.cons_char hclose fun _ =>
    begins_of_length_eq_one (.closing .parenthesis) (.inr ⟨_, rfl⟩)
  have hliteral := Reads.cons (by omega) (Text.begins_literal hpre) hclosing
  have hopening := hliteral.cons_char hopen fun _ =>
    begins_of_length_eq_one (.opening .parenthesis) (.inl ⟨_, rfl⟩)
  have hreads := hopening.cons_char hsigil begins_sigil
  have hfills : Fills source 0 [sigilAt source 0,
      .group .parenthesis [.leaf (literalLeaf source v 2)] (.between source 1 (2 + n + 1))]
      source.length := by
    refine .sigilAt le_rfl isGapRun_slice_self hsigil ?_
    rw [hlength]
    exact .group le_rfl isGapRun_slice_self hopen hclose rfl (fills_literalLeaf hpre (by omega))
      (.nil le_rfl hlength.ge isGapRun_slice_self)
  refine ⟨2 + n + 1, Tree.ofSource_of_fills hfills ?_ ?_⟩
  · simpa [Tree.allMarks, Tree.marks, marks_sigilAt, literalLeaf, Span.between] using hreads
  · simp [Tree.anyTooDeep?, Tree.tooDeep?, sigilAt]
    omega

/-! ### Compiling -/

/-- **A template that is a single construct** is compiled to one instruction, if the construct writes a text.
-/
theorem Routine.ofSource_of_construct {source receiver : String} {t : Tree} {ts : List Tree}
    {c : Construct} {span : Span} {cursor : Cursor} {node : Node} (hdepth : 0 ≤ settings.maxDepth)
    (htree : Tree.ofSource settings source.toList = .ok (t :: ts)) :
    let body : Body := { receiver, settings }
    let r : Region := ⟨source.toList, settings, .ofSource source.toList, false, t :: ts⟩
    Construct.sight r t ts = .ok (c, r.goOn []) →
    (∀ inside room, body.place inside room body.encoder (r.goOn []) c =
      body.encoder.write span cursor node) →
    (∀ e : Encoder, e.lower span node = (e.emit (.append v), none)) →
    Routine.ofSource settings receiver source = .ok ⟨receiver, [.append v], settings.filename⟩ := by
  intro body r hsight hplace hlower
  obtain ⟨room, hroom⟩ := Int.eq_ofNat_of_zero_le hdepth
  have hregion : Region.ofSource settings source.toList = .ok r := by
    rw [Region.ofSource, htree]
    rfl
  have hlevels : (body.settings.maxDepth - body.depth + 1).toNat = room + 1 := by
    change (settings.maxDepth - 0 + 1).toNat = room + 1
    omega
  have hwrite : body.encoder.write span cursor node =
      .ok ((body.encoder.encode span cursor node).1) := by
    rw [Encoder.write, Encoder.encode, hlower]
  have hcompile : body.compile r = .ok (⟨receiver, [.append v], settings.filename⟩, r.goOn []) := by
    rw [Body.compile, hlevels]
    refine Body.compileWith_of_finish
      ((Body.placeAll_cons hsight ((hplace _ _).trans hwrite)).trans (Body.placeAll_nil ..)) ?_
    rw [Encoder.encode, hlower]
    rfl
  rw [ofSource, hregion]
  change (body.compile r >>= _) = _
  rw [hcompile]
  rfl

section Place

variable (body : Body) (inside : Inside) (room : Nat) (e : Encoder) (r : Region) (source : List Char)
  (v : String) (a : Nat)

theorem Construct.decode_literalLeaf : decode r (literalLeaf source v a) = .ok v :=
  decode_eq_ok_iff.2 (Payload.tokens?_literal v)

/-- A literal by itself is written as what it stands for. -/
theorem Body.place_literalLeaf :
    body.place inside room e r (.leaf (literalLeaf source v a)) =
      e.write (literalLeaf source v a).span (literalLeaf source v a).span.cursor (.quoted v) := by
  have hkind : (literalLeaf source v a).kind = .string := rfl
  rw [place, if_pos hkind, Construct.decode_literalLeaf]
  rfl

/-- And so is a literal alone in round brackets after a sigil. -/
theorem Body.place_payload_literalLeaf {scope : Region} (start : Span)
    (h : scope.tokens = [.leaf (literalLeaf source v a)]) :
    body.place inside room e r (.payload start scope) =
      e.write (start.join scope.span) (start.cursor.join scope.span.cursor) (.literal v) := by
  have hnode : Construct.payloadNode (body.bodies inside) scope = .ok (.literal v, scope.goOn []) :=
    Construct.payloadNode_eq_ok_iff.2 (.literal h rfl (Construct.decode_literalLeaf _ source v a))
  rw [place, hnode]
  rfl

end Place

/-- **What a literal is compiled to.** -/
theorem Routine.ofSource_literal (receiver v : String) (h : 0 ≤ settings.maxDepth) :
    ofSource settings receiver (literal v) = .ok ⟨receiver, [.append v], settings.filename⟩ := by
  have hsight (r : Region) (l : Leaf) : Construct.sight r (.leaf l) [] = .ok (.leaf l, r.goOn []) := rfl
  exact ofSource_of_construct h (Tree.ofSource_literal settings v) (hsight _ _)
    (fun inside room => Body.place_literalLeaf _ inside room _ _ _ v 0) fun e => rfl

/-- **What a spliced literal is compiled to.** -/
theorem Routine.ofSource_spliced (receiver v : String) (h : 1 ≤ settings.maxDepth) :
    ofSource settings receiver (Text.spliced v) =
      .ok ⟨receiver, [.append v], settings.filename⟩ := by
  obtain ⟨stop, htree⟩ := Tree.ofSource_spliced v h
  have hsight (r : Region) (source : List Char) (children : List Tree) (span : Span) :
      Construct.sight r (Tree.sigilAt source 0) [.group .parenthesis children span] =
        .ok (.payload (Tree.sigilAt source 0).span (r.inside children span), r.goOn []) := rfl
  exact ofSource_of_construct (Int.le_trans Int.one_nonneg h) htree (hsight _ _ _ _)
    (fun inside room => Body.place_payload_literalLeaf _ inside room _ _ _ v 2 _ rfl) fun e => rfl

/-! ### Rendering -/

/-- An instruction that writes a text writes it, unless it is empty. -/
theorem executeAll_append (ev : Evaluator) (target : Nat) (env : Environment) (filename v : String) :
    (executeAll ev target env filename [.append v]).Writes () target
      (if v = "" then [] else [.text v]) := by
  split
  · next hv =>
    subst hv
    exact Action.writes_pure () target
  · next hv =>
    have hitems : .text "" ∉ [Item.text v] := by simp [Ne.symm hv]
    exact executeAll_items ev target env filename hitems

/-- **A string literal carries any text.** Wherever a scan begins a token at the literal of a text, it takes
just the literal, as a string. By itself and spliced, the literal is a template of the one instruction to
write the text, if the bound on the depth allows it the levels that it has. Run with any bindings, this
leaves a new receiver with the text as its only item, or with none if the text is empty. -/
theorem Template.literal_carries (v : String) :
    (∀ source : List Char,
      (∀ l ∈ (scan source).1, (literal v).toList <+: source.drop l.span.startPos →
        l = ⟨.leaf .string, literal v, .between source l.span.startPos
          (l.span.startPos + (literal v).toList.length)⟩) ∧
      ∀ s, (scan source).2 = some s → ¬ (literal v).toList <+: source.drop s.pos) ∧
    ∀ (settings : Settings) (receiver source : String),
      source = literal v ∧ 0 ≤ settings.maxDepth ∨
        source = Text.spliced v ∧ 1 ≤ settings.maxDepth →
      ∃ t, ofSource settings receiver source = .ok t ∧
        t.routine = ⟨receiver, [.append v], settings.filename⟩ ∧
        ∀ b : Bindings, (∀ p ∈ b, p.1 ∉ ownNames) → ∀ s : Store,
          (t.tokens b s).outcome = .ok s.receivers.size ∧
            (t.tokens b s).store.items s.receivers.size = if v = "" then [] else [.text v] := by
  refine ⟨fun source => ⟨fun l hl => Text.lexeme_eq_of_literal hl, fun s hs => Text.not_stray_of_literal hs⟩,
    fun settings receiver source hsource => ?_⟩
  have hroutine : Routine.ofSource settings receiver source =
      .ok ⟨receiver, [.append v], settings.filename⟩ := by
    rcases hsource with ⟨rfl, hdepth⟩ | ⟨rfl, hdepth⟩
    · exact Routine.ofSource_literal receiver v hdepth
    · exact Routine.ofSource_spliced receiver v hdepth
  refine ⟨⟨source, receiver, settings, receiver, [.append v], settings.filename⟩, ?_, rfl,
    fun b hb s => tokens_of_writes _ hb (fun ev target env filename => ?_) s⟩
  · rw [ofSource, hroutine]
    rfl
  · exact executeAll_append ev target env filename v

/-- Quotes, backslashes, both line breaks, closing delimiters, an arrow, a comma and a sigil. -/
theorem Template.literal_carries_marks :
    let v := "\"\\\n])\x7d => #(a), '\r"
    literal v = "\"\\\"\\\\\\n])\x7d => #(a), '\\r\"" ∧
      ∃ t, ofSource {} "t" (Text.spliced v) = .ok t ∧ t.routine.instructions = [.append v] ∧
        (t.tokens [("x", .none)] {}).store.items 0 = [.text v] := by
  intro v
  have hdepth : 1 ≤ Settings.maxDepth {} := by decide
  have hnames : ∀ p ∈ [("x", Value.none)], p.1 ∉ ownNames := by decide
  have hne : v ≠ "" := by decide
  obtain ⟨t, ht, hroutine, hrun⟩ :=
    (literal_carries v).2 {} "t" (Text.spliced v) (Or.inr ⟨rfl, hdepth⟩)
  have hitems := (hrun _ hnames {}).2
  rw [if_neg hne] at hitems
  exact ⟨by decide, t, ht, by rw [hroutine], hitems⟩

end TokenTemplate
