import TokenTemplate.Proofs.Grammar.Body
import TokenTemplate.Proofs.Respacing.Payload
import TokenTemplate.Proofs.Respacing.Piece

/-!
# Bodies after a change of white space

Two encoders correspond, `TokenTemplate.Respacing.Encoders`, if what they have written is the same
apart from places and they stand at corresponding offsets. An element looks at one gap only, the one
before it, and corresponding gaps come to the same; so encoders that correspond still do after an
element (`TokenTemplate.Respacing.Encoders.write`), after a construct
(`TokenTemplate.Respacing.exists_place`), and after a body of any depth
(`TokenTemplate.Respacing.keepsInside_levels`).
-/

namespace TokenTemplate

/-! ### What is written stays written -/

/-- **An encoder has gone on**: it has added to its instructions, which end where they did. -/
structure Encoder.Extends (e e' : Encoder) : Prop where
  /-- The earlier instructions are still there. -/
  instructions_isPrefix : e.instructions <+: e'.instructions
  /-- The end is still the same. -/
  after_eq : e'.after = e.after

/-- Compiling a region goes on with an encoder. -/
def Inside.Extends (inside : Inside) : Prop :=
  ∀ {untilComma : Bool} {e e' : Encoder} {r rest : Region},
    inside untilComma e r = .ok (e', rest) → e.Extends e'

section Extends

variable {b : Body} {inside : Inside} {room : Nat} {untilComma : Bool} {e e' e'' : Encoder}
  {r : Region}

theorem Encoder.Extends.refl (e : Encoder) : e.Extends e := ⟨List.prefix_rfl, rfl⟩

theorem Encoder.Extends.trans (h : e.Extends e') (h' : e'.Extends e'') : e.Extends e'' :=
  ⟨h.instructions_isPrefix.trans h'.instructions_isPrefix, h'.after_eq.trans h.after_eq⟩

theorem Encoder.extends_of_write {span : Span} {cursor : Cursor} {node : Node}
    (h : e.write span cursor node = .ok e') : e.Extends e' := by
  obtain ⟨opened, -, rfl⟩ := write_eq_ok_iff.1 h
  refine ⟨?_, rfl⟩
  rw [add, List.append_assoc]
  exact List.prefix_append _ _

theorem Body.extends_of_place {c : Construct} (hinside : inside.Extends)
    (h : b.place inside room e r c = .ok e') : e.Extends e' := by
  cases c with
  | block start block =>
    obtain ⟨segments, -, h⟩ := place_block_eq_ok_iff.1 h
    exact Encoder.extends_of_write h
  | payload start scope =>
    obtain ⟨node, rest, -, -, h⟩ := place_payload_eq_ok_iff.1 h
    exact Encoder.extends_of_write h
  | group d group =>
    obtain ⟨e₁, e₂, rest, hopening, hin, hclosing⟩ := place_group_eq_ok_iff.1 h
    have hopened := Encoder.extends_of_write hopening
    exact hopened.trans ((hinside hin).trans (Encoder.extends_of_write hclosing))
  | leaf l =>
    obtain ⟨node, -, h⟩ := place_leaf_eq_ok_iff.1 h
    exact Encoder.extends_of_write h
  | escape | directive | name =>
    rw [place] at h
    exact Encoder.extends_of_write h

theorem Body.Writes.extends {ts left : List Tree} (hinside : inside.Extends)
    (h : b.Writes inside room untilComma r e ts e' left) : e.Extends e' := by
  induction h with
  | nil | comma => exact .refl _
  | step _ _ hplace _ ih => exact (extends_of_place hinside hplace).trans ih

theorem levels_extends (b : Body) (room : Nat) : (levels b room).Extends := by
  induction room with
  | zero => exact fun h => absurd h error_ne_ok
  | succ room ih =>
    intro untilComma e e' r rest h
    obtain ⟨left, hwrites, -⟩ := Body.placeAll_eq_ok_iff.1 h
    exact hwrites.extends ih

theorem Instruction.forall_allPayloads_of_isPrefix {P : Span → Prop} {is js : List Instruction}
    (h : is <+: js) (hjs : ∀ s ∈ allPayloads js, P s) : ∀ s ∈ allPayloads is, P s := by
  obtain ⟨more, rfl⟩ := h
  rw [allPayloads_append, List.forall_mem_append] at hjs
  exact hjs.1

theorem Encoder.forall_payloads_of_write {P : Span → Prop} {span : Span} {cursor : Cursor}
    {node : Node} (h : e.write span cursor node = .ok e')
    (hall : ∀ s ∈ Instruction.allPayloads e'.instructions, P s) :
    ∀ s ∈ Instruction.allPayloads (node.instructions span), P s := by
  obtain ⟨opened, -, rfl⟩ := write_eq_ok_iff.1 h
  rw [add, Instruction.allPayloads_append, List.forall_mem_append] at hall
  exact hall.2

/-- A token by itself is written alike wherever it stands. -/
theorem Body.Alone.exists_alike {l l' : Leaf} {node : Node} (h : Alone r l node) (r' : Region)
    (hkind : l'.kind = l.kind) (htext : l'.text = l.text) :
    ∃ node', Alone r' l' node' ∧ node.Alike node' := by
  cases h with
  | @quoted s hk hs =>
    refine ⟨.quoted s, .quoted (hkind.trans hk) ?_, .refl _⟩
    rw [Construct.decode_eq_ok_iff] at hs ⊢
    rw [htext, hs]
  | token hk =>
    refine ⟨.token l'.text, .token fun heq => hk (hkind.symm.trans heq), ?_⟩
    rw [htext]
    exact .refl _

end Extends

namespace Respacing

variable (ρ : Respacing)

/-! ### Encoders that correspond -/

/-- **Encoders that correspond**: they have written the same apart from places, and stand at
corresponding offsets; where their elements end corresponds too, if it is given. -/
structure Encoders (i i' j j' : Nat) (e e' : Encoder) : Prop where
  /-- The name of the receiver is the same. -/
  receiver_eq : e'.receiver = e.receiver
  /-- So is the name of the template. -/
  filename_eq : e'.filename = e.filename
  /-- The same groups are open. -/
  opened_eq : e'.opened = e.opened
  /-- The instructions are the same apart from places. -/
  bare_eq : Instruction.allBare e'.instructions = Instruction.allBare e.instructions
  /-- The place that white space is counted from. -/
  place : ρ.Places i i' (e.last.or e.before) (e'.last.or e'.before)
  /-- The place that it is counted up to at the end. -/
  after : ρ.Places j j' e.after e'.after

variable {ρ} {i i' j j' k k' n n' a a' b b' : Nat} {e e' e₁ : Encoder} {node node' : Node}

/-- **Corresponding gaps are written alike.** -/
theorem Encoders.spaceItems_eq (h : ρ.Encoders i i' n n' e e') (hgap : ρ.Gap i i' a a') :
    e'.spaceItems (.ofOffset ρ.source' a') = e.spaceItems (.ofOffset ρ.source a) := by
  rw [Encoder.spaceItems, Encoder.spaceItems]
  have hplace := h.place
  revert hplace
  generalize e.last.or e.before = place
  generalize e'.last.or e'.before = place'
  intro hplace
  cases hplace with
  | none => rfl
  | some =>
    rw [Option.bind_some, Option.bind_some, Position.ofOffset_slice hgap.le,
      Position.ofOffset_slice hgap.le', spacing?_advanceAll, spacing?_advanceAll, hgap.ofGap?_eq]

/-- **Encoders correspond after elements that are alike**, at corresponding places. -/
theorem Encoders.write {span : Span} (h : ρ.Encoders i i' n n' e e') (hgap : ρ.Gap i i' a a')
    (halike : node.Alike node')
    (hwrite : e.write span (Span.between ρ.source a b).cursor node = .ok e₁) (span' : Span)
    (b' : Nat) :
    ∃ e₁', e'.write span' (Span.between ρ.source' a' b').cursor node' = .ok e₁' ∧
      ρ.Encoders b b' n n' e₁ e₁' := by
  obtain ⟨opened, hopened, rfl⟩ := Encoder.write_eq_ok_iff.1 hwrite
  have hopened' : node'.opened? e'.opened = some opened := by
    rw [h.opened_eq, halike.opened_eq, hopened]
  refine ⟨_, Encoder.write_eq_ok_iff.2 ⟨opened, hopened', rfl⟩, ?_⟩
  have hspace : e'.spaceItems (Span.between ρ.source' a' b').cursor.start =
      e.spaceItems (Span.between ρ.source a b).cursor.start := h.spaceItems_eq hgap
  refine ⟨h.receiver_eq, h.filename_eq, rfl, ?_, .some, h.after⟩
  simp only [Encoder.add, Instruction.allBare_append, hspace, h.bare_eq, halike.bare_eq span span']

/-- **What stands from one token to a later one** is written alike as one element. -/
theorem Encoders.write_join {t t' u u' : Tree} {c c' d d' : Nat} {more more' : List Tree}
    {span : Span} (h : ρ.Encoders i i' n n' e e') (hgap : ρ.Gap i i' a a')
    (ht : ρ.Token a a' t t' b b') (hu : ρ.Token c c' u u' d d') (hbc : b ≤ c) (hbc' : b' ≤ c')
    (hmore : ρ.Row d d' more more' j j') (halike : node.Alike node')
    (hwrite : e.write span (t.span.cursor.join u.span.cursor) node = .ok e₁) (span' : Span) :
    ∃ e₁', e'.write span' (t'.span.cursor.join u'.span.cursor) node' = .ok e₁' ∧
      ρ.Encoders d d' n n' e₁ e₁' := by
  obtain ⟨hcursor, hcursor'⟩ := ht.cursor_join hu hbc hbc' hmore
  rw [hcursor] at hwrite
  rw [hcursor']
  exact h.write hgap halike hwrite span' d'

/-- The routines of corresponding encoders are the same apart from places. -/
theorem Encoders.finish {routine : Routine} (h : ρ.Encoders i i' j j' e e')
    (hgap : e.after = none ∨ ρ.Gap i i' j j') (hfinish : e.finish.2 = .ok routine) :
    ∃ routine', e'.finish.2 = .ok routine' ∧ routine'.bare = routine.bare := by
  obtain ⟨hopened, rfl⟩ := Encoder.finish_eq_ok_iff.1 hfinish
  refine ⟨_, Encoder.finish_eq_ok_iff.2 ⟨h.opened_eq.trans hopened, rfl⟩, ?_⟩
  have hlast : e'.lastItems = e.lastItems := by
    have hafter := h.after
    rw [Encoder.lastItems, Encoder.lastItems]
    rcases hgap with hnone | hgap
    · rw [hnone] at hafter ⊢
      generalize e'.after = after' at hafter ⊢
      cases hafter
      rfl
    · generalize e.after = after at hafter ⊢
      generalize e'.after = after' at hafter ⊢
      cases hafter with
      | none => rfl
      | some => exact h.spaceItems_eq hgap
  rw [Routine.bare, Routine.bare, Instruction.allBare_append, Instruction.allBare_append, h.bare_eq,
    h.receiver_eq, h.filename_eq, hlast]

/-! ### Bodies -/

/-- **Compiling corresponding regions** with encoders that correspond, and that end no earlier than
the regions, gives such encoders again, if the payloads have been kept. -/
def KeepsInside (ρ : Respacing) (inside inside' : Inside) : Prop :=
  ∀ {i i' j j' n n' : Nat} {untilComma : Bool} {e e' e₁ : Encoder} {r r' rest : Region},
    ρ.Regions i i' r r' j j' → ρ.Encoders i i' n n' e e' → j' ≤ n' →
    inside untilComma e r = .ok (e₁, rest) →
    (∀ s ∈ Instruction.allPayloads e₁.instructions, ρ.Keeps s) →
    ∃ e₁' rest' k k', inside' untilComma e' r' = .ok (e₁', rest') ∧ ρ.Encoders k k' n n' e₁ e₁' ∧
      ρ.Regions k k' rest rest' j j' ∧ (untilComma = false → rest.tokens = [])

variable {b : Body} {inside inside' : Inside}

/-- **Corresponding bodies are compiled to the same routine**, apart from places. -/
theorem KeepsInside.keepsBodies (h : ρ.KeepsInside inside inside') (hextends : inside.Extends)
    (b : Body) : ρ.KeepsBodies (b.bodies inside) (b.bodies inside') := by
  intro i i' j j' edges edges' untilComma r r' rest routine hr hedges hcomma hbody hkeeps
  rw [Body.bodies_eq] at hbody ⊢
  obtain ⟨e, hin, hfinish⟩ := Body.compileWith_eq_ok_iff.1 hbody
  have he : ρ.Encoders i i' j j' (b.between edges untilComma).encoder
      (b.between edges' untilComma).encoder :=
    ⟨rfl, rfl, rfl, rfl, hedges.before, hedges.after⟩
  have hpayloads : ∀ s ∈ Instruction.allPayloads e.instructions, ρ.Keeps s := by
    obtain ⟨-, rfl⟩ := Encoder.finish_eq_ok_iff.1 hfinish
    exact Instruction.forall_allPayloads_of_isPrefix (List.prefix_append _ _) hkeeps
  obtain ⟨e', rest', k, k', hin', he', hrest, hall⟩ := h hr he le_rfl hin hpayloads
  have hgap : e.after = none ∨ ρ.Gap k k' j j' := by
    rcases hcomma with rfl | rfl
    · exact .inl (hextends hin).after_eq
    · have hrow := hrest.row
      rw [hall rfl] at hrow
      exact .inr hrow.nil_inv.2
  obtain ⟨routine', hfinish', hbare⟩ := he'.finish hgap hfinish
  exact ⟨routine', rest', k, k', Body.compileWith_eq_ok_iff.2 ⟨e', hin', hfinish'⟩, hbare, hrest⟩

/-! ### Constructs -/

variable {room : Nat} {r r' x y : Region} {t t' : Tree} {ts rest row : List Tree} {c : Construct}

section Place

variable {u' : Tree} {more more' children : List Tree} {span : Span} {d : Delimiter}
  {l l' m m' o o' : Nat}

/-- **A block in both texts.** Its white space has been kept, so its segments are the same apart from
places. -/
theorem exists_place_block (hr : ρ.Regions i i' (r.goOn ts) (r'.goOn row) j j')
    (he : ρ.Encoders i i' n n' e e') (hgap : ρ.Gap i i' a a') (ht : ρ.Token a a' t t' m m')
    (hml : m ≤ l) (hml' : m' ≤ l') (hu : ρ.Token l l' (.group .parenthesis children span) u' o o')
    (hmore : ρ.Row o o' more more' j j') (hblock : ρ.Keeps span)
    (hplace : b.place inside room e x (.block t.span (r.inside children span)) = .ok e₁) :
    ∃ children' span' e₁', u' = .group .parenthesis children' span' ∧
      b.place inside' room e' y (.block t'.span (r'.inside children' span')) = .ok e₁' ∧
      ρ.Encoders o o' n n' e₁ e₁' := by
  obtain ⟨segments, hsegments, hwrite⟩ := Body.place_block_eq_ok_iff.1 hplace
  obtain ⟨children', span', q, q', rfl, rfl, rfl, hs, hs', -, -, -, -, hchildren⟩ := hu.group_inv
  have hfrom : ρ.KeepsFrom (l + 1) q := by
    intro p p' hp hp'
    rw [hs] at hblock
    exact hblock p p' (Nat.le_of_succ_le hp) (hp'.trans (Nat.le_succ q))
  obtain ⟨segments', hsegments', hbare⟩ := exists_segments (r.inside children span)
    (r'.inside children' span') hr.source_eq hr.source_eq' hr.settings_eq hchildren hfrom hsegments
  obtain ⟨e₁', hwrite', he₁⟩ :=
    he.write_join hgap ht hu hml hml' hmore (.of_segments hbare) hwrite span'
  exact ⟨children', span', e₁', rfl,
    Body.place_block_eq_ok_iff.2 ⟨segments', hsegments', hwrite'⟩, he₁⟩

/-- **What stands in brackets after a sigil in both texts.** Its payloads have been kept. -/
theorem exists_place_payload (hinside : ρ.KeepsInside inside inside') (hextends : inside.Extends)
    (hr : ρ.Regions i i' (r.goOn ts) (r'.goOn row) j j') (he : ρ.Encoders i i' n n' e e')
    (hgap : ρ.Gap i i' a a') (ht : ρ.Token a a' t t' m m') (hml : m ≤ l) (hml' : m' ≤ l')
    (hu : ρ.Token l l' (.group .parenthesis children span) u' o o')
    (hmore : ρ.Row o o' more more' j j')
    (hchildren : ∀ s ∈ Tree.allBlocks .nothing children, ρ.Keeps s)
    (hplace : b.place inside room e x (.payload t.span (r.inside children span)) = .ok e₁)
    (hkeeps : ∀ s ∈ Instruction.allPayloads e₁.instructions, ρ.Keeps s) :
    ∃ children' span' e₁', u' = .group .parenthesis children' span' ∧
      b.place inside' room e' y (.payload t'.span (r'.inside children' span')) = .ok e₁' ∧
      ρ.Encoders o o' n n' e₁ e₁' := by
  obtain ⟨children', span', q, q', rfl, rfl, rfl, hgroup⟩ := hr.inside hu hchildren
  obtain ⟨node, last, hparses, hend, hwrite⟩ := Body.place_payload_eq_ok_iff.1 hplace
  have hnode := Encoder.forall_payloads_of_write hwrite hkeeps
  obtain ⟨node', last', k, k', hparses', halike, hlast⟩ :=
    hgroup.regions.parses (hinside.keepsBodies hextends _) hparses hnode
  -- nothing is left in the other text either
  have hend' : last'.tokens = [] := by
    have hrow := hlast.row
    rw [hend] at hrow
    exact hrow.nil_inv.1
  obtain ⟨e₁', hwrite', he₁⟩ :=
    he.write_join hgap ht hu hml hml' hmore halike hwrite (t'.span.join span')
  exact ⟨children', span', e₁', rfl,
    Body.place_payload_eq_ok_iff.2 ⟨node', last', hparses', hend', hwrite'⟩, he₁⟩

/-- **A token by itself in both texts.** -/
theorem exists_place_leaf {l : Leaf} (he : ρ.Encoders i i' n n' e e') (hgap : ρ.Gap i i' a a')
    (ht : ρ.Token a a' (.leaf l) t' m m') (hplace : b.place inside room e x (.leaf l) = .ok e₁) :
    ∃ l' e₁', t' = .leaf l' ∧ b.place inside' room e' y (.leaf l') = .ok e₁' ∧
      ρ.Encoders m m' n n' e₁ e₁' := by
  obtain ⟨l', rfl, hkind, htext⟩ := ht.leaf_inv
  obtain ⟨hspan, hspan'⟩ := ht.span_eq
  obtain ⟨node, hnode, hwrite⟩ := Body.place_leaf_eq_ok_iff.1 hplace
  obtain ⟨node', hnode', halike⟩ := hnode.exists_alike y hkind htext
  rw [Tree.span_leaf] at hspan hspan'
  rw [hspan] at hwrite
  obtain ⟨e₁', hwrite', he₁⟩ := he.write hgap halike hwrite l'.span m'
  rw [← hspan'] at hwrite'
  exact ⟨l', e₁', rfl, Body.place_leaf_eq_ok_iff.2 ⟨node', hnode', hwrite'⟩, he₁⟩

/-- **A group in both texts**: its first delimiter, its inside, and its second delimiter. -/
theorem exists_place_group (hinside : ρ.KeepsInside inside inside')
    (hr : ρ.Regions i i' (r.goOn ts) (r'.goOn row) j j') (he : ρ.Encoders i i' n n' e e')
    (hn : j' ≤ n') (hgap : ρ.Gap i i' a a') (ht : ρ.Token a a' (.group d children span) t' m m')
    (hmore : ρ.Row m m' more more' j j')
    (hchildren : ∀ s ∈ Tree.allBlocks .nothing children, ρ.Keeps s)
    (hplace : b.place inside room e x (.group d (r.inside children span)) = .ok e₁)
    (hkeeps : ∀ s ∈ Instruction.allPayloads e₁.instructions, ρ.Keeps s) :
    ∃ children' span' e₁', t' = .group d children' span' ∧
      b.place inside' room e' y (.group d (r'.inside children' span')) = .ok e₁' ∧
      ρ.Encoders m m' n n' e₁ e₁' := by
  obtain ⟨children', span', q, q', rfl, rfl, rfl, hgroup⟩ := hr.inside ht hchildren
  replace hgroup : ρ.Groups d a a' (r.inside children span) (r'.inside children' span') q q' :=
    hgroup
  obtain ⟨e₂, e₃, last, hopening, hin, hclosing⟩ := Body.place_group_eq_ok_iff.1 hplace
  obtain ⟨hfirst, hfirst', hlast, hlast'⟩ := hgroup.cursor_eq
  rw [hfirst] at hopening
  obtain ⟨e₂', hopening', he₂⟩ := he.write hgap (.refl _) hopening span' (a' + 1)
  have hpayloads := Instruction.forall_allPayloads_of_isPrefix
    (Encoder.extends_of_write hclosing).instructions_isPrefix hkeeps
  have hq := hmore.fills'.le
  obtain ⟨e₃', last', k, k', hin', he₃, hend, hall⟩ :=
    hinside hgroup.regions he₂ (by omega) hin hpayloads
  -- the inside has been read up to its end, so the second delimiter comes next
  have hrow := hend.row
  rw [hall rfl] at hrow
  rw [hlast] at hclosing
  obtain ⟨e₁', hclosing', he₁⟩ := he₃.write hrow.nil_inv.2 (.refl _) hclosing span' (q' + 1)
  rw [← hfirst'] at hopening'
  rw [← hlast'] at hclosing'
  exact ⟨children', span', e₁', rfl,
    Body.place_group_eq_ok_iff.2 ⟨e₂', e₃', last', hopening', hin', hclosing'⟩, he₁⟩

end Place

/-- **A construct in both texts.** -/
theorem exists_place (hinside : ρ.KeepsInside inside inside') (hextends : inside.Extends)
    (hr : ρ.Regions i i' (r.goOn (t :: ts)) (r'.goOn row) j j') (he : ρ.Encoders i i' n n' e e')
    (hn : j' ≤ n') (htakes : Construct.Takes r (t :: ts) c rest)
    (hplace : b.place inside room e (r.goOn rest) c = .ok e₁)
    (hkeeps : ∀ s ∈ Instruction.allPayloads e₁.instructions, ρ.Keeps s) :
    ∃ t' ts' c' rest' e₁' k k', row = t' :: ts' ∧ t'.shape = t.shape ∧
      Construct.Takes r' (t' :: ts') c' rest' ∧
      b.place inside' room e' (r'.goOn rest') c' = .ok e₁' ∧ ρ.Encoders k k' n n' e₁ e₁' ∧
      ρ.Regions k k' (r.goOn rest) (r'.goOn rest') j j' := by
  have hsub := htakes.allBlocks_subset
  obtain ⟨t', ts', a, a', b, b', hrow, hgap, ht, hrest⟩ := hr.row.head
  obtain rfl : row = t' :: ts' := hrow
  have hsigil := (Tree.isShaped_isPunct sigil).eq_of_shape_eq ht.shape_eq
  -- the tokens that a construct takes correspond one by one, and with them what it looks at
  cases htakes with
  | @escape _ u _ htp hu htouch =>
    obtain ⟨u', us', c, c', d, d', rfl, hgap', hut, hmore⟩ := hrest.head
    have hu' := (Tree.isShaped_isPunct sigil).eq_of_shape_eq hut.shape_eq
    have htouches := ht.touches_eq hgap' hut hmore
    rw [Body.place] at hplace
    obtain ⟨e₁', hplace', he₁⟩ := he.write_join hgap ht hut hgap'.le hgap'.le' hmore (.refl _) hplace
      (t'.span.join u'.span)
    refine ⟨t', _, _, us', e₁', d, d', rfl, ht.shape_eq, .escape (hsigil.trans htp) (hu'.trans hu)
      (htouches.trans htouch), ?_, he₁, hr.goOn hmore hsub⟩
    rw [Body.place]
    exact hplace'
  | @directive _ u stop l w _ htp hu htouch hl hw hstop =>
    obtain ⟨u', us', c, c', d, d', rfl, hgap', hut, hrest₁⟩ := hrest.head
    obtain ⟨v', vs', f, f', g, g', rfl, hgap₁, hvt, hrest₂⟩ := hrest₁.head
    obtain ⟨w', ws', m, m', k, k', rfl, hgap₂, hwt, hmore⟩ := hrest₂.head
    have hu' := (Tree.isShaped_isPunct '<').eq_of_shape_eq hut.shape_eq
    have hw' := (Tree.isShaped_isPunct '>').eq_of_shape_eq hwt.shape_eq
    have htouches := ht.touches_eq hgap' hut hrest₁
    have hbm : b ≤ m := (hgap'.le.trans hut.lt.1.le).trans
      ((hgap₁.le.trans hvt.lt.1.le).trans hgap₂.le)
    have hbm' : b' ≤ m' := (hgap'.le'.trans hut.lt.2.le).trans
      ((hgap₁.le'.trans hvt.lt.2.le).trans hgap₂.le')
    rw [Body.place] at hplace
    obtain ⟨e₁', hplace', he₁⟩ := he.write_join hgap ht hwt hbm hbm' hmore (.refl _) hplace
      (t'.span.join u'.span)
    cases hvt with
    | leaf =>
      refine ⟨t', _, _, ws', e₁', k, k', rfl, ht.shape_eq, .directive (hsigil.trans htp)
        (hu'.trans hu) (htouches.trans htouch) hl hw (hw'.trans hstop), ?_, he₁, hr.goOn hmore hsub⟩
      rw [Body.place]
      exact hplace'
  | @block _ l children span _ htp hl htext =>
    obtain ⟨u', us', c, c', d, d', rfl, hgap', hut, hrest₁⟩ := hrest.head
    obtain ⟨v', vs', f, f', k, k', rfl, hgap₁, hvt, hmore⟩ := hrest₁.head
    have hbf := (hgap'.le.trans hut.lt.1.le).trans hgap₁.le
    have hbf' := (hgap'.le'.trans hut.lt.2.le).trans hgap₁.le'
    have hmem : span ∈ Tree.allBlocks .nothing
        (t :: .leaf l :: .group .parenthesis children span :: rest) := by
      rw [Construct.allBlocks_block htp hl htext]
      exact List.mem_cons_self
    obtain ⟨children', span', e₁', rfl, hplace', he₁⟩ := exists_place_block (y := r'.goOn vs') hr he
      hgap ht hbf hbf' hvt hmore (hr.keeps span hmem) hplace
    cases hut with
    | leaf =>
      exact ⟨t', _, _, vs', e₁', _, _, rfl, ht.shape_eq, .block (hsigil.trans htp) hl htext, hplace',
        he₁, hr.goOn hmore hsub⟩
  | @name _ l _ htp hl hblock =>
    obtain ⟨u', us', c, c', d, d', rfl, hgap', hut, hmore⟩ := hrest.head
    have hhead := hmore.head_any_eq (Tree.isShaped_isGroup .parenthesis)
    rw [Body.place] at hplace
    obtain ⟨e₁', hplace', he₁⟩ := he.write_join hgap ht hut hgap'.le hgap'.le' hmore (.refl _) hplace
      (t'.span.join u'.span)
    cases hut with
    | leaf =>
      refine ⟨t', _, _, us', e₁', d, d', rfl, ht.shape_eq, .name (hsigil.trans htp) hl
        (fun htext => hhead.trans (hblock htext)), ?_, he₁, hr.goOn hmore hsub⟩
      rw [Body.place]
      exact hplace'
  | @payload _ children span _ htp =>
    obtain ⟨u', us', c, c', d, d', rfl, hgap', hut, hmore⟩ := hrest.head
    have hchildren : ∀ s ∈ Tree.allBlocks .nothing children, ρ.Keeps s := by
      intro s hs
      have hmem : s ∈ Tree.allBlocks .nothing
          (t :: .group .parenthesis children span :: rest) := by
        rw [Construct.allBlocks_payload htp]
        exact List.mem_append_left _ hs
      exact hr.keeps s hmem
    obtain ⟨children', span', e₁', rfl, hplace', he₁⟩ := exists_place_payload (y := r'.goOn us')
      hinside hextends hr he hgap ht hgap'.le hgap'.le' hut hmore hchildren hplace hkeeps
    exact ⟨t', _, _, us', e₁', _, _, rfl, ht.shape_eq, .payload (hsigil.trans htp), hplace', he₁,
      hr.goOn hmore hsub⟩
  | plain halone =>
    have hrest' := hr.goOn hrest hsub
    have htakes' : Construct.Takes r' (t' :: ts') (Construct.plain r' t') ts' :=
      .plain (hr.row.standsAlone_eq.trans halone)
    cases t with
    | leaf l =>
      obtain ⟨l', e₁', rfl, hplace', he₁⟩ := exists_place_leaf (y := r'.goOn ts') he hgap ht hplace
      exact ⟨_, ts', _, ts', e₁', b, b', rfl, ht.shape_eq, htakes', hplace', he₁, hrest'⟩
    | group d children span =>
      have hchildren : ∀ s ∈ Tree.allBlocks .nothing children, ρ.Keeps s := by
        intro s hs
        have hmem : s ∈ Tree.allBlocks .nothing (.group d children span :: ts) := by
          rw [Construct.allBlocks_plain halone, Tree.blocks]
          exact List.mem_append_left _ hs
        exact hr.keeps s hmem
      obtain ⟨children', span', e₁', rfl, hplace', he₁⟩ := exists_place_group (y := r'.goOn ts')
        hinside hr he hn hgap ht hrest hchildren hplace hkeeps
      exact ⟨_, ts', _, ts', e₁', _, _, rfl, ht.shape_eq, htakes', hplace', he₁, hrest'⟩

/-! ### Rows of constructs -/

/-- **The constructs of a body in both texts**, one after another. -/
theorem exists_writes {untilComma : Bool} {left : List Tree}
    (hinside : ρ.KeepsInside inside inside') (hextends : inside.Extends)
    (hr : ρ.Regions i i' (r.goOn ts) (r'.goOn row) j j') (he : ρ.Encoders i i' n n' e e')
    (hn : j' ≤ n') (hwrites : b.Writes inside room untilComma r e ts e₁ left)
    (hkeeps : ∀ s ∈ Instruction.allPayloads e₁.instructions, ρ.Keeps s) :
    ∃ e₁' left' k k', b.Writes inside' room untilComma r' e' row e₁' left' ∧
      ρ.Encoders k k' n n' e₁ e₁' ∧ ρ.Regions k k' (r.goOn left) (r'.goOn left') j j' := by
  induction hwrites generalizing i i' e' row with
  | nil =>
    obtain ⟨rfl, -⟩ := hr.row.nil_inv
    exact ⟨e', [], i, i', .nil, he, hr⟩
  | comma hcomma ht =>
    obtain ⟨t', ts', a, a', m, m', hrow, -, htoken, -⟩ := hr.row.head
    obtain rfl : row = t' :: ts' := hrow
    have ht' := (Tree.isShaped_isPunct ',').eq_of_shape_eq htoken.shape_eq
    exact ⟨e', _, i, i', .comma hcomma (ht'.trans ht), he, hr⟩
  | step hcomma htakes hplace hwrites ih =>
    have hpayloads := Instruction.forall_allPayloads_of_isPrefix
      (hwrites.extends hextends).instructions_isPrefix hkeeps
    obtain ⟨t', ts', c', rest', e₂', k, k', rfl, hshape, htakes', hplace', he₂, hrest⟩ :=
      exists_place hinside hextends hr he hn htakes hplace hpayloads
    obtain ⟨e₁', left', m, m', hwrites', he₁, hleft⟩ := ih hrest he₂ hkeeps
    rw [← (Tree.isShaped_isPunct ',').eq_of_shape_eq hshape] at hcomma
    exact ⟨e₁', left', m, m', .step hcomma htakes' hplace' hwrites', he₁, hleft⟩

/-- **A body of any depth**, by induction on how much deeper it may go. -/
theorem keepsInside_levels (ρ : Respacing) (b : Body) (room : Nat) :
    ρ.KeepsInside (levels b room) (levels b room) := by
  induction room with
  | zero => exact fun _ _ _ h => absurd h error_ne_ok
  | succ room ih =>
    intro i i' j j' n n' untilComma e e' e₁ r r' rest hr he hn h hkeeps
    obtain ⟨left, hwrites, rfl⟩ := Body.placeAll_eq_ok_iff.1 h
    obtain ⟨e₁', left', k, k', hwrites', he₁, hleft⟩ :=
      exists_writes ih (levels_extends b room) hr he hn hwrites hkeeps
    exact ⟨e₁', r'.goOn left', k, k', Body.placeAll_eq_ok_iff.2 ⟨left', hwrites', rfl⟩, he₁, hleft,
      hwrites.left_eq_nil⟩

/-- So the bodies of constructs are compiled to the same routines, apart from places. -/
theorem keepsBodies_levels (ρ : Respacing) (b : Body) (room : Nat) :
    ρ.KeepsBodies (b.bodies (levels b room)) (b.bodies (levels b room)) :=
  KeepsInside.keepsBodies (keepsInside_levels ρ b room) (levels_extends b room) b

end Respacing

end TokenTemplate
