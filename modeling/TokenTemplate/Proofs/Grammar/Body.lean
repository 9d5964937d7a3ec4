import TokenTemplate.Proofs.Grammar.Construct
import TokenTemplate.Proofs.Grammar.Payload

/-!
# The grammar of bodies

A body is a row of constructs, which are handed to an encoder one after another
(`TokenTemplate.Body.Writes`). It ends with the tokens, or before a comma if it is one that a comma
ends.

Every construct but a group is one element, and what it takes to write it is said construct by
construct (`TokenTemplate.Body.place_payload_eq_ok_iff` and its companions). A group is an element
for each of its delimiters, and its inside is written between them by the same encoder.
-/

namespace TokenTemplate

/-! ### Bodies -/

namespace Body

section Place

variable {b : Body} {inside : Inside} {room : Nat} {e e' : Encoder} {r : Region} {start : Span}

/-- A block is written with the segments of its inside. -/
theorem place_block_eq_ok_iff {block : Region} :
    b.place inside room e r (.block start block) = .ok e' ↔
      ∃ segments, Segment.ofRegion (room - 1) block = .ok segments ∧
        e.write block.span (start.cursor.join block.span.cursor)
          (.interpolation (segments.any Segment.isSite) segments) = .ok e' := by
  rw [place, bind_eq_ok_iff]
  simp only [lift_eq_ok_iff]

/-- The brackets after a sigil are written with the node that they hold, if it takes all of them. -/
theorem place_payload_eq_ok_iff {scope : Region} :
    b.place inside room e r (.payload start scope) = .ok e' ↔
      ∃ node rest, Construct.Parses (b.bodies inside) scope node rest ∧ rest.tokens = [] ∧
        e.write (start.join scope.span) (start.cursor.join scope.span.cursor) node = .ok e' := by
  rw [place, bind_eq_ok_iff]
  constructor
  · rintro ⟨⟨node, rest⟩, hnode, h⟩
    obtain ⟨u, hend, h⟩ := bind_eq_ok_iff.1 h
    exact ⟨node, rest, Construct.payloadNode_eq_ok_iff.1 hnode,
      Region.expectEnd_eq_ok_iff.1 (lift_eq_ok_iff.1 hend), h⟩
  · rintro ⟨node, rest, hnode, hend, h⟩
    exact ⟨(node, rest), Construct.payloadNode_eq_ok_iff.2 hnode, bind_eq_ok_iff.2
      ⟨(), lift_eq_ok_iff.2 (Region.expectEnd_eq_ok_iff.2 hend), h⟩⟩

/-- A group is written from its first delimiter to its second. -/
theorem place_group_eq_ok_iff {d : Delimiter} {group : Region} :
    b.place inside room e r (.group d group) = .ok e' ↔
      ∃ e₁ e₂ rest,
        e.write group.span group.span.cursor.firstCharacter (.opening d) = .ok e₁ ∧
        inside false e₁ group = .ok (e₂, rest) ∧
        e₂.write group.span group.span.cursor.lastCharacter (.closing d) = .ok e' := by
  rw [place]
  simp only [bind_eq_ok_iff]
  constructor
  · rintro ⟨e₁, hopening, ⟨e₂, rest⟩, hinside, hclosing⟩
    exact ⟨e₁, e₂, rest, hopening, hinside, hclosing⟩
  · rintro ⟨e₁, e₂, rest, hopening, hinside, hclosing⟩
    exact ⟨e₁, hopening, (e₂, rest), hinside, hclosing⟩

/-- What a token by itself is written as. -/
inductive Alone (r : Region) (l : Leaf) : Node → Prop
  /-- The text that a string stands for. -/
  | quoted {s : String} (hkind : l.kind = .string) (hs : Construct.decode r l = .ok s) :
      Alone r l (.quoted s)
  /-- Its own text. -/
  | token (hkind : l.kind ≠ .string) : Alone r l (.token l.text)

theorem place_leaf_eq_ok_iff {l : Leaf} :
    b.place inside room e r (.leaf l) = .ok e' ↔
      ∃ node, Alone r l node ∧ e.write l.span l.span.cursor node = .ok e' := by
  rw [place, ite_bind_eq_ok_iff]
  constructor
  · rintro ⟨node, hnode, h⟩
    refine ⟨node, ?_, h⟩
    split at hnode
    · next hkind =>
      obtain ⟨s, hs, rfl⟩ := map_eq_ok_iff.1 hnode
      exact .quoted hkind hs
    · next hkind =>
      obtain rfl := Except.ok.inj hnode
      exact .token hkind
  · rintro ⟨node, halone, h⟩
    refine ⟨node, ?_, h⟩
    cases halone with
    | quoted hkind hs => rw [if_pos hkind, hs]; rfl
    | token hkind => rw [if_neg hkind]; rfl

end Place

/-- **The constructs of a body, one after another**, on an encoder, up to the end of some tokens or
up to a comma that ends the body. -/
inductive Writes (b : Body) (inside : Inside) (room : Nat) (untilComma : Bool) (r : Region) :
    Encoder → List Tree → Encoder → List Tree → Prop
  /-- There are no more. -/
  | nil {e : Encoder} : Writes b inside room untilComma r e [] e []
  /-- A comma ends the body. -/
  | comma {e : Encoder} {t : Tree} {ts : List Tree} (hcomma : untilComma = true)
      (ht : t.isPunct ',' = true) : Writes b inside room untilComma r e (t :: ts) e (t :: ts)
  /-- A construct, and those after it. -/
  | step {e e₁ e₂ : Encoder} {t : Tree} {ts rest left : List Tree} {c : Construct}
      (hcomma : (untilComma && t.isPunct ',') = false) (htakes : Construct.Takes r (t :: ts) c rest)
      (hplace : b.place inside room e (r.goOn rest) c = .ok e₁)
      (h : Writes b inside room untilComma r e₁ rest e₂ left) :
      Writes b inside room untilComma r e (t :: ts) e₂ left

variable {b : Body} {inside : Inside} {room : Nat} {untilComma : Bool} {r r' : Region}
  {e e' : Encoder} {ts left : List Tree}

/-- A body that no comma ends takes all tokens. -/
theorem Writes.left_eq_nil (h : b.Writes inside room untilComma r e ts e' left)
    (hcomma : untilComma = false) : left = [] := by
  induction h with
  | nil => rfl
  | comma heq => exact absurd (hcomma.symm.trans heq) Bool.false_ne_true
  | step _ _ _ _ ih => exact ih

theorem placeAll_of_comma {t : Tree} (hcomma : (untilComma && t.isPunct ',') = true) :
    b.placeAll inside room untilComma e r (t :: ts) = .ok (e, r.goOn (t :: ts)) := by
  rw [placeAll, if_pos hcomma]

/-- What is said of the first construct is said of the row. -/
theorem placeAll_of_error {t : Tree} {err : SyntaxError}
    (hcomma : (untilComma && t.isPunct ',') = false) (h : Construct.sight r t ts = .error err) :
    b.placeAll inside room untilComma e r (t :: ts) = .error (.malformed err) := by
  rw [placeAll, if_neg (Bool.eq_false_iff.1 hcomma)]
  split
  · next heq =>
    rw [h] at heq
    rw [Except.error.inj heq]
  · next heq =>
    rw [h] at heq
    exact absurd heq error_ne_ok

/-- One construct, and those after it. -/
theorem placeAll_of_takes {t : Tree} {rest : List Tree} {c : Construct}
    (hcomma : (untilComma && t.isPunct ',') = false)
    (h : Construct.Takes r (t :: ts) c rest) :
    b.placeAll inside room untilComma e r (t :: ts) =
      b.place inside room e (r.goOn rest) c >>= fun e₁ =>
        b.placeAll inside room untilComma e₁ (r.goOn rest) rest := by
  have hsight := Construct.sight_eq_ok_iff.2 ⟨rest, h, rfl⟩
  rw [placeAll, if_neg (Bool.eq_false_iff.1 hcomma)]
  split
  · next heq =>
    rw [hsight] at heq
    exact absurd heq.symm error_ne_ok
  · next heq =>
    rw [hsight] at heq
    obtain ⟨rfl, rfl⟩ := Prod.mk.inj (Except.ok.inj heq)
    rfl

/-- **A row of constructs is handed to an encoder** as the rules of bodies say. -/
theorem placeAll_eq_ok_iff :
    b.placeAll inside room untilComma e r ts = .ok (e', r') ↔
      ∃ left, Writes b inside room untilComma r e ts e' left ∧ r' = r.goOn left := by
  suffices h : ∀ us, b.placeAll inside room untilComma e (r.goOn us) ts = .ok (e', r') ↔
      ∃ left, Writes b inside room untilComma r e ts e' left ∧ r' = r.goOn left from h r.tokens
  -- by induction on the tokens that are left, of which every construct takes one
  induction hn : ts.length using Nat.strongRecOn generalizing e ts with
  | ind n ih =>
    intro us
    cases ts with
    | nil =>
      rw [placeAll, Except.ok.injEq, Prod.mk.injEq]
      constructor
      · rintro ⟨rfl, rfl⟩
        exact ⟨[], .nil, rfl⟩
      · rintro ⟨left, h, rfl⟩
        cases h
        exact ⟨rfl, rfl⟩
    | cons t ts =>
      rcases hcomma : untilComma && t.isPunct ',' with _ | _
      · have hstep {c : Construct} {rest : List Tree}
            (h : Construct.Takes (r.goOn us) (t :: ts) c rest) (e₁ : Encoder) :
            b.placeAll inside room untilComma e₁ (r.goOn rest) rest = .ok (e', r') ↔
              ∃ left, Writes b inside room untilComma r e₁ rest e' left ∧ r' = r.goOn left := by
          refine ih _ ?_ rfl rest
          rw [← hn, List.length_cons]
          exact Nat.lt_succ_of_le h.length_le
        constructor
        · intro h
          rcases hsight : Construct.sight (r.goOn us) t ts with err | ⟨c, r₁⟩
          · rw [placeAll, if_neg (Bool.eq_false_iff.1 hcomma)] at h
            split at h
            · exact absurd h error_ne_ok
            · next heq =>
              rw [hsight] at heq
              exact absurd heq error_ne_ok
          · obtain ⟨rest, htakes, rfl⟩ := Construct.sight_eq_ok_iff.1 hsight
            rw [placeAll_of_takes hcomma htakes] at h
            obtain ⟨e₁, hplace, h⟩ := bind_eq_ok_iff.1 h
            obtain ⟨left, hwrites, hr'⟩ := (hstep htakes e₁).1 h
            exact ⟨left, .step hcomma (Construct.takes_goOn_iff.1 htakes) hplace hwrites, hr'⟩
        · rintro ⟨left, h, rfl⟩
          cases h with
          | comma hc ht => exact absurd hcomma (by simp [hc, ht])
          | step _ htakes hplace h =>
            have htakes : Construct.Takes (r.goOn us) _ _ _ := Construct.takes_goOn_iff.2 htakes
            rw [placeAll_of_takes hcomma htakes]
            exact bind_eq_ok_iff.2 ⟨_, hplace, (hstep htakes _).2 ⟨left, h, rfl⟩⟩
      · rw [placeAll_of_comma hcomma, Except.ok.injEq, Prod.mk.injEq]
        constructor
        · rintro ⟨rfl, rfl⟩
          rw [Bool.and_eq_true] at hcomma
          exact ⟨_, .comma hcomma.1 hcomma.2, rfl⟩
        · rintro ⟨left, h, rfl⟩
          cases h with
          | comma => exact ⟨rfl, rfl⟩
          | step hc => exact absurd (hcomma.symm.trans hc) (by decide)

/-! ### Routines of bodies -/

/-- **A body is compiled** with an encoder of its own, which is ended after it. -/
theorem compileWith_eq_ok_iff {rest : Region} {routine : Routine} :
    b.compileWith inside r = .ok (routine, rest) ↔
      ∃ e, inside b.untilComma b.encoder r = .ok (e, rest) ∧ e.finish.2 = .ok routine := by
  rw [compileWith, bind_eq_ok_iff]
  constructor
  · rintro ⟨⟨e, rest'⟩, hinside, h⟩
    simp only at h
    split at h
    · next routine' hfinish =>
      obtain ⟨rfl, rfl⟩ := Prod.mk.inj (Except.ok.inj h)
      exact ⟨e, hinside, hfinish⟩
    · exact absurd h error_ne_ok
  · rintro ⟨e, hinside, hfinish⟩
    refine ⟨(e, rest), hinside, ?_⟩
    simp only [hfinish]
    rfl

/-- A body between edges, or without any. -/
def between (b : Body) (edges : Option Span) (untilComma : Bool) : Body where
  receiver := b.receiver
  settings := b.settings
  before := edges.map (·.start.right)
  after := edges.map (·.stop.left)
  untilComma := untilComma

theorem bodies_eq (b : Body) (inside : Inside) (edges : Option Span) (untilComma : Bool)
    (r : Region) :
    b.bodies inside edges untilComma r = (b.between edges untilComma).compileWith inside r := by
  cases edges <;> rfl

end Body

end TokenTemplate
