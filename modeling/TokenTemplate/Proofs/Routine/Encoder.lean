import TokenTemplate.Proofs.Source.Offset
import TokenTemplate.Template.Body

/-!
# What an encoder does

An encoder is described here from outside, by what it adds to what it has written. The white space
before an element depends on the gap before it alone (`TokenTemplate.spacing?_advanceAll`). Of the
elements only delimiters change the groups that are open: every other node is neutral,
`TokenTemplate.Node.IsNeutral`, and can always be written
(`TokenTemplate.Encoder.write_of_isNeutral`).

`TokenTemplate.Encoder.Wrote` puts together what is to be known after some elements, and composes
(`TokenTemplate.Encoder.Wrote.trans`).
-/

namespace TokenTemplate

/-! ### Spacing -/

/-- **What a gap comes to**: nothing if it is empty, a blank on one line, the end of a line with one
line feed, and an empty line with more. -/
def Whitespace.ofGap? (gap : List Char) : Option Whitespace :=
  if gap = [] then none
  else match gap.count '\n' with
    | 0 => some .space
    | 1 => some .push
    | _ => some .line

theorem Whitespace.ofGap?_eq_none_iff {gap : List Char} : ofGap? gap = none ↔ gap = [] := by
  rw [ofGap?]
  split
  · next h => exact iff_of_true rfl h
  · next h =>
    refine iff_of_false ?_ h
    split <;> exact Option.some_ne_none _

theorem line_advanceAll (p : Position) (cs : List Char) :
    (p.advanceAll cs).line = p.line + cs.count '\n' := by
  induction cs generalizing p with
  | nil => rw [Position.advanceAll_nil, List.count_nil, Int.natCast_zero, Int.add_zero]
  | cons c cs ih =>
    rw [Position.advanceAll_cons, ih, Position.advance, List.count_cons]
    by_cases hc : c = '\n'
    · simp only [hc, if_true, beq_self_eq_true]
      omega
    · simp [hc, Position.right]

theorem column_advanceAll (p : Position) {cs : List Char} (h : '\n' ∉ cs) :
    (p.advanceAll cs).column = p.column + cs.length := by
  induction cs generalizing p with
  | nil => rw [Position.advanceAll_nil, List.length_nil, Int.natCast_zero, Int.add_zero]
  | cons c cs ih =>
    rw [List.mem_cons, not_or] at h
    rw [Position.advanceAll_cons, ih _ h.2, Position.advance, if_neg (Ne.symm h.1), Position.right,
      List.length_cons]
    simp only
    omega

/-- **The spacing between two places** is what the gap between them comes to. -/
theorem spacing?_advanceAll (p : Position) (gap : List Char) :
    spacing? p (p.advanceAll gap) = Whitespace.ofGap? gap := by
  have hline := line_advanceAll p gap
  rw [spacing?, Whitespace.ofGap?, hline]
  rcases hcount : gap.count '\n' with _ | _ | n
  · have hcolumn := column_advanceAll p (List.count_eq_zero.1 hcount)
    rw [if_pos (by omega), hcolumn]
    rcases eq_or_ne gap [] with rfl | hne
    · rw [if_pos rfl, if_neg (by simp)]
    · have hlen := List.length_pos_iff.2 hne
      rw [if_neg hne, if_pos (by omega)]
      rfl
  · have hne : gap ≠ [] := by
      rintro rfl
      exact absurd hcount (by simp)
    rw [if_neg (by omega), if_pos (by omega), if_neg hne]
    rfl
  · have hne : gap ≠ [] := by
      rintro rfl
      exact absurd hcount (by simp)
    rw [if_neg (by omega), if_neg (by omega), if_pos (by omega), if_neg hne]
    rfl

/-! ### What has been written -/

/-- A node that opens and closes no group, and that can be lowered. -/
def Node.IsNeutral : Node → Prop
  | .opening _ | .closing _ | .unsupported _ => False
  | _ => True

/-- The instruction that writes an item. -/
def Item.instruction : Item → Instruction
  | text s => .append s
  | space w => .layout w

namespace Delimiter

/-- The items of an opening delimiter: after a curly bracket the level of indentation rises. -/
def openingItems (d : Delimiter) : List Item :=
  .text d.opening :: if d = .brace then [.space .indent] else []

/-- The items of a closing delimiter: before a curly bracket the level of indentation falls. -/
def closingItems (d : Delimiter) : List Item :=
  (if d = .brace then [.space .unindent] else []) ++ [.text d.closing]

end Delimiter

namespace Encoder

/-- **What an encoder has written** since an earlier moment: some items, up to a place, with some
groups open. -/
structure Wrote (e e' : Encoder) (items : List Item) (place : Option Position)
    (opened : List Delimiter) : Prop where
  /-- The items have been added. -/
  instructions_eq : e'.instructions = e.instructions ++ items.map Item.instruction
  /-- White space is counted from the place. -/
  place_eq : e'.last.or e'.before = place
  /-- The groups are open. -/
  opened_eq : e'.opened = opened
  /-- The end is still the same. -/
  after_eq : e'.after = e.after

variable {e e' e'' : Encoder} {items items' : List Item} {place place' : Option Position}
  {opened opened' : List Delimiter}

theorem Wrote.refl (h : e.last.or e.before = place) : e.Wrote e [] place e.opened :=
  ⟨(List.append_nil _).symm, h, rfl, rfl⟩

theorem Wrote.trans (h : e.Wrote e' items place opened) (h' : e'.Wrote e'' items' place' opened') :
    e.Wrote e'' (items ++ items') place' opened' := by
  refine ⟨?_, h'.place_eq, h'.opened_eq, h'.after_eq.trans h.after_eq⟩
  rw [h'.instructions_eq, h.instructions_eq, List.map_append, List.append_assoc]

/-- **The marks for the white space** up to a place. -/
def spaceItems (e : Encoder) (next : Position) : List Item :=
  ((e.last.or e.before).bind (spacing? · next)).toList.map .space

theorem wrote_space (e : Encoder) (next : Position) :
    e.Wrote (e.space next) (e.spaceItems next) (e.last.or e.before) e.opened := by
  rw [space, spaceItems]
  split
  · next w hw =>
    rw [hw]
    exact ⟨rfl, rfl, rfl, rfl⟩
  · next hw =>
    rw [hw]
    exact .refl rfl

/-- **An element is written** after the white space before it. -/
theorem exists_encode (e : Encoder) (span : Span) (cursor : Cursor) (node : Node) :
    ∃ e₀, e.encode span cursor node = e₀.lower span node ∧
      e.Wrote e₀ (e.spaceItems cursor.start) (some cursor.stop) e.opened := by
  have hspace := e.wrote_space cursor.start
  exact ⟨_, rfl, hspace.instructions_eq, rfl, hspace.opened_eq, hspace.after_eq⟩

/-! ### Elements -/

/-- A token writes its text. -/
theorem write_token (e : Encoder) (span : Span) (cursor : Cursor) (text : String) :
    ∃ e', e.write span cursor (.token text) = .ok e' ∧
      e.Wrote e' (e.spaceItems cursor.start ++ [.text text]) (some cursor.stop) e.opened := by
  obtain ⟨e₀, hencode, hwrote⟩ := e.exists_encode span cursor (.token text)
  have hlower : e₀.Wrote (e₀.emit (.append text)) [.text text] (some cursor.stop) e.opened :=
    ⟨rfl, hwrote.place_eq, hwrote.opened_eq, rfl⟩
  refine ⟨_, ?_, hwrote.trans hlower⟩
  rw [write, hencode]
  rfl

/-- An opening delimiter opens its group. -/
theorem write_opening (e : Encoder) (span : Span) (cursor : Cursor) (d : Delimiter) :
    ∃ e', e.write span cursor (.opening d) = .ok e' ∧
      e.Wrote e' (e.spaceItems cursor.start ++ d.openingItems) (some cursor.stop)
        (d :: e.opened) := by
  obtain ⟨e₀, hencode, hwrote⟩ := e.exists_encode span cursor (.opening d)
  obtain ⟨e₁, hok, hlower⟩ : ∃ e₁, e₀.lower span (.opening d) = (e₁, none) ∧
      e₀.Wrote e₁ d.openingItems (some cursor.stop) (d :: e.opened) := by
    have hopened := congrArg (d :: ·) hwrote.opened_eq
    cases d with
    | brace => exact ⟨_, rfl, List.append_assoc .., hwrote.place_eq, hopened, rfl⟩
    | parenthesis | bracket => exact ⟨_, rfl, rfl, hwrote.place_eq, hopened, rfl⟩
  refine ⟨e₁, ?_, hwrote.trans hlower⟩
  rw [write, hencode, hok]

/-- A closing delimiter closes the innermost open group. -/
theorem write_closing {d : Delimiter} (h : e.opened = d :: opened) (span : Span) (cursor : Cursor) :
    ∃ e', e.write span cursor (.closing d) = .ok e' ∧
      e.Wrote e' (e.spaceItems cursor.start ++ d.closingItems) (some cursor.stop) opened := by
  obtain ⟨e₀, hencode, hwrote⟩ := e.exists_encode span cursor (.closing d)
  have hopened := hwrote.opened_eq.trans h
  obtain ⟨e₁, hok, hlower⟩ : ∃ e₁, e₀.lower span (.closing d) = (e₁, none) ∧
      e₀.Wrote e₁ d.closingItems (some cursor.stop) opened := by
    rw [lower]
    simp only [hopened, if_true]
    cases d with
    | brace => exact ⟨_, rfl, List.append_assoc .., hwrote.place_eq, rfl, rfl⟩
    | parenthesis | bracket => exact ⟨_, rfl, rfl, hwrote.place_eq, rfl, rfl⟩
  refine ⟨e₁, ?_, hwrote.trans hlower⟩
  rw [write, hencode, hok]

/-- **A neutral node** can be written, and opens and closes no group. -/
theorem write_of_isNeutral {node : Node} (h : node.IsNeutral) (span : Span) (cursor : Cursor) :
    ∃ e', e.write span cursor node = .ok e' ∧ e'.opened = e.opened := by
  have hspace := (e.wrote_space cursor.start).opened_eq
  cases node with
  | opening d => exact h.elim
  | closing d => exact h.elim
  | unsupported text => exact h.elim
  | interpolation evaluated segments => cases evaluated <;> exact ⟨_, rfl, hspace⟩
  | _ => exact ⟨_, rfl, hspace⟩

/-- **A body in which every group has been closed** is a routine. -/
theorem finish_of_closed (h : e.opened = []) : ∃ routine, e.finish.2 = .ok routine := by
  have hclosed : (e.after.elim e e.space).opened = [] := by
    cases e.after with
    | none => exact h
    | some p => exact ((e.wrote_space p).opened_eq).trans h
  rw [finish]
  simp only [hclosed]
  exact ⟨_, rfl⟩

/-- Without white space to count at its end such a body is the routine of what has been written. -/
theorem finish_of_closed_of_after (h : e.opened = []) (hafter : e.after = none) :
    e.finish.2 = .ok ⟨e.receiver, e.instructions, e.filename⟩ := by
  rw [finish]
  simp only [hafter, Option.elim_none, h]

end Encoder

end TokenTemplate
