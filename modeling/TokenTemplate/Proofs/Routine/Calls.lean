import Mathlib.Order.Bounds.Basic
import TokenTemplate.Proofs.Routine.Record
import TokenTemplate.Proofs.Token.Nesting

/-!
# Any calls of an encoder

An encoder may be handed elements in any order, with cursors that go backwards and delimiters that do
not match. It records all of them. Which call is the first to raise can be read off the delimiters
among the nodes, `TokenTemplate.Element.word`: it is the first closing delimiter after which they are
no longer the beginning of a well nested row, `TokenTemplate.CanNest`, or the first node that is none
(`TokenTemplate.Encoder.isLeast_raises_iff`).

Up to there the groups that are open are the stack of `TokenTemplate.nest`, and what has been written
is what the elements come to (`TokenTemplate.Encoder.fed_eq`). So a routine is ended exactly if the row
is well nested (`TokenTemplate.Encoder.finish_fed`).
-/

namespace TokenTemplate

/-! ### Delimiters -/

/-- **The beginning of a well nested row.** -/
def CanNest (ks : List LexemeKind) : Prop :=
  ∃ rest, WellNested (ks ++ rest)

/-- Closing the open groups, the innermost first, closes all of them. -/
theorem nest_map_closing (stack : List Delimiter) :
    nest stack (stack.map .closing) = some [] := by
  induction stack with
  | nil => rfl
  | cons d stack ih => rw [List.map_cons, nest, if_pos rfl, ih]

/-- A row can be the beginning of a well nested one if every closing delimiter in it matches. -/
theorem canNest_iff {ks : List LexemeKind} : CanNest ks ↔ ∃ stack, nest [] ks = some stack := by
  constructor
  · rintro ⟨rest, h⟩
    obtain ⟨stack, hstack, -⟩ := exists_nest_of_append (nest_eq_some_nil_iff.2 h)
    exact ⟨stack, hstack⟩
  · rintro ⟨stack, h⟩
    refine ⟨stack.map .closing, nest_eq_some_nil_iff.1 ?_⟩
    rw [nest_append, h, Option.bind_some, nest_map_closing]

/-- The delimiter that a node is, if it is one. -/
def Node.bracket? : Node → Option LexemeKind
  | .opening d => some (.opening d)
  | .closing d => some (.closing d)
  | _ => none

/-- Whether a node is of a known kind. -/
def Node.IsKnown : Node → Prop
  | .unsupported _ => False
  | _ => True

/-- **The delimiters among some elements**, in order. -/
def Element.word (calls : List Element) : List LexemeKind :=
  calls.filterMap (·.node.bracket?)

/-- **A call breaks a row of calls**: its node is of no known kind, or it is a closing delimiter after
which the delimiters so far are no longer the beginning of a well nested row. -/
def Element.Breaks (calls : List Element) (k : Nat) : Prop :=
  ∃ x, calls[k]? = some x ∧ (¬ x.node.IsKnown ∨
    (∃ d, x.node = .closing d) ∧ ¬ CanNest (Element.word (calls.take (k + 1))))

namespace Node

variable {node : Node} {opened : List Delimiter}

/-- A node may stand in a row if it is known, and, if it is a delimiter, it can be read there. -/
theorem opened?_eq (h : node.IsKnown) (opened : List Delimiter) :
    node.opened? opened = nest opened node.bracket?.toList := by
  cases node with
  | unsupported text => exact h.elim
  | closing d => cases opened <;> rfl
  | _ => rfl

theorem opened?_of_not_isKnown (h : ¬ node.IsKnown) : node.opened? opened = none := by
  cases node with
  | unsupported text => rfl
  | _ => exact absurd trivial h

/-- No other node than a closing delimiter is out of place. -/
theorem exists_opened? (h : node.IsKnown) (hclosing : ∀ d, node ≠ .closing d) :
    ∃ opened', node.opened? opened = some opened' := by
  cases node with
  | unsupported text => exact h.elim
  | closing d => exact absurd rfl (hclosing d)
  | _ => exact ⟨_, rfl⟩

end Node

theorem Element.word_append (xs ys : List Element) : word (xs ++ ys) = word xs ++ word ys :=
  List.filterMap_append

theorem Element.word_singleton (x : Element) : word [x] = x.node.bracket?.toList := by
  rw [word, List.filterMap_cons]
  cases x.node.bracket? <;> rfl

/-! ### Calls -/

namespace Encoder

/-- **An encoder after some calls**, whether they raise or not. -/
def fed (e : Encoder) (calls : List Element) : Encoder :=
  calls.foldl (fun e x => (e.encode x.span x.cursor x.node).1) e

/-- **A call raises**, after those before it. -/
def Raises (e : Encoder) (calls : List Element) (k : Nat) : Prop :=
  ∃ x p, calls[k]? = some x ∧
    ((e.fed (calls.take k)).encode x.span x.cursor x.node).2 = some p

variable {e : Encoder} {x : Element} {xs ys calls : List Element} {stack : List Delimiter} {k : Nat}

/-- An encoder that has written the white space up to an element and noted it. -/
def noted (e : Encoder) (x : Element) : Encoder :=
  { e with
    instructions := e.instructions ++ spaceMarks (e.last.or e.before) x.cursor.start
    last := some x.cursor.stop
    elements := e.elements ++ [x] }

/-- A call notes its element and lowers it. -/
theorem encode_eq (e : Encoder) (x : Element) :
    e.encode x.span x.cursor x.node = (e.noted x).lower x.span x.node := by
  rw [encode, space_eq, map_spaceItems]
  rfl

/-- A call that may be made is recorded. -/
theorem encode_of_opened? (h : x.node.opened? e.opened = some stack) :
    e.encode x.span x.cursor x.node = ({ e.record [x] with opened := stack }, none) := by
  have hnoted : x.node.opened? (e.noted x).opened = some stack := h
  rw [encode_eq, lower_of_opened? hnoted]
  simp only [noted, record, Element.written, List.append_nil, List.append_assoc]
  rfl

/-- A call that may not be made raises. -/
theorem encode_of_opened?_eq_none (h : x.node.opened? e.opened = none) :
    ∃ p, (e.encode x.span x.cursor x.node).2 = some p := by
  rw [encode_eq]
  generalize hlower : lower _ x.span x.node = result
  obtain ⟨e', _ | p⟩ := result
  · obtain ⟨opened, hopened, -⟩ := (lower_eq_none_iff _ x.span x.node).1 hlower
    have hnone : x.node.opened? (e.noted x).opened = none := h
    exact absurd (hnone.symm.trans hopened) nofun
  · exact ⟨p, rfl⟩

/-- Lowering a node leaves the elements alone. -/
theorem elements_lower (e : Encoder) (span : Span) (node : Node) :
    (e.lower span node).1.elements = e.elements := by
  cases node with
  | opening d => cases d <;> rfl
  | closing d =>
    rw [lower]
    rcases e.opened with _ | ⟨o, opened⟩
    · rfl
    · by_cases hd : o = d
      · simp only [if_pos hd]
        cases d <;> rfl
      · simp only [if_neg hd]
  | interpolation evaluated segments => cases evaluated <;> rfl
  | _ => rfl

/-- **Every call is recorded**, in order, also one that raises. -/
theorem elements_fed (e : Encoder) (calls : List Element) :
    (e.fed calls).elements = e.elements ++ calls := by
  induction calls generalizing e with
  | nil => exact (List.append_nil _).symm
  | cons x calls ih =>
    have hencode : (e.encode x.span x.cursor x.node).1.elements = e.elements ++ [x] := by
      rw [encode_eq, elements_lower]
      rfl
    change ((e.encode x.span x.cursor x.node).1.fed calls).elements = _
    rw [ih, hencode, List.append_assoc, List.singleton_append]

/-- **Calls that can be read** leave what is recorded of them, with the groups open that they leave
open. -/
theorem fed_eq (hknown : ∀ x ∈ calls, x.node.IsKnown)
    (h : nest e.opened (Element.word calls) = some stack) :
    e.fed calls = { e.record calls with opened := stack } := by
  -- by induction on the calls from the first one, with the groups that are open before it
  induction calls generalizing e with
  | nil =>
    obtain rfl := Option.some.inj h
    rw [record_nil]
    rfl
  | cons x calls ih =>
    obtain ⟨hx, hcalls⟩ := List.forall_mem_cons.1 hknown
    have hword : Element.word (x :: calls) = x.node.bracket?.toList ++ Element.word calls := by
      rw [← Element.word_singleton, ← Element.word_append, List.singleton_append]
    rw [hword, nest_append, ← Node.opened?_eq hx] at h
    obtain ⟨opened, hopened, h⟩ := Option.bind_eq_some_iff.1 h
    change (e.encode x.span x.cursor x.node).1.fed calls = _
    rw [encode_of_opened? hopened, ih hcalls h]
    change { (e.record [x]).record calls with opened := stack } = _
    rw [record_append]
    rfl

/-- **A call breaks the row** exactly if its node may not stand after the groups that are open. -/
theorem breaks_iff (hx : calls[k]? = some x)
    (hstack : nest [] (Element.word (calls.take k)) = some stack) :
    Element.Breaks calls k ↔ x.node.opened? stack = none := by
  have hword : Element.word (calls.take (k + 1)) =
      Element.word (calls.take k) ++ x.node.bracket?.toList := by
    rw [List.take_add_one, hx, Element.word_append, ← Element.word_singleton]
    rfl
  by_cases hknown : x.node.IsKnown
  · have hcan : CanNest (Element.word (calls.take (k + 1))) ↔
        ∃ opened, x.node.opened? stack = some opened := by
      rw [canNest_iff, hword, nest_append, hstack, Option.bind_some, Node.opened?_eq hknown]
    constructor
    · rintro ⟨y, hy, hbreaks⟩
      obtain rfl : x = y := Option.some.inj (hx.symm.trans hy)
      rcases hbreaks with hnot | ⟨-, hnot⟩
      · exact absurd hknown hnot
      · exact Option.eq_none_iff_forall_ne_some.2 fun opened h => hnot (hcan.2 ⟨opened, h⟩)
    · intro hnone
      have hnot : ¬ ∃ opened, x.node.opened? stack = some opened := by
        rintro ⟨opened, h⟩
        exact absurd (hnone.symm.trans h) nofun
      refine ⟨x, hx, .inr ⟨?_, fun h => hnot (hcan.1 h)⟩⟩
      by_contra hclosing
      exact hnot (Node.exists_opened? hknown fun d hd => hclosing ⟨d, hd⟩)
  · exact iff_of_true ⟨x, hx, .inl hknown⟩ (Node.opened?_of_not_isKnown hknown)

/-- **The groups that are open** after calls none of which breaks the row: all nodes are known, and
every closing delimiter matches. -/
theorem exists_nest_of_not_breaks (h : ∀ j < k, ¬ Element.Breaks calls j) :
    (∀ x ∈ calls.take k, x.node.IsKnown) ∧
      ∃ stack, nest [] (Element.word (calls.take k)) = some stack := by
  induction k with
  | zero => exact ⟨List.forall_mem_nil _, [], rfl⟩
  | succ k ih =>
    obtain ⟨hknown, stack, hstack⟩ := ih fun j hj => h j (hj.trans (Nat.lt_succ_self k))
    rcases hx : calls[k]? with _ | x
    · -- there is no further call
      have hlen := List.getElem?_eq_none_iff.1 hx
      rw [List.take_of_length_le (by omega)] at hknown hstack ⊢
      exact ⟨hknown, stack, hstack⟩
    have hbreaks := h k (Nat.lt_succ_self k)
    rw [breaks_iff hx hstack] at hbreaks
    have hx' : x.node.IsKnown := by
      by_contra hnot
      exact hbreaks (Node.opened?_of_not_isKnown hnot)
    obtain ⟨opened, hopened⟩ := Option.ne_none_iff_exists'.1 hbreaks
    rw [List.take_add_one, hx]
    refine ⟨List.forall_mem_append.2 ⟨hknown, List.forall_mem_singleton.2 hx'⟩, opened, ?_⟩
    rw [Element.word_append, nest_append, hstack, Option.bind_some, Option.toList_some,
      Element.word_singleton, ← Node.opened?_eq hx', hopened]

/-- **A call raises if it breaks the row**, as long as none before it does. -/
theorem raises_iff_of_not_breaks (hopened : e.opened = [])
    (h : ∀ j < k, ¬ Element.Breaks calls j) : e.Raises calls k ↔ Element.Breaks calls k := by
  obtain ⟨hknown, stack, hstack⟩ := exists_nest_of_not_breaks h
  have hfed : (e.fed (calls.take k)).opened = stack := by
    rw [fed_eq hknown (hopened ▸ hstack)]
  constructor
  · rintro ⟨x, p, hx, hp⟩
    rw [breaks_iff hx hstack, ← hfed]
    by_contra hnot
    obtain ⟨opened, hopened⟩ := Option.ne_none_iff_exists'.1 hnot
    rw [encode_of_opened? hopened] at hp
    exact absurd hp nofun
  · intro hbreaks
    obtain ⟨x, hx, -⟩ := id hbreaks
    rw [breaks_iff hx hstack, ← hfed] at hbreaks
    obtain ⟨p, hp⟩ := encode_of_opened?_eq_none hbreaks
    exact ⟨x, p, hx, hp⟩

/-- Calls none of which raises break no row. -/
theorem not_breaks_of_not_raises (hopened : e.opened = []) (h : ∀ j < k, ¬ e.Raises calls j) :
    ∀ j < k, ¬ Element.Breaks calls j := by
  intro j
  induction j using Nat.strongRecOn with
  | ind j ih =>
    intro hj hbreaks
    have hbefore : ∀ i < j, ¬ Element.Breaks calls i := fun i hi => ih i hi (hi.trans hj)
    exact h j hj ((raises_iff_of_not_breaks hopened hbefore).2 hbreaks)

/-- **The first call that raises** is the first one that breaks the row. -/
theorem isLeast_raises_iff (hopened : e.opened = []) :
    IsLeast {k | e.Raises calls k} k ↔ IsLeast {k | Element.Breaks calls k} k := by
  constructor
  · rintro ⟨hraises, hleast⟩
    have hbefore := not_breaks_of_not_raises hopened fun j hj hraises' =>
      absurd (hleast hraises') (Nat.not_le_of_lt hj)
    refine ⟨(raises_iff_of_not_breaks hopened hbefore).1 hraises, fun j hbreaks => ?_⟩
    exact Nat.le_of_not_lt fun hj => hbefore j hj hbreaks
  · rintro ⟨hbreaks, hleast⟩
    have hbefore : ∀ j < k, ¬ Element.Breaks calls j := fun j hj hbreaks' =>
      absurd (hleast hbreaks') (Nat.not_le_of_lt hj)
    refine ⟨(raises_iff_of_not_breaks hopened hbefore).2 hbreaks, fun j hraises => ?_⟩
    refine Nat.le_of_not_lt fun hj => hbefore j hj ?_
    exact (raises_iff_of_not_breaks hopened fun i hi => hbefore i (hi.trans hj)).1 hraises

/-! ### The end -/

/-- The white space at the end is written in any case; what is wrong then is an open group. -/
theorem finish_eq (e : Encoder) :
    e.finish.1.instructions =
        e.instructions ++ e.after.elim [] (spaceMarks (e.last.or e.before)) ∧
      ((∃ p, e.finish.2 = .error p) ↔ e.opened ≠ []) := by
  have hspaced (after : Option Position) : after.elim e e.space =
      { e with
        instructions := e.instructions ++ after.elim [] (spaceMarks (e.last.or e.before)) } := by
    cases after with
    | none => exact congrArg (fun is => { e with instructions := is }) (List.append_nil _).symm
    | some p =>
      rw [Option.elim_some, space_eq, map_spaceItems]
      rfl
  rw [finish, hspaced]
  simp only
  cases e.opened with
  | nil =>
    refine ⟨rfl, iff_of_false ?_ fun h => h rfl⟩
    rintro ⟨_, h⟩
    cases h
  | cons d opened => exact ⟨rfl, iff_of_true ⟨_, rfl⟩ (List.cons_ne_nil d opened)⟩

/-- An encoder that has not been called. -/
def fresh (receiver : String) (before after : Option Position) (filename : String) : Encoder where
  receiver := receiver
  before := before
  after := after
  filename := filename

/-- **White space is decided by two places**: a blank further right on the same line, a line break
one line below, an empty line more than one line below, and nothing otherwise. -/
theorem spacing?_eq_some_iff {last next : Position} {w : Whitespace} :
    spacing? last next = some w ↔
      w = .space ∧ next.line = last.line ∧ last.column < next.column ∨
        w = .push ∧ next.line = last.line + 1 ∨ w = .line ∧ last.line + 1 < next.line := by
  rw [spacing?]
  by_cases hsame : next.line = last.line
  · rw [if_pos hsame]
    by_cases hright : last.column < next.column
    · rw [if_pos hright]
      grind
    · rw [if_neg hright]
      grind
  · rw [if_neg hsame]
    grind

/-- **What any calls of a new encoder come to.** All of them are recorded in order. The first of them
to raise is the first closing delimiter that keeps the delimiters so far from being the beginning of a
well nested row, or the first node of no known kind. If none raises, there are, in order, for each
element the white space from the end of the one before it and what its node comes to by itself, and
at last the white space up to the end, if there is one; and the routine is ended exactly if the
delimiters are well nested. -/
theorem fed_fresh (receiver : String) (before after : Option Position) (filename : String)
    (calls : List Element) :
    ((fresh receiver before after filename).fed calls).elements = calls ∧
      (∀ k, IsLeast {k | (fresh receiver before after filename).Raises calls k} k ↔
        IsLeast {k | Element.Breaks calls k} k) ∧
      ((∀ k, ¬ (fresh receiver before after filename).Raises calls k) →
        ((fresh receiver before after filename).fed calls).finish.1.instructions =
            Element.written before calls ++
              after.elim [] (spaceMarks (Element.stopOf before calls)) ∧
          ((∃ p, ((fresh receiver before after filename).fed calls).finish.2 = .error p) ↔
            ¬ WellNested (Element.word calls)) ∧
          (WellNested (Element.word calls) →
            ((fresh receiver before after filename).fed calls).finish.2 =
              .ok ⟨receiver, Element.written before calls ++
                after.elim [] (spaceMarks (Element.stopOf before calls)), filename⟩)) ∧
      (∀ last next w, spacing? last next = some w ↔
        w = .space ∧ next.line = last.line ∧ last.column < next.column ∨
          w = .push ∧ next.line = last.line + 1 ∨ w = .line ∧ last.line + 1 < next.line) ∧
      ∀ (e e' : Encoder) (span : Span) (node : Node), e.lower span node = (e', none) →
        e'.instructions = e.instructions ++ node.instructions span := by
  refine ⟨?_, fun k => isLeast_raises_iff rfl, fun hraises => ?_,
    fun _ _ _ => spacing?_eq_some_iff, fun e e' span node hlower => ?_⟩
  · rw [elements_fed]
    rfl
  -- as none raises, the delimiters are the beginning of a well nested row, which leaves a stack
  · have hbreaks : ∀ j < calls.length, ¬ Element.Breaks calls j :=
      not_breaks_of_not_raises rfl fun j _ => hraises j
    obtain ⟨hknown, stack, hstack⟩ := exists_nest_of_not_breaks hbreaks
    rw [List.take_length] at hknown hstack
    have hfed := fed_eq (e := fresh receiver before after filename) hknown hstack
    have hnested : WellNested (Element.word calls) ↔ stack = [] := by
      rw [← nest_eq_some_nil_iff, hstack, Option.some_inj]
    obtain ⟨hinstructions, herror⟩ :=
      finish_eq ((fresh receiver before after filename).fed calls)
    refine ⟨?_, ?_, fun hwell => ?_⟩
    · have hplace := (fresh receiver before after filename).place_record calls
      rw [hinstructions, hfed]
      change Element.written before calls ++ after.elim [] (spaceMarks
        (((fresh receiver before after filename).record calls).last.or before)) = _
      exact congrArg (fun place => Element.written before calls ++ after.elim [] (spaceMarks place))
        hplace
    · rw [herror, hnested, hfed]
    · obtain rfl := hnested.1 hwell
      rw [hfed]
      exact finish_record (e := fresh receiver before after filename) rfl
  · obtain ⟨opened, -, rfl⟩ := (lower_eq_none_iff e span node).1 hlower
    rfl

/-- Square brackets with a blank between them. -/
theorem fed_fresh_brackets :
    ∃ calls, (∀ k, ¬ (fresh "t" none none "<template>").Raises calls k) ∧
      WellNested (Element.word calls) ∧
      ((fresh "t" none none "<template>").fed calls).finish.2 =
        .ok ⟨"t", [.append "[", .layout .space, .append "]"], "<template>"⟩ := by
  let calls : List Element :=
    [⟨default, ⟨⟨1, 1⟩, ⟨1, 2⟩⟩, .opening .bracket⟩, ⟨default, ⟨⟨1, 4⟩, ⟨1, 5⟩⟩, .closing .bracket⟩]
  have hraises : ∀ k, ¬ (fresh "t" none none "<template>").Raises calls k := by
    rintro k ⟨x, p, hx, hp⟩
    match k with
    | 0 =>
      obtain rfl := Option.some.inj hx
      cases hp
    | 1 =>
      obtain rfl := Option.some.inj hx
      cases hp
    | k + 2 => cases hx
  have hwell : WellNested (Element.word calls) := .group .bracket .nil .nil
  obtain ⟨-, -, hends, -⟩ := fed_fresh "t" none none "<template>" calls
  exact ⟨calls, hraises, hwell, (hends hraises).2.2 hwell⟩

end Encoder

end TokenTemplate
