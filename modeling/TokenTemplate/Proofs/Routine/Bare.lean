import TokenTemplate.Proofs.Routine.Encoder

/-!
# Routines apart from places

A routine remembers where its payloads and names stand, for messages only. What is left without this
is `TokenTemplate.Routine.bare`, and two templates with the same bare routine do the same. The
places of its payloads, at all levels, are `TokenTemplate.Routine.payloads`.

An encoder adds to a routine what a node by itself comes to, `TokenTemplate.Node.instructions`,
after the white space before it; and it goes on with the groups that are open then, unless a closing
delimiter does not fit (`TokenTemplate.Encoder.write_eq_ok_iff`).
-/

namespace TokenTemplate

/-! ### Without places -/

/-- An expression without its place. -/
def Expression.bare (e : Expression) : Expression :=
  { e with span := default }

/-- A case without its place. -/
def Case.bare (c : Case) : Case :=
  { c with span := default }

/-- **What an expression is compiled from**: a text that is not blank and says something. -/
theorem Expression.ofSource_eq_ok_iff {settings : Settings} {source : String} {span : Span}
    {e : Expression} :
    ofSource settings source span = .ok e ↔
      Unicode.trim source ≠ "" ∧ tree? source = some e.tree ∧ e.source = source ∧ e.span = span := by
  unfold ofSource
  split
  · next hblank => exact iff_of_false nofun fun h => h.1 hblank
  · next hblank =>
    split
    · next tree htree =>
      rw [Except.ok.injEq, htree, Option.some.injEq]
      constructor
      · rintro rfl
        exact ⟨hblank, rfl, rfl, rfl⟩
      · rintro ⟨-, rfl, rfl, rfl⟩
        rfl
    · next hnone =>
      refine iff_of_false nofun fun h => ?_
      rw [hnone] at h
      exact absurd h.2.1 nofun

/-- **What an expression says is in its text**: at another place it is the same apart from the
place. -/
theorem Expression.ofSource_eq_ok {settings : Settings} {source : String} {span : Span}
    {e : Expression} (h : ofSource settings source span = .ok e) :
    e.span = span ∧ ∀ span', ∃ e', ofSource settings source span' = .ok e' ∧ e'.bare = e.bare := by
  obtain ⟨hblank, htree, hsource, hspan⟩ := ofSource_eq_ok_iff.1 h
  refine ⟨hspan, fun span' => ⟨⟨source, span', e.tree⟩, ?_, ?_⟩⟩
  · exact ofSource_eq_ok_iff.2 ⟨hblank, htree, rfl, rfl⟩
  · rw [bare, bare, hsource]

/-- **What a case is compiled from**: texts that are not blank and say something. -/
theorem Case.ofSource_eq_ok_iff {settings : Settings} {source : String} {span : Span}
    {guard : Option String} {c : Case} :
    ofSource settings source span guard = .ok c ↔
      Unicode.trim source ≠ "" ∧ (∀ g, guard = some g → Unicode.trim g ≠ "") ∧
        program? source guard = some c.program ∧ c.source = source ∧ c.span = span ∧
        c.guard = guard := by
  unfold ofSource
  simp only
  split
  · next hblank => exact iff_of_false nofun fun h => h.1 hblank
  · next hblank =>
    split
    · next hguard =>
      refine iff_of_false nofun fun h => ?_
      obtain ⟨g, rfl, hg⟩ := (Option.any_eq_true _ _).1 hguard
      exact h.2.1 g rfl (beq_iff_eq.1 hg)
    · next hguard =>
      have hguard' : ∀ g, guard = some g → Unicode.trim g ≠ "" := by
        rintro g rfl hg
        exact hguard (beq_iff_eq.2 hg)
      split
      · next program hprogram =>
        rw [Except.ok.injEq, hprogram, Option.some.injEq]
        constructor
        · rintro rfl
          exact ⟨hblank, hguard', rfl, rfl, rfl, rfl⟩
        · rintro ⟨-, -, rfl, rfl, rfl, rfl⟩
          rfl
      · next hnone =>
        refine iff_of_false nofun fun h => ?_
        rw [hnone] at h
        exact absurd h.2.2.1 nofun

/-- **What a case says is in its text** and that of its guard. -/
theorem Case.ofSource_eq_ok {settings : Settings} {source : String} {span : Span}
    {guard : Option String} {c : Case} (h : ofSource settings source span guard = .ok c) :
    c.span = span ∧
      ∀ span', ∃ c', ofSource settings source span' guard = .ok c' ∧ c'.bare = c.bare := by
  obtain ⟨hblank, hguard, hprogram, hsource, hspan, rfl⟩ := ofSource_eq_ok_iff.1 h
  refine ⟨hspan, fun span' => ⟨⟨source, span', c.guard, c.program⟩, ?_, ?_⟩⟩
  · exact ofSource_eq_ok_iff.2 ⟨hblank, hguard, hprogram, rfl, rfl, rfl⟩
  · rw [bare, bare, hsource]

/-- There is no case without a text, nor one with an empty guard. -/
theorem Case.ofSource_ne_empty {settings : Settings} {source : String} {span : Span}
    {guard : Option String} {c : Case} (h : ofSource settings source span guard = .ok c) :
    source ≠ "" ∧ guard ≠ some "" := by
  obtain ⟨hblank, hguard, -⟩ := ofSource_eq_ok_iff.1 h
  constructor
  · rintro rfl
    exact hblank rfl
  · exact fun heq => hguard "" heq rfl

/-- A segment without the places of its sites. -/
def Segment.bare : Segment → Segment
  | .literal text => .literal text
  | .site e => .site e.bare

mutual

/-- **An instruction without the places in it.** -/
def Instruction.bare : Instruction → Instruction
  | .append text => .append text
  | .layout w => .layout w
  | .spliceName name _ => .spliceName name default
  | .splice e => .splice e.bare
  | .interpolate segments => .interpolate (segments.map Segment.bare)
  | .branch condition yes no => .branch condition.bare yes.bare (Routine.bare? no)
  | .iterate pattern source body join =>
    .iterate pattern.bare source.bare body.bare (Routine.bare? join)
  | .dispatch subject arms => .dispatch subject.bare (Routine.bareArms arms)
  | .rebind name body => .rebind name body.bare
  | .unsupported text => .unsupported text

/-- Instructions without the places in them. -/
def Instruction.allBare : List Instruction → List Instruction
  | [] => []
  | i :: is => i.bare :: Instruction.allBare is

/-- **A routine without the places in it**, at all levels. -/
def Routine.bare : Routine → Routine
  | ⟨receiver, instructions, filename⟩ =>
    ⟨receiver, Instruction.allBare instructions, filename⟩

/-- A routine, if there is one, without the places in it. -/
def Routine.bare? : Option Routine → Option Routine
  | none => none
  | some routine => some routine.bare

/-- Arms without the places in them. -/
def Routine.bareArms : List (Case × Routine) → List (Case × Routine)
  | [] => []
  | (pattern, body) :: arms => (pattern.bare, body.bare) :: Routine.bareArms arms

end

/-! ### Places of payloads -/

/-- The places of the sites among some segments. -/
def Segment.payloads : Segment → List Span
  | .literal _ => []
  | .site e => [e.span]

mutual

/-- The places of the payloads of an instruction. -/
def Instruction.payloads : Instruction → List Span
  | .append _ | .layout _ | .spliceName _ _ | .unsupported _ => []
  | .splice e => [e.span]
  | .interpolate segments => segments.flatMap Segment.payloads
  | .branch condition yes no => condition.span :: (yes.payloads ++ Routine.payloads? no)
  | .iterate pattern source body join =>
    pattern.span :: source.span :: (body.payloads ++ Routine.payloads? join)
  | .dispatch subject arms => subject.span :: Routine.armPayloads arms
  | .rebind _ body => body.payloads

/-- The places of the payloads of some instructions. -/
def Instruction.allPayloads : List Instruction → List Span
  | [] => []
  | i :: is => i.payloads ++ Instruction.allPayloads is

/-- **The places of the payloads of a routine**, at all levels. -/
def Routine.payloads : Routine → List Span
  | ⟨_, instructions, _⟩ => Instruction.allPayloads instructions

/-- The places of the payloads of a routine, if there is one. -/
def Routine.payloads? : Option Routine → List Span
  | none => []
  | some routine => routine.payloads

/-- The places of the payloads of some arms. -/
def Routine.armPayloads : List (Case × Routine) → List Span
  | [] => []
  | (pattern, body) :: arms => pattern.span :: (body.payloads ++ Routine.armPayloads arms)

end

namespace Instruction

theorem allBare_append (is js : List Instruction) :
    allBare (is ++ js) = allBare is ++ allBare js := by
  induction is with
  | nil => rfl
  | cons i is ih => rw [List.cons_append, allBare, ih, allBare, List.cons_append]

theorem allPayloads_append (is js : List Instruction) :
    allPayloads (is ++ js) = allPayloads is ++ allPayloads js := by
  induction is with
  | nil => rfl
  | cons i is ih => rw [List.cons_append, allPayloads, ih, allPayloads, List.append_assoc]

theorem allBare_singleton (i : Instruction) : allBare [i] = [i.bare] := rfl

theorem allPayloads_singleton (i : Instruction) : allPayloads [i] = i.payloads :=
  List.append_nil _

end Instruction

/-! ### What a node adds -/

namespace Node

/-- **What a node by itself comes to.** -/
def instructions (span : Span) : Node → List Instruction
  | .token text | .quoted text | .literal text => [.append text]
  | .opening d => d.openingItems.map Item.instruction
  | .closing d => d.closingItems.map Item.instruction
  | .name n => [.spliceName n span]
  | .expression e => [.splice e]
  | .interpolation true segments => [.interpolate segments]
  | .interpolation false segments =>
    [.append (String.join (segments.map fun
      | .literal text => text
      | .site _ => ""))]
  | .directive w => [.layout w]
  | .condition test yes no => [.branch test yes no]
  | .loop pattern source body join => [.iterate pattern source body join]
  | .dispatch subject arms => [.dispatch subject (arms.map fun a => (a.pattern, a.body))]
  | .scope n body => [.rebind n body]
  | .unsupported _ => []

/-- The groups that are open after a node, if it may stand there. -/
def opened? (opened : List Delimiter) : Node → Option (List Delimiter)
  | .opening d => some (d :: opened)
  | .closing d =>
    match opened with
    | [] => none
    | o :: opened => if o = d then some opened else none
  | .unsupported _ => none
  | _ => some opened

theorem opened?_of_isNeutral {node : Node} (h : node.IsNeutral) (opened : List Delimiter) :
    node.opened? opened = some opened := by
  cases node with
  | opening d => exact h.elim
  | closing d => exact h.elim
  | unsupported text => exact h.elim
  | _ => rfl

end Node

namespace Encoder

variable {e e' : Encoder} {span : Span} {cursor : Cursor} {node : Node} {opened : List Delimiter}

/-- An encoder after another element. -/
def add (e : Encoder) (span : Span) (cursor : Cursor) (node : Node) (opened : List Delimiter) :
    Encoder :=
  { e with
    instructions :=
      e.instructions ++ (e.spaceItems cursor.start).map Item.instruction ++ node.instructions span
    last := some cursor.stop
    elements := e.elements ++ [⟨span, cursor, node⟩]
    opened := opened }

theorem space_eq (e : Encoder) (next : Position) :
    e.space next =
      { e with instructions := e.instructions ++ (e.spaceItems next).map Item.instruction } := by
  rw [space, spaceItems]
  split
  · next w hw =>
    rw [hw]
    rfl
  · next hw =>
    rw [hw]
    exact congrArg (fun is => { e with instructions := is }) (List.append_nil _).symm

/-- A node is written without the white space before it if it may stand where it does. -/
theorem lower_eq_none_iff (e : Encoder) (span : Span) (node : Node) :
    e.lower span node = (e', none) ↔
      ∃ opened, node.opened? e.opened = some opened ∧
        e' = { e with instructions := e.instructions ++ node.instructions span, opened } := by
  cases node with
  | opening d => cases d <;> simp [lower, Node.opened?, Node.instructions, emit,
      Delimiter.openingItems, Item.instruction, eq_comm]
  | closing d =>
    rcases hopened : e.opened with _ | ⟨o, opened⟩
    · simp [lower, hopened, Node.opened?]
    · by_cases hd : o = d
      · subst hd
        cases o <;> simp [lower, hopened, Node.opened?, Node.instructions, emit,
          Delimiter.closingItems, Item.instruction, eq_comm]
      · simp [lower, hopened, Node.opened?, hd]
  | unsupported text => simp [lower, Node.opened?]
  | interpolation evaluated segments =>
    cases evaluated with
    | false =>
      constructor
      · intro h
        exact ⟨e.opened, rfl, (Prod.mk.inj h).1.symm⟩
      · rintro ⟨opened, hopened, rfl⟩
        obtain rfl := Option.some.inj hopened
        rfl
    | true => simp [lower, Node.opened?, Node.instructions, emit, eq_comm]
  | _ => simp [lower, Node.opened?, Node.instructions, emit, eq_comm]

theorem lower_of_opened? {e : Encoder} (h : node.opened? e.opened = some opened) :
    e.lower span node =
      ({ e with instructions := e.instructions ++ node.instructions span, opened }, none) :=
  (lower_eq_none_iff e span node).2 ⟨opened, h, rfl⟩

/-- **An element is written** if it may stand where it does, after the white space before it. -/
theorem write_eq_ok_iff :
    e.write span cursor node = .ok e' ↔
      ∃ opened, node.opened? e.opened = some opened ∧ e' = e.add span cursor node opened := by
  have hencode : e.encode span cursor node =
      ({ e.space cursor.start with
        last := some cursor.stop
        elements := (e.space cursor.start).elements ++ [Element.mk span cursor node] }).lower
          span node := rfl
  rw [write, hencode, space_eq]
  generalize hlower : lower _ span node = result
  obtain ⟨e₁, problem⟩ := result
  constructor
  · intro h
    cases problem with
    | none =>
      obtain rfl := Except.ok.inj h
      obtain ⟨opened, hopened, heq⟩ := (lower_eq_none_iff _ span node).1 hlower
      exact ⟨opened, hopened, heq⟩
    | some p => cases h
  · rintro ⟨opened, hopened, rfl⟩
    have heq := hlower.symm.trans (lower_of_opened? hopened)
    obtain ⟨rfl, rfl⟩ := Prod.mk.inj heq
    rfl

/-- The marks for the white space at the end. -/
def lastItems (e : Encoder) : List Item :=
  e.after.elim [] e.spaceItems

/-- **A routine is ended** if no group is open, after the white space at its end. -/
theorem finish_eq_ok_iff {routine : Routine} :
    e.finish.2 = .ok routine ↔ e.opened = [] ∧
      routine = ⟨e.receiver, e.instructions ++ e.lastItems.map Item.instruction, e.filename⟩ := by
  have hspaced (after : Option Position) : after.elim e e.space =
      { e with
        instructions := e.instructions ++ (after.elim [] e.spaceItems).map Item.instruction } := by
    cases after with
    | none => exact congrArg (fun is => { e with instructions := is }) (List.append_nil _).symm
    | some p => exact e.space_eq p
  rw [finish, hspaced, ← lastItems]
  simp only
  cases e.opened with
  | nil => exact ⟨fun h => ⟨rfl, (Except.ok.inj h).symm⟩, fun h => congrArg Except.ok h.2.symm⟩
  | cons d opened =>
    refine iff_of_false (fun h => ?_) fun h => absurd h.1 (List.cons_ne_nil d opened)
    cases h

end Encoder

end TokenTemplate
