import Mathlib
import TokenTemplate.Proofs.Token.Filling

/-!
# Nesting

When a row of tokens is well nested, said as a grammar: `TokenTemplate.WellNested` has one
constructor for a token without parts and one for a group. The innermost group that is open after a
row, `TokenTemplate.Innermost`, is the one whose tokens so far are well nested.

A fold over the row keeps the open groups on a stack, `TokenTemplate.nest`, and the two agree: the
stack is empty exactly after a well nested row, and otherwise its top is the innermost open group
(`TokenTemplate.nest_eq_some_nil_iff`, `TokenTemplate.innermost_iff`). With this the complaints of
`TokenTemplate.assemble` are read off the row alone (`TokenTemplate.nest_of_assemble`,
`TokenTemplate.mismatched_of_assemble`).

How deep a group lies is counted in the row as well, `TokenTemplate.levelAfter`, and
`TokenTemplate.Tree.anyTooDeep?` finds the first group of the row that is too deep
(`TokenTemplate.Tree.deepest_of_anyTooDeep?`).
-/

namespace TokenTemplate

/-! ### Well nested rows -/

/-- **A well nested row**: every group that is opened is closed by its own delimiter, and what
stands in between is well nested. -/
inductive WellNested : List LexemeKind → Prop
  /-- Nothing. -/
  | nil : WellNested []
  /-- A token without parts. -/
  | leaf (k : LeafKind) {ks : List LexemeKind} (h : WellNested ks) : WellNested (.leaf k :: ks)
  /-- A group. -/
  | group (d : Delimiter) {inner ks : List LexemeKind} (hinner : WellNested inner)
      (h : WellNested ks) : WellNested (.opening d :: (inner ++ .closing d :: ks))

/-- After the row, a group with these delimiters is the innermost open one: all groups inside it
have been closed. -/
def Innermost (ks : List LexemeKind) (d : Delimiter) : Prop :=
  ∃ outer inner, ks = outer ++ .opening d :: inner ∧ WellNested inner

theorem WellNested.append {ks ls : List LexemeKind} (h : WellNested ks) (h' : WellNested ls) :
    WellNested (ks ++ ls) := by
  induction h with
  | nil => exact h'
  | leaf k _ ih => exact .leaf k ih
  | group d hinner _ _ ih =>
    rw [List.cons_append, List.append_assoc, List.cons_append]
    exact .group d hinner ih

/-! ### The stack of open groups -/

/-- The groups that are open after a row, the innermost first, if every closing delimiter matches.
-/
def nest : List Delimiter → List LexemeKind → Option (List Delimiter)
  | stack, [] => some stack
  | stack, .leaf _ :: ks => nest stack ks
  | stack, .opening d :: ks => nest (d :: stack) ks
  | [], .closing _ :: _ => none
  | o :: stack, .closing d :: ks => if o = d then nest stack ks else none

section Stack

variable {ks ls : List LexemeKind} {stack : List Delimiter} {d : Delimiter}

theorem nest_append (stack : List Delimiter) (ks ls : List LexemeKind) :
    nest stack (ks ++ ls) = (nest stack ks).bind fun stack' => nest stack' ls := by
  induction ks generalizing stack with
  | nil => rfl
  | cons k ks ih =>
    rw [List.cons_append]
    cases k with
    | leaf k => exact ih stack
    | opening d => exact ih (d :: stack)
    | closing d =>
      cases stack with
      | nil => rfl
      | cons o stack =>
        rw [nest, nest]
        split
        · exact ih stack
        · rfl

/-- **A well nested row leaves the stack alone.** -/
theorem WellNested.nest_eq (h : WellNested ks) (stack : List Delimiter) :
    nest stack ks = some stack := by
  induction h generalizing stack with
  | nil => rfl
  | leaf k _ ih => exact ih stack
  | group d _ _ ihinner ih =>
    rw [nest, nest_append, ihinner, Option.bind_some, nest, if_pos rfl, ih]

/-- **What a stack of open groups says about a row**: below each of them the row is open with the
rest of the stack, and what was read since is well nested. -/
def Opened : List Delimiter → List LexemeKind → Prop
  | [], ks => WellNested ks
  | d :: stack, ks => ∃ outer inner, ks = outer ++ .opening d :: inner ∧ Opened stack outer ∧
      WellNested inner

theorem Opened.append (h : Opened stack ks) (h' : WellNested ls) : Opened stack (ks ++ ls) := by
  cases stack with
  | nil => exact WellNested.append h h'
  | cons d stack =>
    obtain ⟨outer, inner, rfl, houter, hinner⟩ := h
    exact ⟨outer, inner ++ ls, by rw [List.append_assoc, List.cons_append], houter,
      hinner.append h'⟩

/-- **The stack is right.** -/
theorem nest_eq_some_iff : nest [] ks = some stack ↔ Opened stack ks := by
  constructor
  · -- by induction on the row from its end, since the last token decides about the top of the stack
    intro h
    induction ks using List.reverseRecOn generalizing stack with
    | nil =>
      obtain rfl := Option.some.inj h
      exact .nil
    | append_singleton ks k ih =>
      rw [nest_append] at h
      obtain ⟨stack', h', hlast⟩ := Option.bind_eq_some_iff.1 h
      have hopened := ih h'
      cases k with
      | leaf k =>
        obtain rfl := Option.some.inj hlast
        exact hopened.append (.leaf k .nil)
      | opening d =>
        obtain rfl := Option.some.inj hlast
        exact ⟨ks, [], rfl, hopened, .nil⟩
      | closing d =>
        cases stack' with
        | nil => exact absurd hlast (Option.some_ne_none _).symm
        | cons o stack' =>
          rw [nest] at hlast
          split at hlast
          · next hod =>
            obtain rfl := Option.some.inj hlast
            obtain ⟨outer, inner, rfl, houter, hinner⟩ := hopened
            rw [List.append_assoc, List.cons_append, hod]
            exact houter.append (.group d hinner .nil)
          · exact absurd hlast (Option.some_ne_none _).symm
  · intro h
    induction stack generalizing ks with
    | nil => exact WellNested.nest_eq h []
    | cons d stack ih =>
      obtain ⟨outer, inner, rfl, houter, hinner⟩ := h
      rw [nest_append, ih houter, Option.bind_some, nest, hinner.nest_eq]

/-- **The stack is empty exactly after a well nested row.** -/
theorem nest_eq_some_nil_iff : nest [] ks = some [] ↔ WellNested ks :=
  nest_eq_some_iff

/-- **The top of the stack is the innermost open group.** -/
theorem innermost_iff (h : nest [] ks = some stack) : Innermost ks d ↔ stack.head? = some d := by
  constructor
  · rintro ⟨outer, inner, rfl, hinner⟩
    rw [nest_append] at h
    obtain ⟨rest, -, hrest⟩ := Option.bind_eq_some_iff.1 h
    rw [nest, hinner.nest_eq] at hrest
    rw [← Option.some.inj hrest, List.head?_cons]
  · intro hhead
    cases stack with
    | nil => exact absurd hhead (Option.some_ne_none d).symm
    | cons o stack =>
      obtain rfl := Option.some.inj hhead
      obtain ⟨outer, inner, heq, -, hinner⟩ := nest_eq_some_iff.1 h
      exact ⟨outer, inner, heq, hinner⟩

/-- Where a whole row can be read, so can every part of it from the beginning. -/
theorem exists_nest_of_append (h : nest [] (ks ++ ls) = some stack) :
    ∃ stack', nest [] ks = some stack' ∧ nest stack' ls = some stack := by
  rw [nest_append] at h
  exact Option.bind_eq_some_iff.1 h

/-- A closing delimiter that can be read closes the innermost open group. -/
theorem innermost_of_nest (h : nest [] (ks ++ .closing d :: ls) = some stack) : Innermost ks d := by
  obtain ⟨stack', h', hrest⟩ := exists_nest_of_append h
  refine (innermost_iff h').2 ?_
  cases stack' with
  | nil => exact absurd hrest (Option.some_ne_none _).symm
  | cons o stack' =>
    rw [nest] at hrest
    split at hrest
    · next hod => rw [hod, List.head?_cons]
    · exact absurd hrest (Option.some_ne_none _).symm

end Stack

/-! ### Folding lexemes -/

section Fold

variable {groups groups' : List OpenGroup} {level level' : List Tree} {row : List Lexeme}

/-- A row that is folded to the end is read to the end. -/
theorem nest_of_assemble (h : assemble groups level row = .ok (groups', level')) :
    nest (groups.map OpenGroup.delimiter) (row.map Lexeme.kind) =
      some (groups'.map OpenGroup.delimiter) := by
  induction row generalizing groups level with
  | nil =>
    obtain ⟨rfl, rfl⟩ := Prod.mk.inj (Except.ok.inj h)
    rfl
  | cons l row ih =>
    rw [List.map_cons]
    rw [assemble] at h
    cases hk : l.kind with
    | leaf k =>
      rw [hk] at h
      exact ih h
    | opening d =>
      rw [hk] at h
      exact ih h
    | closing d =>
      rw [hk] at h
      cases groups with
      | nil => exact absurd h (by simp)
      | cons g groups =>
        rw [List.map_cons, nest]
        simp only at h
        split at h
        · next hd =>
          rw [if_pos hd]
          exact ih h
        · exact absurd h (by simp)

/-- A row that can be read with some open groups up to a closing delimiter, which does not match the
innermost group that is open then. -/
def Mismatched (stack : List Delimiter) (row : List Lexeme) (d : Delimiter) (span : Span) : Prop :=
  ∃ before l after stack', row = before ++ l :: after ∧ l.kind = .closing d ∧ l.span = span ∧
    nest stack (before.map Lexeme.kind) = some stack' ∧ stack'.head? ≠ some d

section Mismatched

variable {stack stack' : List Delimiter} {l : Lexeme} {d : Delimiter} {span : Span}

theorem Mismatched.cons (h : Mismatched stack' row d span)
    (hstep : ∀ ks, nest stack (l.kind :: ks) = nest stack' ks) :
    Mismatched stack (l :: row) d span := by
  obtain ⟨before, l', after, rest, hrow, hkind, hspan, hnest, hhead⟩ := h
  refine ⟨l :: before, l', after, rest, ?_, hkind, hspan, ?_, hhead⟩
  · rw [hrow, List.cons_append]
  · rw [List.map_cons, hstep]
    exact hnest

theorem mismatched_head (hk : l.kind = .closing d) (hhead : stack.head? ≠ some d) :
    Mismatched stack (l :: row) d l.span :=
  ⟨[], l, row, stack, rfl, hk, rfl, rfl, hhead⟩

end Mismatched

/-- **The first complaint of the fold** is a closing delimiter that does not match the innermost
open group. -/
theorem mismatched_of_assemble {d : Delimiter} {span : Span}
    (h : assemble groups level row = .error (d, span)) :
    Mismatched (groups.map OpenGroup.delimiter) row d span := by
  induction row generalizing groups level with
  | nil => exact absurd h (by simp [assemble])
  | cons l row ih =>
    rw [assemble] at h
    cases hk : l.kind with
    | leaf k =>
      rw [hk] at h
      exact (ih h).cons fun ks => by rw [hk, nest]
    | opening o =>
      rw [hk] at h
      exact (ih h).cons fun ks => by rw [hk, nest]; rfl
    | closing c =>
      rw [hk] at h
      cases groups with
      | nil =>
        obtain ⟨rfl, rfl⟩ := Prod.mk.inj (Except.error.inj h)
        exact mismatched_head hk (Option.some_ne_none c).symm
      | cons g groups =>
        simp only at h
        split at h
        · next hd => exact (ih h).cons fun ks => by rw [hk, List.map_cons, nest, if_pos hd]
        · next hd =>
          obtain ⟨rfl, rfl⟩ := Prod.mk.inj (Except.error.inj h)
          exact mismatched_head hk fun hhead => hd (Option.some.inj hhead)

end Fold

/-! ### How deep groups lie -/

/-- By how much a token changes the number of open groups. -/
def LexemeKind.weight : LexemeKind → Int
  | leaf _ => 0
  | opening _ => 1
  | closing _ => -1

/-- The kinds of a row of marks. -/
def kinds (marks : List Mark) : List LexemeKind :=
  marks.map Mark.kind

/-- **How many groups are open after a row**: the opening delimiters less the closing ones. -/
def levelAfter (marks : List Mark) : Int :=
  ((kinds marks).map LexemeKind.weight).sum

/-- **No group of a row lies too deep**: with each opening delimiter at most so many groups are
open. -/
def Shallow (room : Int) (marks : List Mark) : Prop :=
  ∀ before o after d, marks = before ++ o :: after → o.kind = .opening d →
    levelAfter before + 1 ≤ room

/-- The first group of a row that lies too deep, from its opening delimiter to its closing one. -/
def Deepest (room : Int) (marks : List Mark) (start stop : Nat) : Prop :=
  ∃ before o inner c after d, marks = before ++ o :: (inner ++ c :: after) ∧
    o.kind = .opening d ∧ c.kind = .closing d ∧ WellNested (kinds inner) ∧
    Shallow room before ∧ room < levelAfter before + 1 ∧ o.start = start ∧ c.stop = stop

section Depth

variable {marks marks' : List Mark} {room : Int} {m : Mark}

theorem kinds_cons : kinds (m :: marks) = m.kind :: kinds marks := rfl

theorem kinds_append : kinds (marks ++ marks') = kinds marks ++ kinds marks' :=
  List.map_append

theorem levelAfter_nil : levelAfter [] = 0 := rfl

theorem levelAfter_cons : levelAfter (m :: marks) = m.kind.weight + levelAfter marks := by
  rw [levelAfter, levelAfter, kinds_cons, List.map_cons, List.sum_cons]

theorem levelAfter_append :
    levelAfter (marks ++ marks') = levelAfter marks + levelAfter marks' := by
  rw [levelAfter, levelAfter, levelAfter, kinds_append, List.map_append, List.sum_append]

theorem WellNested.sum_weight {ks : List LexemeKind} (h : WellNested ks) :
    (ks.map LexemeKind.weight).sum = 0 := by
  induction h with
  | nil => rfl
  | leaf k _ ih => simp [LexemeKind.weight, ih]
  | group d _ _ ihinner ih => simp [LexemeKind.weight, ihinner, ih]

theorem WellNested.levelAfter_eq (h : WellNested (kinds marks)) : levelAfter marks = 0 :=
  h.sum_weight

theorem shallow_nil (room : Int) : Shallow room [] := by
  intro before o after d h
  exact absurd h (by simp)

theorem shallow_cons : Shallow room (m :: marks) ↔
    (∀ d, m.kind = .opening d → 1 ≤ room) ∧ Shallow (room - m.kind.weight) marks := by
  constructor
  · intro h
    refine ⟨fun d hd => ?_, fun before o after d hmarks hd => ?_⟩
    · have hroom := h [] m marks d rfl hd
      rwa [levelAfter_nil, Int.zero_add] at hroom
    · have hroom := h (m :: before) o after d (by rw [hmarks, List.cons_append]) hd
      rw [levelAfter_cons] at hroom
      omega
  · rintro ⟨hhead, htail⟩ before o after d hmarks hd
    cases before with
    | nil =>
      obtain ⟨rfl, rfl⟩ := List.cons.inj hmarks
      rw [levelAfter_nil, Int.zero_add]
      exact hhead d hd
    | cons n before =>
      obtain ⟨rfl, rfl⟩ := List.cons.inj hmarks
      have hroom := htail before o after d rfl hd
      rw [levelAfter_cons]
      omega

theorem shallow_append : Shallow room (marks ++ marks') ↔
    Shallow room marks ∧ Shallow (room - levelAfter marks) marks' := by
  induction marks generalizing room with
  | nil => simp [shallow_nil, levelAfter_nil]
  | cons m marks ih =>
    have hsub : room - m.kind.weight - levelAfter marks =
        room - (m.kind.weight + levelAfter marks) := by
      omega
    rw [List.cons_append, shallow_cons, shallow_cons, ih, levelAfter_cons, hsub, and_assoc]

end Depth

namespace Tree

mutual

/-- The marks of a token are well nested. -/
theorem wellNested_marks : (t : Tree) → WellNested (kinds (marks t))
  | leaf l => .leaf l.kind .nil
  | group d children s => by
    rw [marks, kinds_cons, kinds_append]
    exact .group d (wellNested_allMarks children) .nil

theorem wellNested_allMarks : (ts : List Tree) → WellNested (kinds (allMarks ts))
  | [] => .nil
  | t :: ts => by
    rw [allMarks, kinds_append]
    exact (wellNested_marks t).append (wellNested_allMarks ts)

end

mutual

/-- **A search that finds nothing**: no group of the token lies too deep. -/
theorem shallow_of_tooDeep? {room : Int} : (t : Tree) → tooDeep? room t = none →
    Shallow room (marks t)
  | leaf l, _ => by
    rw [marks, shallow_cons]
    exact ⟨fun d hd => (by cases hd), shallow_nil _⟩
  | group d children s, h => by
    rw [tooDeep?] at h
    split at h
    · exact absurd h (Option.some_ne_none s)
    · next hroom =>
      have hlevel := (wellNested_allMarks children).levelAfter_eq
      have hchildren := shallow_of_anyTooDeep? children h
      rw [marks, shallow_cons, shallow_append, shallow_cons]
      exact ⟨fun _ _ => by omega, hchildren, fun d hd => (by cases hd), shallow_nil _⟩

theorem shallow_of_anyTooDeep? {room : Int} : (ts : List Tree) → anyTooDeep? room ts = none →
    Shallow room (allMarks ts)
  | [], _ => shallow_nil room
  | t :: ts, h => by
    rw [anyTooDeep?, Option.or_eq_none_iff] at h
    rw [allMarks, shallow_append, (wellNested_marks t).levelAfter_eq, Int.sub_zero]
    exact ⟨shallow_of_tooDeep? t h.1, shallow_of_anyTooDeep? ts h.2⟩

end

mutual

/-- **A search that finds a group** finds the first one that lies too deep. -/
theorem deepest_of_tooDeep? {room : Int} {span : Span} : (t : Tree) → tooDeep? room t = some span →
    Deepest room (marks t) span.startPos span.stopPos
  | leaf l, h => absurd h (by simp [tooDeep?])
  | group d children s, h => by
    rw [tooDeep?] at h
    rw [marks]
    split at h
    · next hroom =>
      obtain rfl := Option.some.inj h
      exact ⟨[], _, allMarks children, _, [], d, rfl, rfl, rfl, wellNested_allMarks children,
        shallow_nil room, by rw [levelAfter_nil]; omega, rfl, rfl⟩
    · -- inside the group one more is open, and one less is allowed
      next hroom =>
      obtain ⟨before, o, inner, c, after, d', hmarks, ho, hc, hinner, hbefore, hdeep, hstart,
        hstop⟩ := deepest_of_anyTooDeep? children h
      refine ⟨⟨.opening d, [d.openChar], s.startPos, s.startPos + 1⟩ :: before, o, inner, c,
        after ++ [⟨.closing d, [d.closeChar], s.stopPos - 1, s.stopPos⟩], d', ?_, ho, hc, hinner,
        ?_, ?_, hstart, hstop⟩
      · rw [hmarks, List.append_assoc, List.cons_append, List.append_assoc, List.cons_append,
          List.cons_append]
      · rw [shallow_cons]
        exact ⟨fun _ _ => by omega, hbefore⟩
      · rw [levelAfter_cons, LexemeKind.weight]
        omega

theorem deepest_of_anyTooDeep? {room : Int} {span : Span} : (ts : List Tree) →
    anyTooDeep? room ts = some span → Deepest room (allMarks ts) span.startPos span.stopPos
  | [], h => absurd h (by simp [anyTooDeep?])
  | t :: ts, h => by
    rw [anyTooDeep?, Option.or_eq_some_iff] at h
    rw [allMarks]
    rcases h with h | ⟨hnone, h⟩
    · obtain ⟨before, o, inner, c, after, d, hmarks, hrest⟩ := deepest_of_tooDeep? t h
      refine ⟨before, o, inner, c, after ++ allMarks ts, d, ?_, hrest⟩
      rw [hmarks, List.append_assoc, List.cons_append, List.append_assoc, List.cons_append]
    · -- the first token is well nested, so it does not count
      have hlevel := (wellNested_marks t).levelAfter_eq
      obtain ⟨before, o, inner, c, after, d, hmarks, ho, hc, hinner, hbefore, hdeep, hstart,
        hstop⟩ := deepest_of_anyTooDeep? ts h
      refine ⟨marks t ++ before, o, inner, c, after, d, ?_, ho, hc, hinner, ?_, ?_, hstart, hstop⟩
      · rw [hmarks, List.append_assoc]
      · rw [shallow_append, hlevel, Int.sub_zero]
        exact ⟨shallow_of_tooDeep? t hnone, hbefore⟩
      · rw [levelAfter_append, hlevel]
        omega

end

end Tree

end TokenTemplate
