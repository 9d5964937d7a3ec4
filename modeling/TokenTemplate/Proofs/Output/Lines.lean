import Mathlib.Data.List.DropRight
import TokenTemplate.Proofs.Output.Layout

/-!
# Lines without a machine

A layout takes in its items one by one and keeps what is due before the next text. Here its lines
are said once more without any state. A text is looked at together with what stands before it,
`TokenTemplate.Layout.Entry`: the marks since the last text, and the level of indentation that all
marks before it lead to. The first entry opens a line, and each later one goes on with the line or
opens another one, as its marks decide (`TokenTemplate.Layout.linesOf`).

Both readings agree on all items (`TokenTemplate.Layout.lines_eq_linesOf`). Of the marks before a
text only the memberships are used, so neither their order nor their number counts; marks before the
first text do nothing but to change its level, and marks after the last one do nothing at all.
-/

namespace TokenTemplate

namespace Item

/-- The text that an item is. -/
def text? : Item → Option String
  | text s => some s
  | space _ => none

/-- The mark that an item is. -/
def mark? : Item → Option Whitespace
  | text _ => none
  | space w => some w

/-- The texts among some items. -/
def texts (items : List Item) : List String :=
  items.filterMap text?

/-- The marks among some items. -/
def marks (items : List Item) : List Whitespace :=
  items.filterMap mark?

theorem marks_append (items more : List Item) : marks (items ++ more) = marks items ++ marks more :=
  List.filterMap_append

theorem marks_map_space (ws : List Whitespace) : marks (ws.map space) = ws := by
  induction ws with
  | nil => rfl
  | cons w ws ih => exact congrArg (w :: ·) ih

end Item

namespace Layout

/-! ### Texts with what stands before them -/

/-- A text of some items, with what stands before it. -/
structure Entry where
  /-- The text. -/
  text : String
  /-- The marks between the text before it, or the beginning, and this one. -/
  marks : List Whitespace
  /-- The level of indentation. -/
  level : Nat

/-- **A text after some items**: the marks that these end with, and the level that all their marks
lead to. -/
def Entry.after (before : List Item) (s : String) : Entry :=
  ⟨s, Item.marks (before.rtakeWhile (!·.isText)), levelAfterMarks 0 (Item.marks before)⟩

/-- The entries of items that come after other ones. -/
def entriesAfter (before : List Item) : List Item → List Entry
  | [] => []
  | .text s :: items => .after before s :: entriesAfter (before ++ [.text s]) items
  | .space w :: items => entriesAfter (before ++ [.space w]) items

/-- The entries of some items. -/
def entries (items : List Item) : List Entry :=
  entriesAfter [] items

/-! ### Lines -/

/-- An entry at the beginning of a line. -/
def Entry.opening (indentation : String) (e : Entry) : String :=
  copies indentation e.level ++ e.text

/-- **What entries add to a line that has been begun**, and the lines after it. -/
def continued (indentation : String) : List Entry → String × List String
  | [] => ("", [])
  | e :: es =>
    let next := continued indentation es
    if .line ∈ e.marks then ("", "" :: (e.opening indentation ++ next.1) :: next.2)
    else if .push ∈ e.marks then ("", (e.opening indentation ++ next.1) :: next.2)
    else if .space ∈ e.marks then (" " ++ e.text ++ next.1, next.2)
    else (e.text ++ next.1, next.2)

/-- **The lines of some entries**: the first one opens a line, whatever its marks. -/
def linesOf (indentation : String) : List Entry → List String
  | [] => []
  | e :: es =>
    (e.opening indentation ++ (continued indentation es).1) :: (continued indentation es).2

/-! ### Entries of some items -/

theorem texts_entriesAfter (before items : List Item) :
    (entriesAfter before items).map Entry.text = Item.texts items := by
  induction items generalizing before with
  | nil => rfl
  | cons i items ih =>
    cases i with
    | text s => exact congrArg (s :: ·) (ih _)
    | space w => exact ih _

theorem entriesAfter_append (before items more : List Item) :
    entriesAfter before (items ++ more) =
      entriesAfter before items ++ entriesAfter (before ++ items) more := by
  induction items generalizing before with
  | nil => rw [List.append_nil]; rfl
  | cons i items ih =>
    have hstep := ih (before ++ [i])
    rw [List.append_assoc, List.singleton_append] at hstep
    cases i with
    | text s => exact congrArg (_ :: ·) hstep
    | space w => exact hstep

/-- **The entry of a text** is that of the items before it. -/
theorem getElem?_entriesAfter (before items after : List Item) (s : String) :
    (entriesAfter before (items ++ .text s :: after))[(Item.texts items).length]? =
      some (.after (before ++ items) s) := by
  have hlength : (entriesAfter before items).length = (Item.texts items).length := by
    rw [← texts_entriesAfter before items, List.length_map]
  rw [entriesAfter_append, ← hlength, List.getElem?_append_right (Nat.le_refl _), Nat.sub_self]
  rfl

/-- Marks at the end of some items are the marks before the next text. -/
theorem marks_rtakeWhile_append {before : List Item}
    (h : before.rtakeWhile (!·.isText) = []) (ws : List Whitespace) :
    Item.marks ((before ++ ws.map Item.space).rtakeWhile (!·.isText)) = ws := by
  induction ws using List.reverseRecOn with
  | nil =>
    rw [List.map_nil, List.append_nil, h]
    rfl
  | append_singleton ws w ih =>
    rw [List.map_append, List.map_singleton, ← List.append_assoc,
      List.rtakeWhile_concat_pos _ _ _ rfl,
      Item.marks_append, ih]
    rfl

/-! ### The layout of some items -/

variable {l : Layout} (indentation : String)

/-- A layout after a text, and what the marks from there on come to when the items end. -/
theorem done_breakLine_of_marks (h : l.Begun) (ws : List Whitespace) :
    ((ws.map Item.space).foldl (step indentation) l).breakLine.done =
      String.join l.current.reverse :: l.done := by
  have hcurrent : l.current.isEmpty = false := by simpa using h.current_ne_nil
  rw [foldl_marks indentation h ws]
  split
  · rfl
  · rw [breakLine, if_neg (by simp [hcurrent])]

/-- A text after marks that do not end the line. -/
theorem text_of_sameLine (h : l.Begun) {ws : List Whitespace} (hline : .line ∉ ws)
    (hpush : .push ∉ ws) (s : String) :
    let l' := step indentation ((ws.map Item.space).foldl (step indentation) l) (.text s)
    l'.done = l.done ∧
      String.join l'.current.reverse =
        String.join l.current.reverse ++ ((if .space ∈ ws then " " else "") ++ s) := by
  have hcurrent : l.current.isEmpty = false := by simpa using h.current_ne_nil
  rw [foldl_marks indentation h ws, if_neg (by simp [hline, hpush])]
  by_cases hspace : Whitespace.space ∈ ws
  · simp [step, hcurrent, hspace]
  · simp [step, hcurrent, hspace]

/-- A text after marks that end the line. -/
theorem text_of_newLine (h : l.Begun) {ws : List Whitespace} (hbreak : .line ∈ ws ∨ .push ∈ ws)
    (s : String) :
    let l' := step indentation ((ws.map Item.space).foldl (step indentation) l) (.text s)
    l'.done = (if .line ∈ ws then [""] else []) ++ String.join l.current.reverse :: l.done ∧
      String.join l'.current.reverse = copies indentation (levelAfterMarks l.level ws) ++ s := by
  rw [foldl_marks indentation h ws, if_pos hbreak]
  by_cases hline : Whitespace.line ∈ ws
  · simp [step, hline]
  · simp [step, hline]

/-- **The lines of a layout that has been begun.** Some marks have come since the last text. -/
theorem done_foldl_of_begun (items before : List Item) (ws : List Whitespace) (h : l.Begun)
    (hbefore : before.rtakeWhile (!·.isText) = [])
    (hlevel : l.level = levelAfterMarks 0 (Item.marks before)) :
    (items.foldl (step indentation)
        ((ws.map Item.space).foldl (step indentation) l)).breakLine.done.reverse =
      let next := continued indentation (entriesAfter (before ++ ws.map .space) items)
      l.done.reverse ++ (String.join l.current.reverse ++ next.1) :: next.2 := by
  induction items generalizing before ws l with
  | nil =>
    rw [List.foldl_nil, done_breakLine_of_marks indentation h, List.reverse_cons, entriesAfter,
      continued]
    simp only [String.append_empty]
  | cons i items ih =>
    cases i with
    | space w =>
      -- the mark joins those that have come already
      have hmore := ih before (ws ++ [w]) h hbefore hlevel
      rw [List.map_append, List.foldl_append, ← List.append_assoc] at hmore
      exact hmore
    | text s =>
      -- the entry of the text has the marks that have come since the last one
      have hafter : Entry.after (before ++ ws.map .space) s =
          ⟨s, ws, levelAfterMarks l.level ws⟩ := by
        rw [Entry.after, marks_rtakeWhile_append hbefore, Item.marks_append, Item.marks_map_space,
          levelAfterMarks, List.foldl_append, hlevel]
        rfl
      have hlevel' := level_lead indentation l ws s
      rw [List.foldl_append] at hlevel'
      have hnext := ih (before ++ ws.map .space ++ [.text s]) []
        (begun_text indentation ((ws.map Item.space).foldl (step indentation) l) s)
        (List.rtakeWhile_concat_neg _ _ _ (by simp [Item.isText]))
        (by
          rw [Item.marks_append, Item.marks_append, Item.marks_map_space]
          refine hlevel'.trans ?_
          rw [hlevel, levelAfterMarks, levelAfterMarks, levelAfterMarks, List.foldl_append,
            List.foldl_append]
          rfl)
      rw [List.map_nil, List.append_nil, List.foldl_nil] at hnext
      rw [List.foldl_cons, hnext, entriesAfter, hafter, continued]
      generalize continued indentation (entriesAfter (before ++ ws.map .space ++ [.text s]) items) =
        next
      -- a blank line, a new line, or the same line
      by_cases hline : Whitespace.line ∈ ws
      · obtain ⟨hdone, hcurrent⟩ := text_of_newLine indentation h (Or.inl hline) s
        simp only [hdone, hcurrent, hline, if_true, Entry.opening, List.reverse_append,
          List.reverse_cons, String.append_empty]
        simp
      · by_cases hpush : Whitespace.push ∈ ws
        · obtain ⟨hdone, hcurrent⟩ :=
            text_of_newLine indentation h (Or.inr hpush) s
          simp only [hdone, hcurrent, hline, hpush, if_true, if_false, Entry.opening,
            List.nil_append, List.reverse_cons, String.append_empty]
          simp
        · obtain ⟨hdone, hcurrent⟩ :=
            text_of_sameLine indentation h hline hpush s
          simp only [hdone, hcurrent, hline, hpush, if_false, String.append_assoc]
          split <;> simp

theorem Fresh.step_space (h : l.Fresh) (w : Whitespace) :
    (step indentation l (.space w)).Fresh ∧
      (step indentation l (.space w)).level = levelAfterMark l.level w := by
  have hbreak : l.breakLine = l := if_pos (by simp [h.current_eq])
  rw [step.eq_def]
  cases w with
  | space => exact ⟨⟨h.current_eq, h.done_eq⟩, rfl⟩
  | push | line =>
    simp only [hbreak]
    exact ⟨⟨h.current_eq, h.done_eq⟩, rfl⟩
  | indent | unindent => exact ⟨⟨h.current_eq, h.done_eq⟩, rfl⟩

/-- **The lines of a layout to which no text has been written**, after some marks. -/
theorem done_foldl_of_fresh (items before : List Item) (h : l.Fresh)
    (hlevel : l.level = levelAfterMarks 0 (Item.marks before)) :
    (items.foldl (step indentation) l).breakLine.done.reverse =
      linesOf indentation (entriesAfter before items) := by
  induction items generalizing before l with
  | nil => simp [breakLine, h.current_eq, h.done_eq, entriesAfter, linesOf]
  | cons i items ih =>
    cases i with
    | space w =>
      obtain ⟨hfresh, hmark⟩ := h.step_space indentation w
      refine ih (before ++ [.space w]) hfresh ?_
      rw [hmark, hlevel, Item.marks_append]
      exact (levelAfterMarks_concat 0 (Item.marks before) w).symm
    | text s =>
      have hnext := done_foldl_of_begun indentation items (before ++ [.text s]) []
        (begun_text indentation l s) (List.rtakeWhile_concat_neg _ _ _ (by simp [Item.isText]))
        (by
          rw [Item.marks_append]
          exact hlevel.trans (congrArg (levelAfterMarks 0) (List.append_nil _).symm))
      rw [List.map_nil, List.append_nil, List.foldl_nil] at hnext
      rw [List.foldl_cons, hnext, entriesAfter, linesOf]
      simp [step, h.current_eq, h.done_eq, Entry.opening, Entry.after, hlevel]

/-- **The lines of some items are those of their entries**, so there are none exactly if there is no
text. The entries are the texts in order, each with the marks since the text before it and the level
of indentation that all marks before it lead to. -/
theorem lines_eq_linesOf (settings : Settings) (items : List Item) :
    lines settings items = linesOf settings.indentation (entries items) ∧
      (lines settings items = [] ↔ Item.texts items = []) ∧
      (entries items).map Entry.text = Item.texts items ∧
      ∀ (before after : List Item) (s : String),
        (entries (before ++ .text s :: after))[(Item.texts before).length]? =
          some (.after before s) := by
  have hlines : lines settings items = linesOf settings.indentation (entries items) :=
    done_foldl_of_fresh settings.indentation items [] ⟨rfl, rfl⟩ rfl
  refine ⟨hlines, ?_, texts_entriesAfter [] items, fun before after s => ?_⟩
  · rw [hlines, ← texts_entriesAfter [] items, List.map_eq_nil_iff, ← entries]
    cases entries items with
    | nil => exact iff_of_true rfl rfl
    | cons e es => simp [linesOf]
  · exact getElem?_entriesAfter [] before after s

/-- A blank and a line break that change nothing, an empty line, and a level that is not left again
before the last text. -/
example : lines {} [.space .line, .text "a", .space .space, .text "b", .space .indent, .space .line,
    .space .push, .text "c", .space .unindent, .space .space] = ["a b", "", "    c"] := by
  decide

end Layout

end TokenTemplate
