import Mathlib.Data.List.Induction
import TokenTemplate.Output.Layout

/-!
# What stands between two texts

The layout of some items is a fold with five pieces of state. Here it is said what the fold comes
to: of the marks between two texts neither the order nor the number counts, only which of them occur
(`TokenTemplate.Layout.foldl_marks`), and with the level of indentation this decides what is written
between the texts, `TokenTemplate.Layout.lead`. So the text of a layout grows by one lead and one
text at a time (`TokenTemplate.Layout.rendered_lead`).

A layout to which nothing has been written is apart, since marks do nothing to it but to change its
level (`TokenTemplate.Layout.rendered_text_of_fresh`).
-/

namespace TokenTemplate

namespace Layout

/-! ### Marks and texts -/

/-- The level of indentation after a mark. -/
def levelAfterMark (level : Nat) : Whitespace → Nat
  | .indent => level + 1
  | .unindent => level - 1
  | _ => level

/-- The level of indentation after some marks. -/
def levelAfterMarks (level : Nat) (ws : List Whitespace) : Nat :=
  ws.foldl levelAfterMark level

/-- **What is written between two texts**, by the marks between them and the level of indentation
after these. -/
def lead (settings : Settings) (ws : List Whitespace) (level : Nat) : String :=
  if .line ∈ ws then
    settings.newline ++ settings.newline ++ copies settings.indentation level
  else if .push ∈ ws then settings.newline ++ copies settings.indentation level
  else if .space ∈ ws then " "
  else ""

/-- The text of a layout. -/
def rendered (settings : Settings) (l : Layout) : String :=
  settings.newline.intercalate l.breakLine.done.reverse

/-- A layout whose last item was a text. -/
structure Begun (l : Layout) : Prop where
  /-- A line has been begun. -/
  current_ne_nil : l.current ≠ []
  /-- No blank is due. -/
  blankDue_eq : l.blankDue = false
  /-- No empty line is due. -/
  emptyDue_eq : l.emptyDue = false

/-- A layout to which no text has been written. -/
structure Fresh (l : Layout) : Prop where
  /-- No line has been begun. -/
  current_eq : l.current = []
  /-- No line has been finished. -/
  done_eq : l.done = []

variable {settings : Settings} {l : Layout}

theorem levelAfterMarks_concat (level : Nat) (ws : List Whitespace) (w : Whitespace) :
    levelAfterMarks level (ws ++ [w]) = levelAfterMark (levelAfterMarks level ws) w :=
  List.foldl_append

theorem rendered_of_current (h : l.current ≠ []) :
    rendered settings l =
      settings.newline.intercalate (l.done.reverse ++ [String.join l.current.reverse]) := by
  rw [rendered, breakLine, if_neg (by simpa using h), List.reverse_cons]

theorem rendered_of_finished (h : l.current = []) :
    rendered settings l = settings.newline.intercalate l.done.reverse := by
  rw [rendered, breakLine, if_pos (by simp [h])]

/-- A line that is added. -/
theorem intercalate_concat {lines : List String} (h : lines ≠ []) (newline line : String) :
    newline.intercalate (lines ++ [line]) = newline.intercalate lines ++ newline ++ line := by
  rw [String.intercalate_append_of_ne_nil h (List.cons_ne_nil _ _), String.intercalate_singleton]

/-- A text that is added to the last line. -/
theorem intercalate_concat_append (lines : List String) (newline line more : String) :
    newline.intercalate (lines ++ [line ++ more]) =
      newline.intercalate (lines ++ [line]) ++ more := by
  rcases eq_or_ne lines [] with rfl | h
  · rw [List.nil_append, List.nil_append, String.intercalate_singleton,
      String.intercalate_singleton]
  · rw [intercalate_concat h, intercalate_concat h, String.append_assoc, String.append_assoc,
      String.append_assoc]

/-! ### A text -/

theorem begun_text (indentation : String) (l : Layout) (s : String) :
    (step indentation l (.text s)).Begun :=
  ⟨by simp [step], rfl, rfl⟩

/-- A text on a line that has been begun. -/
theorem rendered_text_of_current (h : l.current ≠ []) (s : String) :
    rendered settings (step settings.indentation l (.text s)) =
      rendered settings l ++ (if l.blankDue then " " else "") ++ s := by
  have hbegun := begun_text settings.indentation l s
  have hcurrent : l.current.isEmpty = false := by simpa using h
  have hlines : (step settings.indentation l (.text s)).done = l.done := by
    simp [step, hcurrent]
  have hline : String.join (step settings.indentation l (.text s)).current.reverse =
      String.join l.current.reverse ++ ((if l.blankDue then " " else "") ++ s) := by
    cases hblank : l.blankDue <;> simp [step, hcurrent, hblank]
  rw [rendered_of_current hbegun.current_ne_nil, hlines, hline, intercalate_concat_append,
    rendered_of_current h, String.append_assoc]

/-- A text after a line that has been finished. -/
theorem rendered_text_of_done (h : l.current = []) (hdone : l.done ≠ []) (s : String) :
    rendered settings (step settings.indentation l (.text s)) =
      rendered settings l ++ (if l.emptyDue then settings.newline ++ settings.newline
        else settings.newline) ++ copies settings.indentation l.level ++ s := by
  have hbegun := begun_text settings.indentation l s
  have hcurrent : l.current.isEmpty = true := by simp [h]
  have hline : String.join (step settings.indentation l (.text s)).current.reverse =
      copies settings.indentation l.level ++ s := by
    simp [step, hcurrent]
  have hlines : (step settings.indentation l (.text s)).done =
      if l.emptyDue then "" :: l.done else l.done := by
    cases hempty : l.emptyDue <;> simp [step, hcurrent, hempty, hdone]
  have hne : l.done.reverse ≠ [] := by simpa using hdone
  rw [rendered_of_current hbegun.current_ne_nil, hlines, hline,
    rendered_of_finished h]
  cases l.emptyDue with
  | false =>
    simp only [Bool.false_eq_true, if_false]
    rw [intercalate_concat hne, String.append_assoc, String.append_assoc, String.append_assoc]
  | true =>
    simp only [if_true]
    rw [List.reverse_cons, intercalate_concat (List.concat_ne_nil _ _), intercalate_concat hne,
      String.append_empty, String.append_assoc, String.append_assoc, String.append_assoc,
      String.append_assoc, String.append_assoc]

/-- The first text. -/
theorem rendered_text_of_fresh (h : l.Fresh) (s : String) :
    rendered settings (step settings.indentation l (.text s)) =
      copies settings.indentation l.level ++ s := by
  have hbegun := begun_text settings.indentation l s
  rw [rendered_of_current hbegun.current_ne_nil]
  simp [step, h.current_eq, h.done_eq]

/-! ### Marks between texts -/

/-- **What marks do to a layout**: which of them occur is all that counts. -/
theorem foldl_marks (indentation : String) (h : l.Begun) (ws : List Whitespace) :
    (ws.map Item.space).foldl (step indentation) l =
      if .line ∈ ws ∨ .push ∈ ws then
        { done := String.join l.current.reverse :: l.done, current := [],
          level := levelAfterMarks l.level ws, blankDue := false, emptyDue := decide (.line ∈ ws) }
      else { l with level := levelAfterMarks l.level ws, blankDue := decide (.space ∈ ws) } := by
  have hcurrent : l.current.isEmpty = false := by simpa using h.current_ne_nil
  -- by induction from the end, since the state after some marks is what the next one changes
  induction ws using List.reverseRecOn with
  | nil =>
    obtain ⟨hne, hblank, hempty⟩ := h
    cases l
    simp_all [levelAfterMarks]
  | append_singleton ws w ih =>
    have hempty := h.emptyDue_eq
    rw [List.map_append, List.foldl_append, ih, levelAfterMarks_concat]
    by_cases hline : Whitespace.line ∈ ws <;> by_cases hpush : Whitespace.push ∈ ws <;>
      cases w <;> simp [hline, hpush, step, breakLine, hcurrent, hempty, levelAfterMark]

/-- **A text after some marks** is written after what these stand for. -/
theorem rendered_lead (h : l.Begun) (ws : List Whitespace) (s : String) :
    rendered settings ((ws.map Item.space ++ [Item.text s]).foldl (step settings.indentation) l) =
      rendered settings l ++ lead settings ws (levelAfterMarks l.level ws) ++ s := by
  have hcurrent := h.current_ne_nil
  rw [List.foldl_append, foldl_marks settings.indentation h ws, List.foldl_cons, List.foldl_nil]
  unfold lead
  by_cases hbreak : Whitespace.line ∈ ws ∨ Whitespace.push ∈ ws
  · -- the line has been finished, which does not show in the text until the next one begins
    have hrendered (level : Nat) (blank empty : Bool) :
        rendered settings ⟨String.join l.current.reverse :: l.done, [], level, blank, empty⟩ =
          rendered settings l := by
      rw [rendered_of_current hcurrent, rendered_of_finished rfl, List.reverse_cons]
    rw [if_pos hbreak, rendered_text_of_done rfl (List.cons_ne_nil _ _), hrendered]
    by_cases hline : Whitespace.line ∈ ws
    · simp only [hline, decide_true, if_true, String.append_assoc]
    · have hpush := hbreak.resolve_left hline
      simp only [hline, hpush, decide_false, Bool.false_eq_true, if_false, if_true,
        String.append_assoc]
  · obtain ⟨hline, hpush⟩ := not_or.1 hbreak
    have hrendered (level : Nat) (blank : Bool) :
        rendered settings { l with level := level, blankDue := blank } = rendered settings l := by
      rw [rendered_of_current hcurrent]
      exact rendered_of_current hcurrent
    rw [if_neg hbreak, if_neg hline, if_neg hpush]
    refine (rendered_text_of_current (by exact hcurrent) s).trans ?_
    simp only [hrendered, decide_eq_true_eq]

theorem level_lead (indentation : String) (l : Layout) (ws : List Whitespace) (s : String) :
    ((ws.map Item.space ++ [Item.text s]).foldl (step indentation) l).level =
      levelAfterMarks l.level ws := by
  induction ws generalizing l with
  | nil => rfl
  | cons w ws ih =>
    rw [List.map_cons, List.cons_append, List.foldl_cons, ih]
    have hstep : (step indentation l (.space w)).level = levelAfterMark l.level w := by
      cases w <;> simp [step, breakLine, levelAfterMark] <;> split <;> rfl
    rw [hstep]
    rfl

theorem begun_lead (indentation : String) (l : Layout) (ws : List Whitespace) (s : String) :
    ((ws.map Item.space ++ [Item.text s]).foldl (step indentation) l).Begun := by
  rw [List.foldl_append]
  exact begun_text indentation _ s

end Layout

end TokenTemplate
