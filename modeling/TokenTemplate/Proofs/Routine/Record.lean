import TokenTemplate.Proofs.Routine.Bare

/-!
# What elements come to

The instructions that an encoder adds depend on the elements that it is handed and on the place that
white space is counted from, and on nothing else: before each element there is the white space up to
it, `TokenTemplate.Element.written`. So an encoder that is handed some elements, none of which leaves a
group open, is known from these, `TokenTemplate.Encoder.record`.

What is written in two parts is the two parts, where the second is counted from the end of the first
(`TokenTemplate.Element.written_append`). Where the first element begins and the last one ends are the
only places at which it matters what stands around the elements
(`TokenTemplate.Element.written_some`).
-/

namespace TokenTemplate

/-! ### Elements -/

/-- The marks for the white space from a place to another one. -/
def spaceMarks (place : Option Position) (next : Position) : List Instruction :=
  (place.bind (spacing? · next)).toList.map .layout

namespace Element

/-- **What elements come to**, after a place that white space is counted from. -/
def written (place : Option Position) : List Element → List Instruction
  | [] => []
  | x :: xs => spaceMarks place x.cursor.start ++
      (x.node.instructions x.span ++ written (some x.cursor.stop) xs)

/-- The end of the last element, or else a place. -/
def stopOf (place : Option Position) (xs : List Element) : Option Position :=
  (xs.getLast?.map (·.cursor.stop)).or place

theorem stopOf_cons (place : Option Position) (x : Element) (xs : List Element) :
    stopOf place (x :: xs) = stopOf (some x.cursor.stop) xs := by
  rw [stopOf, stopOf, List.getLast?_cons]
  cases xs.getLast? <;> rfl

theorem stopOf_append (place : Option Position) (xs ys : List Element) :
    stopOf place (xs ++ ys) = stopOf (stopOf place xs) ys := by
  induction xs generalizing place with
  | nil => rfl
  | cons x xs ih => rw [List.cons_append, stopOf_cons, ih, stopOf_cons]

/-- **Elements in two parts.** -/
theorem written_append (place : Option Position) (xs ys : List Element) :
    written place (xs ++ ys) = written place xs ++ written (stopOf place xs) ys := by
  induction xs generalizing place with
  | nil => rfl
  | cons x xs ih =>
    rw [List.cons_append, written, ih, written, stopOf_cons, List.append_assoc, List.append_assoc]

/-- **A place before the first element** adds the white space up to that, and nothing else. -/
theorem written_some (p : Position) (x : Element) (xs : List Element) :
    written (some p) (x :: xs) = spaceMarks (some p) x.cursor.start ++ written none (x :: xs) := by
  rw [written, written]
  rfl

end Element

/-! ### Encoders -/

namespace Encoder

variable {e : Encoder} {xs ys : List Element} {span : Span} {cursor : Cursor} {node : Node}
  {opened : List Delimiter}

theorem map_spaceItems (e : Encoder) (next : Position) :
    (e.spaceItems next).map Item.instruction = spaceMarks (e.last.or e.before) next := by
  rw [spaceItems, spaceMarks, List.map_map]
  rfl

/-- **An encoder that has been handed elements**, with the same groups open as before. -/
def record (e : Encoder) (xs : List Element) : Encoder :=
  { e with
    elements := e.elements ++ xs
    instructions := e.instructions ++ Element.written (e.last.or e.before) xs
    last := Element.stopOf e.last xs }

theorem record_nil (e : Encoder) : e.record [] = e := by
  simp [record, Element.written, Element.stopOf]

theorem place_record (e : Encoder) (xs : List Element) :
    (e.record xs).last.or (e.record xs).before = Element.stopOf (e.last.or e.before) xs :=
  Option.or_assoc

theorem record_append (e : Encoder) (xs ys : List Element) :
    (e.record xs).record ys = e.record (xs ++ ys) := by
  have hplace := e.place_record xs
  rw [record, hplace]
  simp only [record, Element.written_append, Element.stopOf_append, List.append_assoc]

/-- An element is recorded, and the groups that are open are those after it. -/
theorem write_of_opened? (h : node.opened? e.opened = some opened) :
    e.write span cursor node = .ok { e.record [⟨span, cursor, node⟩] with opened } := by
  refine write_eq_ok_iff.2 ⟨opened, h, ?_⟩
  rw [add, map_spaceItems]
  simp only [record, Element.written, List.append_nil, List.append_assoc]
  rfl

/-- **A neutral element** is recorded. -/
theorem write_of_neutral (h : node.IsNeutral) :
    e.write span cursor node = .ok (e.record [⟨span, cursor, node⟩]) :=
  write_of_opened? (Node.opened?_of_isNeutral h e.opened)

/-- A routine of elements, with the white space after the last of them. -/
theorem finish_record (h : e.opened = []) :
    (e.record xs).finish.2 = .ok ⟨e.receiver, e.instructions ++
      (Element.written (e.last.or e.before) xs ++
        e.after.elim [] (spaceMarks (Element.stopOf (e.last.or e.before) xs))), e.filename⟩ := by
  refine finish_eq_ok_iff.2 ⟨h, ?_⟩
  rw [lastItems, ← List.append_assoc]
  have hmarks : ((e.record xs).after.elim [] (e.record xs).spaceItems).map Item.instruction =
      e.after.elim [] (spaceMarks (Element.stopOf (e.last.or e.before) xs)) := by
    change (e.after.elim [] (e.record xs).spaceItems).map Item.instruction = _
    cases e.after with
    | none => rfl
    | some p => 
      rw [Option.elim_some, map_spaceItems, place_record, Option.elim_some]
  rw [hmarks]
  rfl

end Encoder

end TokenTemplate
