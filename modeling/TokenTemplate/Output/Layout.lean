import TokenTemplate.Output.Item
import TokenTemplate.Settings

/-!
# Layout

How the items of a receiver become lines. The marks between two texts are looked at together when the
second text arrives: `TokenTemplate.Layout.step` only remembers them. So a blank before a line break is
never written, empty lines never come two in a row, and a line is indented when it gets its first text.
-/

namespace TokenTemplate

/-- The lines that items have produced so far. -/
structure Layout where
  /-- The lines that are finished, the last one first. -/
  done : List String := []
  /-- The texts of the line that is being written, the last one first, the indentation among them;
  nothing if no line has been begun. -/
  current : List String := []
  /-- The level of indentation. -/
  level : Nat := 0
  /-- Whether a blank is due before the next text. -/
  blankDue : Bool := false
  /-- Whether an empty line is due before the next text. -/
  emptyDue : Bool := false
  deriving Inhabited

namespace Layout

/-- Some copies of a text. -/
def copies (s : String) (n : Nat) : String :=
  String.join (List.replicate n s)

/-- Ends the line that is being written, if one has been begun. -/
def breakLine (l : Layout) : Layout :=
  if l.current.isEmpty then l
  else { l with done := String.join l.current.reverse :: l.done, current := [] }

/-- Takes in one item. -/
def step (indentation : String) (l : Layout) : Item → Layout
  | .text s =>
    let (done, before) :=
      if l.current.isEmpty then
        (if l.emptyDue && !l.done.isEmpty then "" :: l.done else l.done,
          [copies indentation l.level])
      else (l.done, if l.blankDue then " " :: l.current else l.current)
    { l with done := done, current := s :: before, blankDue := false, emptyDue := false }
  | .space .space => { l with blankDue := !l.current.isEmpty }
  | .space .push => { l.breakLine with blankDue := false }
  | .space .line => { l.breakLine with blankDue := false, emptyDue := true }
  | .space .indent => { l with level := l.level + 1 }
  | .space .unindent => { l with level := l.level - 1 }

/-- **The lines of some items.** -/
def lines (settings : Settings) (items : List Item) : List String :=
  (items.foldl (step settings.indentation) {}).breakLine.done.reverse

end Layout

/-- The items as one text. -/
def Settings.format (settings : Settings) (items : List Item) : String :=
  settings.newline.intercalate (Layout.lines settings items)

/-- The items as the text of a file, which ends with a line break unless it is empty. -/
def Settings.formatFile (settings : Settings) (items : List Item) : String :=
  match Layout.lines settings items with
  | [] => ""
  | lines => settings.newline.intercalate lines ++ settings.newline

end TokenTemplate
