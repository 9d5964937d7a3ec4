import TokenTemplate.Output.Item
import TokenTemplate.Payload.Located

/-!
# Routines

What a template is compiled to: a row of instructions for a receiver. The bodies of control constructs
are routines of their own, so nothing ever jumps.
-/

namespace TokenTemplate

/-- A part of an interpolated text. -/
inductive Segment
  /-- A text, as it is. -/
  | literal (text : String)
  /-- The text of a value. -/
  | site (e : Expression)

mutual

/-- An instruction. -/
inductive Instruction
  /-- Writes a text. -/
  | append (text : String)
  /-- Writes a mark for white space. -/
  | layout (w : Whitespace)
  /-- Writes the value that a name is bound to. -/
  | spliceName (name : String) (span : Span)
  /-- Writes the value of an expression. -/
  | splice (e : Expression)
  /-- Writes some texts and values as one text. -/
  | interpolate (segments : List Segment)
  /-- Runs one of two routines, as a condition decides. -/
  | branch (condition : Expression) (yes : Routine) (no : Option Routine)
  /-- Runs a routine for each item of a value, and another one between the items. -/
  | iterate (pattern : Case) (source : Expression) (body : Routine) (join : Option Routine)
  /-- Runs the routine of the first case that a value matches. -/
  | dispatch (subject : Expression) (arms : List (Case × Routine))
  /-- Runs a routine with a name for the receiver, if one is given. -/
  | rebind (name : Option String) (body : Routine)
  /-- Something that is no instruction; running it fails. -/
  | unsupported (text : String)

/-- A row of instructions. -/
structure Routine where
  /-- The name of the receiver. -/
  receiver : String
  /-- The instructions. -/
  instructions : List Instruction
  /-- The name that messages give to the template. -/
  filename : String

end

instance : Inhabited Routine :=
  ⟨⟨"", [], ""⟩⟩

end TokenTemplate
