/-!
# Settings

What a caller may choose about a template: `TokenTemplate.Settings` is shared by the reading of a
template, by the layout of its output and by the messages about either.
-/

namespace TokenTemplate

/-- The choices of a caller. -/
structure Settings where
  /-- The name that messages give to the template. -/
  filename : String := "<template>"
  /-- One level of indentation of the output. -/
  indentation : String := "    "
  /-- The line break of the output. -/
  newline : String := "\n"
  /-- How deep groups and bodies may nest. -/
  maxDepth : Int := 64
  deriving DecidableEq, Repr, Inhabited

end TokenTemplate
