import TokenTemplate.Run.Depth
import TokenTemplate.Template.Body

/-!
# Rendering templates

A template is compiled once, `TokenTemplate.Template.ofSource`, and run any number of times:
`TokenTemplate.Template.populate` writes to a receiver that exists, `TokenTemplate.Template.tokens` to a new
one, and `TokenTemplate.Template.render` gives the text of what was written. For a template that is run only
once, `TokenTemplate.Template.quoteSource` and `TokenTemplate.Template.renderSource` do both in one step.
-/

namespace TokenTemplate

namespace Template

/-- **The template with a given text.** -/
def ofSource (settings : Settings) (receiver source : String) : Except CompileError Template :=
  return ⟨source, receiver, settings, ← Routine.ofSource settings receiver source⟩

/-- Writes a template to a receiver. -/
def populate (t : Template) (id : Nat) (b : Bindings) : Action Unit :=
  Evaluator.standard.populate t id b

/-- A new receiver with a template. -/
def tokens (t : Template) (b : Bindings) : Action Nat := do
  let id ← Action.newReceiver
  t.populate id b
  return id

/-- The text of a template. -/
def render (t : Template) (b : Bindings) : Action String := do
  let id ← t.tokens b
  Action.look fun s => t.settings.format (s.items id)

/-! ### In one step -/

/-- A text compiled with the usual settings, and what is to be done with it and some bindings; none of
these can be called as the text itself is. -/
def once {α : Type} (run : Template → Bindings → Action α) (source : String) (b : Bindings) :
    Except CompileError (Action α) :=
  if (b.lookup "source").isSome then return Action.failWith .type
  else return run (← ofSource {} "t" source) b

/-- **A new receiver with the template of a text.** -/
def quoteSource : String → Bindings → Except CompileError (Action Nat) :=
  once tokens

/-- **The text of the template of a text.** -/
def renderSource : String → Bindings → Except CompileError (Action String) :=
  once render

end Template

end TokenTemplate
