import TokenTemplate.Payload.Statement
import TokenTemplate.SyntaxError

/-!
# Payloads in a template

A payload as it stands in a template: its text, where it is, and the tree that it was read as. An
`TokenTemplate.Expression` is read inside brackets with a line of its own, so it may run over several
lines and end in a comment. A `TokenTemplate.Case` is read as the only case of a small program,
`TokenTemplate.Case.text`, its pattern in one pair of brackets and its guard in another.

Since the brackets belong to the text that is read, a payload may close the first one and open the
last one itself: what counts is that the whole is well formed. So the pattern of a case can bring a guard,
and even further cases and statements.
-/

namespace TokenTemplate

/-- An expression in a template. -/
structure Expression where
  /-- Its text. -/
  source : String
  /-- Where it stands. -/
  span : Span
  /-- What it says. -/
  tree : Payload.Expr
  deriving Inhabited

namespace Expression

/-- What the text of an expression says; nothing if it is malformed. -/
def tree? (source : String) : Option Payload.Expr :=
  (Payload.tokens? ('(' :: '\n' :: source.toList ++ ['\n', ')'])).bind Payload.expressionOf?

/-- **The expression with a given text.** -/
def ofSource (settings : Settings) (source : String) (span : Span) :
    Except SyntaxError Expression :=
  if Unicode.trim source = "" then .error ⟨.expectedExpression, span, settings.filename⟩
  else match tree? source with
    | some tree => .ok ⟨source, span, tree⟩
    | none => .error ⟨.invalidExpression source, span, settings.filename⟩

end Expression

/-- A pattern in a template, perhaps with a guard. -/
structure Case where
  /-- The text of the pattern. -/
  source : String
  /-- Where the pattern stands, with its guard. -/
  span : Span
  /-- The text of the guard. -/
  guard : Option String
  /-- The program that both are read as. -/
  program : Payload.Program

namespace Case

/-- The name of the subject in the program of a case. -/
def subjectName : String :=
  "__subject__"

/-- The name of what the program of a case gives. -/
def resultName : String :=
  "captured"

/-- **The program of a case**, whose result is what its names stand for if the subject matches. -/
def text (source : String) (guard : Option String) : String :=
  let condition := match guard with
    | none => ""
    | some g => " if (" ++ g ++ ")"
  "    match " ++ subjectName ++ ":\n" ++
  "        case (" ++ source ++ ")" ++ condition ++ ":\n" ++
  "            " ++ resultName ++ " = dict(locals())\n" ++
  "            del " ++ resultName ++ "['" ++ subjectName ++ "']\n" ++
  "            return " ++ resultName ++ "\n" ++
  "    return None\n"

/-- What the text of a pattern and its guard say; nothing if one of them is malformed. -/
def program? (source : String) (guard : Option String) : Option Payload.Program :=
  (Payload.programTokens? 4 (text source guard).toList).bind Payload.programOf?

/-- What is wrong with a malformed pattern. -/
def problem (source : String) (guard : Option String) : SyntaxProblem :=
  match guard with
  | none => .invalidPattern source
  | some g => .invalidGuardedPattern source g

/-- **The pattern with a given text.** -/
def ofSource (settings : Settings) (source : String) (span : Span) (guard : Option String) :
    Except SyntaxError Case :=
  let fail (p : SyntaxProblem) : Except SyntaxError Case := .error ⟨p, span, settings.filename⟩
  if Unicode.trim source = "" then fail .expectedPattern
  else if guard.any fun g => Unicode.trim g == "" then fail .expectedGuard
  else match program? source guard with
    | some program => .ok ⟨source, span, guard, program⟩
    | none => fail (problem source guard)

end Case

end TokenTemplate
