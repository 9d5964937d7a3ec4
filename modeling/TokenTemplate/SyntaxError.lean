import TokenTemplate.Settings
import TokenTemplate.Source.Diagnostic
import TokenTemplate.Text.Quoted
import TokenTemplate.Token.Basic
import TokenTemplate.Unicode.Blank

/-!
# Malformed templates

What can be wrong with a template, `TokenTemplate.SyntaxProblem`, one constructor per cause; where it is
wrong, `TokenTemplate.SyntaxError`; and the one place where a cause is put into words,
`TokenTemplate.SyntaxProblem.message`.
-/

namespace TokenTemplate

/-- What is wrong with a template. -/
inductive SyntaxProblem
  /-- A string literal is not closed on its line. -/
  | unterminatedString
  /-- No token begins with this character. -/
  | unexpectedCharacter (c : Char)
  /-- A closing delimiter does not match the innermost open group. -/
  | unbalancedClosing (d : Delimiter)
  /-- The source ends inside a group. -/
  | unterminatedGroup
  /-- Groups or bodies nest more deeply than allowed. -/
  | tooDeep (limit : Int)
  /-- A token is wanted where the region ends. -/
  | unexpectedEnd
  /-- Something particular has to stand here. -/
  | expectedText (text : String)
  /-- A word has to stand here. -/
  | expectedIdentifier
  /-- A group has to stand here. -/
  | expectedGroup (d : Delimiter)
  /-- Tokens are left over after a complete construct. -/
  | trailingTokens
  /-- A payload expression is missing. -/
  | expectedExpression
  /-- A payload pattern is missing. -/
  | expectedPattern
  /-- The guard after `if` is missing. -/
  | expectedGuard
  /-- A payload is no expression. -/
  | invalidExpression (source : String)
  /-- A payload is no pattern. -/
  | invalidPattern (source : String)
  /-- A payload is no pattern, or its guard is no expression. -/
  | invalidGuardedPattern (source guard : String)
  /-- A string literal with a malformed escape or a raw line break. -/
  | invalidString (text : String)
  /-- A directive of unknown name. -/
  | unknownDirective (name : String) (known : List String)
  /-- A directive inside a string block. -/
  | directiveInString
  /-- A string block inside a string block. -/
  | nestedString
  /-- A problem that is given in words. -/
  | other (message : String)
  deriving Repr, Inhabited

/-- **The wording of a problem.** -/
def SyntaxProblem.message : SyntaxProblem → String
  | unterminatedString => "unterminated string literal"
  | unexpectedCharacter c => s!"unexpected character {Text.quoted (String.singleton c)}"
  | unbalancedClosing d => s!"unbalanced closing delimiter {Text.quoted d.closing}"
  | unterminatedGroup => "unterminated group: missing closing delimiter"
  | tooDeep limit => s!"template nesting exceeds the maximum depth of {limit}"
  | unexpectedEnd => "unexpected end of input"
  | expectedText text => "expected `" ++ text ++ "`"
  | expectedIdentifier => "expected identifier"
  | expectedGroup d => "expected `" ++ d.opening ++ " ... " ++ d.closing ++ "`"
  | trailingTokens => "unexpected trailing tokens"
  | expectedExpression => "expected expression"
  | expectedPattern => "expected pattern"
  | expectedGuard => "expected guard expression after `if`"
  | invalidExpression source => "invalid expression `" ++ Unicode.trim source ++ "`"
  | invalidPattern source => "invalid pattern `" ++ Unicode.trim source ++ "`"
  | invalidGuardedPattern source guard =>
    "invalid pattern or guard `" ++ Unicode.trim (source ++ " if " ++ guard) ++ "`"
  | invalidString text => "invalid string literal " ++ text
  | unknownDirective name known =>
    "unknown control directive `" ++ name ++ "` (expected one of: " ++ ", ".intercalate known ++ ")"
  | directiveInString => "control directives are not allowed in string interpolation"
  | nestedString => "string interpolation blocks cannot be nested"
  | other message => message

/-- A malformed template: what is wrong, where, and in which template. -/
structure SyntaxError where
  /-- What is wrong. -/
  problem : SyntaxProblem
  /-- The piece of text that is wrong. -/
  span : Span
  /-- The name of the template. -/
  filename : String
  deriving Repr, Inhabited

/-- The message about a malformed template. -/
def SyntaxError.diagnostic (e : SyntaxError) : Diagnostic where
  message := e.problem.message
  span := some e.span
  filename := e.filename

end TokenTemplate
