import TokenTemplate.Token.Lexeme

/-!
# From a source to its token tree

The row of lexemes is folded into a tree with a stack of open groups, `TokenTemplate.assemble`, which
stops at the first closing delimiter that does not match. `TokenTemplate.Tree.ofSource` puts the stages
together, and with them the order in which their complaints count: whatever is wrong further left comes
first, be it a stray character or a closing delimiter; then a group that is still open at the end; and
only for a source that is well formed otherwise, the first group that lies too deep.
-/

namespace TokenTemplate

/-! ### Groups -/

/-- A group whose closing delimiter has not been met. -/
structure OpenGroup where
  /-- Its delimiters. -/
  delimiter : Delimiter
  /-- Where its first delimiter stands. -/
  opener : Span
  /-- The tokens before it on its level, the last one first. -/
  before : List Tree

/-- Folding a row of lexemes into open groups and the tokens of the innermost level, the last one
first; fails with the first closing delimiter that matches no open group. -/
def assemble (groups : List OpenGroup) (level : List Tree) :
    List Lexeme → Except (Delimiter × Span) (List OpenGroup × List Tree)
  | [] => .ok (groups, level)
  | l :: ls =>
    match l.kind with
    | .leaf k => assemble groups (.leaf ⟨k, l.text, l.span⟩ :: level) ls
    | .opening d => assemble (⟨d, l.span, level⟩ :: groups) [] ls
    | .closing d =>
      match groups with
      | [] => .error (d, l.span)
      | g :: groups =>
        if g.delimiter = d then
          assemble groups (.group d level.reverse (g.opener.join l.span) :: g.before) ls
        else .error (d, l.span)

/-! ### Sources -/

/-- The span of a whole source. -/
def Span.ofSource (source : List Char) : Span :=
  Span.ofText Position.origin 0 source

/-- What is wrong where no token begins. -/
def Stray.problem (s : Stray) : SyntaxProblem :=
  if s.char = '"' then .unterminatedString else .unexpectedCharacter s.char

/-- The single character where no token begins. -/
def Stray.span (s : Stray) : Span :=
  ⟨s.position, s.position.right, s.pos, s.pos + 1⟩

/-- **The token tree of a source.** -/
def Tree.ofSource (settings : Settings) (source : List Char) : Except SyntaxError (List Tree) :=
  let fail (problem : SyntaxProblem) (span : Span) : Except SyntaxError (List Tree) :=
    .error ⟨problem, span, settings.filename⟩
  let (row, stray) := scan source
  match assemble [] [] row, stray with
  | .error (d, span), _ => fail (.unbalancedClosing d) span
  | .ok _, some s => fail s.problem s.span
  | .ok (_ :: _, _), none =>
    let whole := Span.ofSource source
    fail .unterminatedGroup (.point whole.stop whole.stopPos)
  | .ok ([], level), none =>
    match Tree.anyTooDeep? settings.maxDepth level.reverse with
    | some span => fail (.tooDeep settings.maxDepth) span
    | none => .ok level.reverse

end TokenTemplate
