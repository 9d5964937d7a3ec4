import TokenTemplate.Source.Diagnostic
import TokenTemplate.Unicode.Blank

/-!
# Faults

What can go wrong when a routine runs. Payloads raise errors of several kinds,
`TokenTemplate.ErrorKind`, and most of these are reported as a `TokenTemplate.RenderError`, which says
which payload failed, where it stands, and why. The wording is in one place,
`TokenTemplate.RenderProblem.message`; a cause is explained only if its kind says so,
`TokenTemplate.ErrorKind.isExplained`.

A run can also come to the end of its means, which is no error of a payload.
-/

namespace TokenTemplate

/-- The kinds of errors that payloads raise. -/
inductive ErrorKind
  /-- An operation on values that it is not made for. -/
  | type
  /-- An operation on an unsuitable value of the right kind. -/
  | value
  /-- A key that a dictionary does not have. -/
  | key
  /-- A position that a sequence does not have. -/
  | index
  /-- A name that nothing binds. -/
  | name
  /-- A name of the scope itself that is not bound yet. -/
  | unboundLocal
  /-- An attribute that a value does not have. -/
  | attribute
  /-- A division by zero. -/
  | zeroDivision
  /-- A number too large to be represented. -/
  | overflow
  /-- A next item where there is none. -/
  | stopIteration
  /-- A recursion that does not end. -/
  | recursion
  /-- A value too large to be stored. -/
  | memory
  /-- Anything else. -/
  | runtime
  deriving DecidableEq, Repr, Inhabited

namespace ErrorKind

/-- The name of a kind of error. -/
def label : ErrorKind → String
  | .type => "TypeError"
  | .value => "ValueError"
  | .key => "KeyError"
  | .index => "IndexError"
  | .name => "NameError"
  | .unboundLocal => "UnboundLocalError"
  | .attribute => "AttributeError"
  | .zeroDivision => "ZeroDivisionError"
  | .overflow => "OverflowError"
  | .stopIteration => "StopIteration"
  | .recursion => "RecursionError"
  | .memory => "MemoryError"
  | .runtime => "RuntimeError"

/-- Whether a report of a failed payload explains errors of this kind. -/
def isExplained : ErrorKind → Bool
  | key | index | name | zeroDivision => true
  | _ => false

end ErrorKind

/-- An error of a payload, with an explanation if there is one. -/
structure PayloadError where
  /-- Its kind. -/
  kind : ErrorKind
  /-- What is wrong in particular. -/
  detail : Option String := none
  deriving DecidableEq, Repr, Inhabited

/-- Why a payload failed. -/
inductive Cause
  /-- An error of its own. -/
  | payload (e : PayloadError)
  /-- The failure of another template that it rendered. -/
  | template
  deriving DecidableEq, Repr

namespace Cause

/-- The name of a cause. -/
def label : Cause → String
  | payload e => e.kind.label
  | template => "RenderError"

/-- What a report adds about a cause. -/
def explanation : Cause → String
  | payload e => if e.kind.isExplained then (e.detail.map (": " ++ ·)).getD "" else ""
  | template => ""

end Cause

/-- What a run reports. -/
inductive RenderProblem
  /-- A name to splice that is not bound. -/
  | unknownIdentifier (name : String)
  /-- An expression whose evaluation failed. -/
  | evaluation (source : String) (cause : Cause)
  /-- A pattern that could not be matched. -/
  | matching (source : String) (cause : Cause)
  /-- A loop source without items. -/
  | notIterable (source : String)
  /-- A loop item, as it is shown, that does not match the loop pattern. -/
  | itemMismatch (item source : String)
  deriving DecidableEq, Repr

namespace RenderProblem

/-- **The wording of a report.** -/
def message : RenderProblem → String
  | unknownIdentifier n => "unknown identifier '" ++ n ++ "'"
  | evaluation source cause =>
    "evaluating `" ++ Unicode.trim source ++ "` failed" ++ cause.explanation
  | matching source cause => "matching `" ++ Unicode.trim source ++ "` failed" ++ cause.explanation
  | notIterable source => "`" ++ Unicode.trim source ++ "` is not iterable"
  | itemMismatch item source =>
    "loop item " ++ item ++ " does not match `" ++ Unicode.trim source ++ "`"

/-- The cause, if the report is about the failure of a payload. -/
def cause? : RenderProblem → Option Cause
  | evaluation _ c => some c
  | matching _ c => some c
  | _ => none

end RenderProblem

/-- A report: what failed, where it stands, and in which template. -/
structure RenderError where
  /-- What failed. -/
  problem : RenderProblem
  /-- The payload or name that failed. -/
  span : Span
  /-- The name of the template. -/
  filename : String
  deriving DecidableEq, Repr

/-- The message about a report. -/
def RenderError.diagnostic (e : RenderError) : Diagnostic where
  message := e.problem.message
  span := some e.span
  filename := e.filename

/-- How a run can fail. -/
inductive Fault
  /-- An error that a payload raised. -/
  | raised (e : PayloadError)
  /-- A report. -/
  | reported (e : RenderError)
  /-- The means of the run are at an end. -/
  | exhausted
  deriving DecidableEq, Repr

namespace Fault

/-- An error without an explanation. -/
def ofKind (k : ErrorKind) : Fault :=
  raised ⟨k, none⟩

/-- An error with an explanation. -/
def explained (k : ErrorKind) (detail : String) : Fault :=
  raised ⟨k, some detail⟩

/-- A fault as the cause of another one; the end of all means is none. -/
def cause? : Fault → Option Cause
  | raised e => some (.payload e)
  | reported _ => some .template
  | exhausted => none

end Fault

end TokenTemplate
