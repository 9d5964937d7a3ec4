import TokenTemplate.Evaluation.Statement
import TokenTemplate.Proofs.Watch.Expression

/-!
# Statements that are watched

A program runs in a scope of its own, so neither its statements nor its expressions touch the frames that are watched:
`TokenTemplate.Watch.follows_runStatement`. This is what a case is tried with, and an expression of a template is
evaluated in a scope of its own too.
-/

namespace TokenTemplate.Watch

variable {w : Watch} {ev' ev : Evaluator} {s : Store} {sc : Scope}

/-- **A scope with frames of its own**: neither its names nor what is assigned in it are in the two frames. -/
structure Spares (w : Watch) (sc : Scope) : Prop where
  /-- Its own names. -/
  frame : w.Apart sc.frame
  /-- What expressions assign, -/
  target : w.Apart sc.target
  /-- in a frame that is there. -/
  target_lt : sc.target < w.base

theorem Spares.admits (h : w.Spares sc) (e : Payload.Expr) : w.Admits sc e :=
  admits_of_apart h.target h.target_lt e

/-- The bindings of a payload, in another frame. -/
theorem spares_globals {id : Nat} (h : w.Apart id) : (w.upTo (id + 1)).Spares ⟨[], id⟩ :=
  ⟨h, h, Nat.lt_succ_self id⟩

/-- The scope of a function or of a case, in another frame. -/
theorem spares_cons {id : Nat} (h : w.Apart id) (levels : List ScopeLevel) (globals : Nat) :
    (w.upTo (id + 1)).Spares ⟨⟨id, false⟩ :: levels, globals⟩ :=
  ⟨h, h, Nat.lt_succ_self id⟩

/-! ### Taking away -/

theorem follows_deleteElement (container i : Value) :
    w.Follows (Evaluator.deleteElement container i) (Evaluator.deleteElement container i) := by
  unfold Evaluator.deleteElement
  refine .look_bind fun s hs => ?_
  split
  · next h =>
    have hid := hs.apart_of_object? h rfl
    refine ((Follows.ofStore _).bind fun found => ?_) s hs
    split
    · exact (Follows.ofStore _).bind fun e => .fail e
    · exact (Follows.ofStore _).bind fun left => .setObject_of_none hid rfl
  · next h =>
    have hid := hs.apart_of_object? h rfl
    split
    · exact Follows.failWith _ s hs
    · split
      · exact Follows.setObject_of_none hid rfl s hs
      · exact Follows.fail _ s hs
  · exact Follows.failWith _ s hs

theorem follows_deleteAttribute (v : Value) (n : String) :
    w.Follows (Evaluator.deleteAttribute v n) (Evaluator.deleteAttribute v n) := by
  unfold Evaluator.deleteAttribute
  refine .look_bind fun s hs => ?_
  split
  · next h =>
    split
    · exact Follows.setObject_of_none (hs.apart_of_object? h rfl) rfl s hs
    · exact Follows.failWith _ s hs
  · exact Follows.failWith _ s hs

theorem follows_deleteTarget (hev : w.Leads ev' ev) (hsc : w.Spares sc) (fuel : Nat) (target : Payload.Target) :
    w.Follows (ev'.deleteTarget sc fuel target) (ev.deleteTarget sc fuel target) := by
  induction fuel generalizing target with
  | zero => exact .failWith _
  | succ fuel ih =>
    unfold Evaluator.deleteTarget
    cases target with
    | name n => exact follows_unbindHere hsc.frame n
    | «attribute» e n => exact (hev.eval (hsc.admits e)).bind fun a => follows_deleteAttribute a n
    | index e i =>
      refine (hev.eval (hsc.admits e)).bind fun a => ?_
      exact (hev.eval (hsc.admits i)).bind fun b => follows_deleteElement a b
    | starred t => exact ih t
    | parts targets => exact Follows.forM fun t _ => ih t

/-! ### Guards -/

/-- **A guard may assign what it may assign.** -/
theorem follows_guardHolds (hev : w.Leads ev' ev) {guard : Option Payload.Expr}
    (hguard : ∀ e, guard = some e → w.Admits sc e) :
    w.Follows (ev'.guardHolds sc guard) (ev.guardHolds sc guard) := by
  cases guard with
  | none => exact .pure _
  | some e => exact (hev.eval (hguard e rfl)).bind fun a => .look _

theorem follows_isCase (hev : w.Leads ev' ev) (hsc : w.Spares sc) (v : Value) (p : Payload.Pattern)
    (guard : Option Payload.Expr) : w.Follows (ev'.isCase sc v p guard) (ev.isCase sc v p guard) := by
  refine (Follows.of_inspects (sc.inspects_matchPattern p v)).bind fun found => ?_
  split
  · exact .pure _
  · refine (Follows.forM fun q _ => follows_bindHere hsc.frame q.1 q.2).bind fun _ => ?_
    exact follows_guardHolds hev fun e _ => hsc.admits e

/-! ### Statements -/

theorem follows_runStatements {sts : List Payload.Statement}
    (h : ∀ st ∈ sts, w.Follows (ev'.runStatement sc st) (ev.runStatement sc st)) :
    w.Follows (ev'.runStatements sc sts) (ev.runStatements sc sts) := by
  induction sts with
  | nil =>
    rw [Evaluator.runStatements, Evaluator.runStatements]
    exact .pure _
  | cons st sts ih =>
    obtain ⟨hst, hsts⟩ := List.forall_mem_cons.1 h
    rw [Evaluator.runStatements, Evaluator.runStatements]
    refine hst.bind fun flow => ?_
    split
    · exact ih hsts
    · exact .pure _

theorem follows_runCases (hev : w.Leads ev' ev) (hsc : w.Spares sc) (v : Value)
    {arms : List (Payload.Pattern × Option Payload.Expr × List Payload.Statement)}
    (h : ∀ p g body, (p, g, body) ∈ arms → ∀ st ∈ body, w.Follows (ev'.runStatement sc st) (ev.runStatement sc st)) :
    w.Follows (ev'.runCases sc v arms) (ev.runCases sc v arms) := by
  induction arms with
  | nil =>
    rw [Evaluator.runCases, Evaluator.runCases]
    exact .pure _
  | cons arm arms ih =>
    obtain ⟨p, g, body⟩ := arm
    rw [Evaluator.runCases, Evaluator.runCases]
    refine (follows_isCase hev hsc v p g).bind fun holds => ?_
    split
    · exact follows_runStatements (h p g body List.mem_cons_self)
    · exact ih fun p g body hmem => h p g body (List.mem_cons_of_mem _ hmem)

/-- **A statement is run** in a scope with frames of its own. -/
theorem follows_runStatement (hev : w.Leads ev' ev) (hsc : w.Spares sc) (st : Payload.Statement) :
    w.Follows (ev'.runStatement sc st) (ev.runStatement sc st) := by
  unfold Evaluator.runStatement
  cases st with
  | expression e => exact (hev.eval (hsc.admits e)).discard.bind fun _ => .pure _
  | assign targets e =>
    refine (hev.eval (hsc.admits e)).bind fun a => (Follows.forM fun t _ => ?_).bind fun _ => .pure _
    exact follows_assignTarget hev hsc.frame (fun e _ => hsc.admits e) _ _
  | delete targets => exact (Follows.forM fun t _ => follows_deleteTarget hev hsc _ t).bind fun _ => .pure _
  | pass => exact .pure _
  | leave => exact .pure _
  | again => exact .pure _
  | result e =>
    cases e with
    | none => exact .pure _
    | some e => exact (hev.eval (hsc.admits e)).bind fun _ => .pure _
  | branch test yes no =>
    refine (hev.eval (hsc.admits test)).bind fun a => (Follows.look _).bind fun holds => ?_
    split
    · exact follows_runStatements fun st hst => follows_runStatement hev hsc st
    · exact follows_runStatements fun st hst => follows_runStatement hev hsc st
  | loop test body last =>
    refine follows_untilDone ?_ _
    refine (hev.eval (hsc.admits test)).bind fun a => (Follows.look _).bind fun holds => ?_
    split
    · refine (follows_runStatements fun st hst => follows_runStatement hev hsc st).bind fun flow => ?_
      split <;> exact .pure _
    · exact (follows_runStatements fun st hst => follows_runStatement hev hsc st).bind fun _ => .pure _
  | iterate target source body last =>
    refine (follows_iterateSource hev (hsc.admits source)).bind fun it => follows_loop hev (fun _ item => ?_) it _ _
    split
    · exact (follows_runStatements fun st hst => follows_runStatement hev hsc st).bind fun _ => .pure _
    · refine (follows_assignTarget hev hsc.frame (fun e _ => hsc.admits e) _ _).bind fun _ => ?_
      refine (follows_runStatements fun st hst => follows_runStatement hev hsc st).bind fun flow => ?_
      split <;> exact .pure _
  | cases subject arms =>
    refine (hev.eval (hsc.admits subject)).bind fun a => follows_runCases hev hsc a ?_
    exact fun p g body harm st hst => follows_runStatement hev hsc st
termination_by st
decreasing_by
  -- a statement of a block is smaller than the block, and a block is a part of its arm
  all_goals
    simp_wf
    try have := List.sizeOf_lt_of_mem hst
    try have := List.sizeOf_lt_of_mem harm
    grind

/-- **A program is run** in a scope with frames of its own. -/
theorem follows_program (hev : w.Leads ev' ev) (hsc : w.Spares sc) (sts : List Payload.Statement) :
    w.Follows (ev'.runStatements sc sts) (ev.runStatements sc sts) :=
  follows_runStatements fun st _ => follows_runStatement hev hsc st

/-! ### Payloads of a template -/

theorem follows_run (hev : w.Leads ev' ev) (c : Case) (v : Value) (sc : Scope) :
    w.Follows (c.run ev' v sc) (c.run ev v sc) := by
  refine fun s hs => followsFrom_enter_bind hs fun id t _ hid ht => ?_
  have hsc := spares_cons hid sc.levels sc.globals
  refine ((follows_bindHere hsc.frame _ v).bind fun _ => (follows_program (hev.upTo _) hsc _).bind fun flow => ?_) t ht
  split <;> exact .pure _

theorem report_exhausted (c : Case) (filename : String) : c.report filename .exhausted = .exhausted :=
  rfl

/-- **What a case captures.** -/
theorem follows_captures (hev : w.Leads ev' ev) (c : Case) (v : Value) (b : Bindings) (filename : String) :
    w.Follows (c.captures ev' v b filename) (c.captures ev v b filename) := by
  have hrun : w.Follows (Scope.ofBindings b >>= c.run ev' v) (Scope.ofBindings b >>= c.run ev v) :=
    fun s hs => followsFrom_ofBindings_bind hs fun id t _ _ ht => follows_run (hev.upTo _) c v _ t ht
  refine (hrun.reword (report_exhausted c filename)).bind fun a => ?_
  split
  · exact .pure _
  · refine (Follows.look _).bind fun found => ?_
    split
    · exact .pure _
    · exact .failWith _

/-- **The value of an expression of a template.** -/
theorem follows_evaluate (hev : w.Leads ev' ev) (x : Expression) (b : Bindings) (filename : String) :
    w.Follows (x.evaluate ev' b filename) (x.evaluate ev b filename) := by
  have heval : w.Follows (Scope.ofBindings b >>= fun sc => ev'.eval sc x.tree)
      (Scope.ofBindings b >>= fun sc => ev.eval sc x.tree) :=
    fun s hs => followsFrom_ofBindings_bind hs fun id t _ hid ht =>
      (hev.upTo _).eval ((spares_globals hid).admits x.tree) t ht
  exact heval.reword rfl

end TokenTemplate.Watch
