import TokenTemplate.Proofs.Watch.Method
import TokenTemplate.Proofs.Watch.Statement
import TokenTemplate.Run.Depth

/-!
# Runs that are watched

The evaluator of a given depth leads itself, so nothing that it evaluates touches the frames that are watched unless an
expression assigns names there. `TokenTemplate.Evaluator.stoppingAt` is the same evaluator, but for one thing: it comes
to its end where an expression assigns a given name in a given frame. By `TokenTemplate.Watch.leads_stoppingAt` the two
do the same up to there, and this is how it is said that an assignment is evaluated at all.
-/

namespace TokenTemplate

namespace Evaluator

/-- Stops where a name has been assigned in a frame. -/
def stopAfter (own : Option Nat) (name : String) (sc : Scope) (e : Payload.Expr) (v : Value) : Action Value :=
  match e with
  | .assign n _ => if n = name ∧ own = some sc.target then Action.fail .exhausted else return v
  | _ => return v

/-- **The evaluator that stops where a name is assigned in a frame**, and is the one of a given depth otherwise, as it
always is without a frame. -/
def stoppingAt (own : Option Nat) (name : String) : (depth calls : Nat) → Evaluator
  | 0, _ => atEnd
  | _ + 1, 0 => atEnd
  | depth + 1, calls + 1 =>
    { eval := fun sc e => (stoppingAt own name depth (calls + 1)).evalExpr sc e >>= stopAfter own name sc e
      call := fun f args named => (stoppingAt own name depth calls).callValue f args named
      next := fun id => (stoppingAt own name depth calls).nextItem id
      populate := fun t id b => t.run (stoppingAt own name depth calls) id b }

end Evaluator

namespace Watch

variable {w : Watch} {ev' ev : Evaluator} {target : Nat} {env : Environment} {filename : String}

/-! ### Routines -/

theorem follows_segment (hev : w.Leads ev' ev) (segment : Segment) :
    w.Follows (Segment.text ev' env filename segment) (Segment.text ev env filename segment) := by
  cases segment with
  | literal t => exact .pure _
  | site e =>
    refine (follows_evaluate hev e _ filename).bind fun a => ?_
    split
    · exact .pure _
    · exact .ofStore _

theorem follows_loopItems (source : Expression) (filename : String) (v : Value) :
    w.Follows (Evaluator.loopItems source filename v) (Evaluator.loopItems source filename v) :=
  (follows_iterate v).reword rfl

theorem follows_loopCaptures (hev : w.Leads ev' ev) (pattern : Case) (env : Environment) (filename : String)
    (v : Value) : w.Follows (ev'.loopCaptures pattern env filename v) (ev.loopCaptures pattern env filename v) := by
  refine (follows_captures hev pattern v _ filename).bind fun found => ?_
  split
  · exact .pure _
  · exact (Follows.ofStore _).bind fun _ => .fail _

theorem follows_loopTurn (hev : w.Leads ev' ev) (pattern : Case) {body' body join' join : Environment → Action Unit}
    (hbody : ∀ env, w.Follows (body' env) (body env)) (hjoin : ∀ env, w.Follows (join' env) (join env))
    (previous : Option Environment) (item : Option Value) :
    w.Follows (ev'.loopTurn pattern env filename body' join' previous item)
      (ev.loopTurn pattern env filename body join previous item) := by
  unfold Evaluator.loopTurn
  split
  · exact .pure _
  · refine (follows_loopCaptures hev pattern env filename _).bind fun captured => ?_
    dsimp only
    split
    · exact (hjoin _).bind fun _ => (hbody _).bind fun _ => .pure _
    · exact (Follows.pure _).bind fun _ => (hbody _).bind fun _ => .pure _

theorem follows_executeAll {is : List Instruction}
    (h : ∀ i ∈ is, ∀ env, w.Follows (i.execute ev' target env filename) (i.execute ev target env filename))
    (env : Environment) :
    w.Follows (executeAll ev' target env filename is) (executeAll ev target env filename is) := by
  induction is with
  | nil =>
    rw [executeAll, executeAll]
    exact .pure _
  | cons i is ih =>
    obtain ⟨hi, his⟩ := List.forall_mem_cons.1 h
    rw [executeAll, executeAll]
    exact (hi env).bind fun _ => ih his

theorem follows_executeArms (hev : w.Leads ev' ev) {arms : List (Case × Routine)}
    (h : ∀ c r, (c, r) ∈ arms → ∀ env, w.Follows (r.execute ev' target env) (r.execute ev target env))
    (env : Environment) (v : Value) :
    w.Follows (executeArms ev' target env filename v arms) (executeArms ev target env filename v arms) := by
  induction arms with
  | nil =>
    rw [executeArms, executeArms]
    exact .pure _
  | cons arm rest ih =>
    obtain ⟨c, body⟩ := arm
    rw [executeArms, executeArms]
    refine (follows_captures hev c v _ filename).bind fun found => ?_
    split
    · exact h c body List.mem_cons_self _
    · exact ih fun c r hmem => h c r (List.mem_cons_of_mem _ hmem)

/-- **An instruction is executed.** -/
theorem follows_execute (hev : w.Leads ev' ev) (i : Instruction) (env : Environment) (filename : String) :
    w.Follows (i.execute ev' target env filename) (i.execute ev target env filename) := by
  induction hsize : sizeOf i using Nat.strongRecOn generalizing i env filename with
  | ind size ih =>
    subst hsize
    -- the routines of an instruction are smaller, and so are their instructions
    have hroutine : ∀ r : Routine, sizeOf r < sizeOf i → ∀ env,
        w.Follows (r.execute ev' target env) (r.execute ev target env) := by
      intro r hr env
      obtain ⟨receiver, instructions, filename⟩ := r
      rw [Routine.execute, Routine.execute]
      refine follows_executeAll (fun i' hi' env => ih (sizeOf i') ?_ i' env filename rfl) env
      have hlt := List.sizeOf_lt_of_mem hi'
      rw [Routine.mk.sizeOf_spec] at hr
      omega
    have hoptional : ∀ r : Option Routine, sizeOf r < sizeOf i → ∀ env,
        w.Follows (executeOptional ev' target r env) (executeOptional ev target r env) := by
      intro r hr env
      cases r with
      | none =>
        rw [executeOptional, executeOptional]
        exact .pure _
      | some r =>
        rw [executeOptional, executeOptional]
        rw [Option.some.sizeOf_spec] at hr
        exact hroutine r (by omega) env
    unfold Instruction.execute
    cases i with
    | append text => exact .writeText target text
    | layout a => exact .writeSpace target a
    | spliceName n span =>
      dsimp only
      split
      · exact follows_write hev target _
      · exact .fail _
    | splice e => exact (follows_evaluate hev e _ filename).bind fun a => follows_write hev target a
    | interpolate segments =>
      exact (Follows.mapM fun segment _ => follows_segment hev segment).bind fun _ => .writeText _ _
    | branch condition yes no =>
      rw [Instruction.branch.sizeOf_spec] at hroutine hoptional
      refine (follows_evaluate hev condition _ filename).bind fun a => (Follows.look _).bind fun holds => ?_
      split
      · exact hroutine yes (by omega) env
      · exact hoptional no (by omega) env
    | iterate pattern source body join =>
      rw [Instruction.iterate.sizeOf_spec] at hroutine hoptional
      refine (follows_evaluate hev source _ filename).bind fun a => ?_
      refine (follows_loopItems source filename a).bind fun it => ?_
      exact follows_loop hev (follows_loopTurn hev pattern (hroutine body (by omega)) (hoptional join (by omega))) it _ _
    | dispatch subject arms =>
      rw [Instruction.dispatch.sizeOf_spec] at hroutine
      refine (follows_evaluate hev subject _ filename).bind fun a => ?_
      refine follows_executeArms hev (fun c r harm => hroutine r ?_) env a
      have hlt := List.sizeOf_lt_of_mem harm
      rw [Prod.mk.sizeOf_spec] at hlt
      omega
    | rebind name body =>
      rw [Instruction.rebind.sizeOf_spec] at hroutine
      cases name with
      | none => exact hroutine body (by omega) _
      | some n => exact hroutine body (by omega) _
    | unsupported text => exact .fail _

/-- **A template is run.** -/
theorem follows_template (hev : w.Leads ev' ev) (t : Template) (target : Nat) (b : Bindings) :
    w.Follows (t.run ev' target b) (t.run ev target b) := by
  unfold Template.run
  split
  · exact .failWith _
  · unfold Routine.run
    obtain ⟨receiver, instructions, filename⟩ := t.routine
    rw [Routine.execute, Routine.execute]
    exact follows_executeAll (fun i _ env => follows_execute hev i env filename) _

/-! ### All levels -/

theorem leads_atEnd (w : Watch) : w.Leads .atEnd .atEnd :=
  fun _ => ⟨fun _ => .failWith _, fun _ _ _ => .failWith _, fun _ => .failWith _, fun _ _ _ => .failWith _⟩

/-- **An assignment** is made in one of the frames that are watched, and then the one evaluator stops if the name is the
one that it looks for; or it is made in another frame. -/
theorem follows_evalAssign (hev : w.Leads ev' ev) {sc : Scope} {n : String} {e : Payload.Expr}
    (he : w.Admits sc (.assign n e)) :
    w.Follows (ev'.evalExpr sc (.assign n e) >>= Evaluator.stopAfter w.own w.name sc (.assign n e))
      (ev.evalExpr sc (.assign n e)) := by
  simp only [Evaluator.evalExpr, bind_assoc, pure_bind, Scope.assign_eq]
  refine (hev.eval (he.part List.mem_cons_self)).bind fun v => ?_
  by_cases htarget : w.own = some sc.target
  · intro s hs
    refine ⟨[(n, v)], hs.moves_assign htarget he.target_ne (he.allows htarget n .assign) v, ?_⟩
    rw [List.map_singleton, List.mem_singleton]
    by_cases hn : n = w.name
    · rw [Evaluator.stopAfter, if_pos ⟨hn, htarget⟩]
      exact .inr ⟨rfl, hn.symm⟩
    · rw [Evaluator.stopAfter, if_neg fun h => hn h.1]
      exact .inl ⟨rfl, Ne.symm hn⟩
  · refine (follows_bindIn ⟨htarget, he.target_ne⟩ n v).bind fun _ => ?_
    rw [Evaluator.stopAfter, if_neg fun h => htarget h.2]
    exact .pure v

/-- **The evaluator that stops at an assignment** does the same as the other one of its depth up to there, and neither of
them touches the frames that are watched in another way. -/
theorem leads_stoppingAt (w : Watch) (depth calls : Nat) :
    w.Leads (.stoppingAt w.own w.name depth calls) (.ofDepth depth calls) := by
  induction depth generalizing calls with
  | zero =>
    rw [Evaluator.stoppingAt, Evaluator.ofDepth]
    exact leads_atEnd w
  | succ depth ih =>
    cases calls with
    | zero =>
      rw [Evaluator.stoppingAt, Evaluator.ofDepth]
      exact leads_atEnd w
    | succ calls =>
      rw [Evaluator.stoppingAt, Evaluator.ofDepth]
      refine fun base => ⟨fun {sc e} he => ?_, follows_callValue ((ih calls).upTo base),
        follows_nextItem ((ih calls).upTo base), follows_template ((ih calls).upTo base)⟩
      by_cases hassign : ∃ n e', e = .assign n e'
      · obtain ⟨n, e', rfl⟩ := hassign
        exact follows_evalAssign ((ih (calls + 1)).upTo base) he
      · have hne : ∀ n e', e ≠ .assign n e' := fun n e' h => hassign ⟨n, e', h⟩
        have hstop : Evaluator.stopAfter w.own w.name sc e = pure := by
          funext v
          unfold Evaluator.stopAfter
          split
          · exact absurd rfl (hne _ _)
          · rfl
        dsimp only
        rw [hstop, bind_pure]
        exact follows_evalExpr ((ih (calls + 1)).upTo base) he hne

end Watch

end TokenTemplate
