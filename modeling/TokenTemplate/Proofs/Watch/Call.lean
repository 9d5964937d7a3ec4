import TokenTemplate.Evaluation.Call
import TokenTemplate.Proofs.Watch.Iteration

/-!
# Calls that are watched

A function of a payload is called in a scope of its own, whose frame is new, so whatever its body assigns is assigned
there: `TokenTemplate.Watch.follows_callClosure`. Everything else that can be called makes values and objects, goes
through items or runs a template, and each of these is watched.
-/

namespace TokenTemplate.Watch

variable {w : Watch} {ev' ev : Evaluator} {s : Store} {args : List Value} {named : Bindings}

/-! ### Arguments -/

theorem follows_noNames (named : Bindings) : w.Follows (noNames named) (noNames named) := by
  unfold noNames
  split
  · exact .pure _
  · exact .failWith _

theorem follows_onlyNames (allowed : List String) (named : Bindings) :
    w.Follows (onlyNames allowed named) (onlyNames allowed named) := by
  unfold onlyNames
  split
  · exact .pure _
  · exact .failWith _

theorem follows_optionalArgument (args : List Value) (named : Bindings) (position : Nat) (n : String) :
    w.Follows (optionalArgument args named position n) (optionalArgument args named position n) := by
  unfold optionalArgument
  split
  · exact .failWith _
  · exact .pure _
  · exact .pure _

theorem follows_wholeArgument (v : Value) : w.Follows (wholeArgument v) (wholeArgument v) :=
  .ofExcept _

theorem follows_choiceArgument (v : Value) : w.Follows (choiceArgument v) (choiceArgument v) := by
  refine (follows_wholeArgument v).bind fun n => ?_
  split
  · exact .pure _
  · exact .failWith _

/-! ### Functions of a payload -/

theorem follows_fill (f : Evaluator.Filling) (p : BoundParameter) :
    w.Follows (Evaluator.fill f p) (Evaluator.fill f p) := by
  unfold Evaluator.fill
  extract_lets byName
  have hbyName : w.Follows byName byName := by
    dsimp only [byName]
    split
    · exact .pure _
    · exact .pure _
    · exact .failWith _
  split
  · exact .pure _
  · split
    · exact .pure _
    · exact .failWith _
  · split
    · exact .failWith _
    · exact .pure _
  · exact hbyName
  · exact (Follows.new rfl).bind fun _ => .pure _
  · exact hbyName
  · exact (Follows.new rfl).bind fun _ => .pure _

/-- **A function of a payload** is called in a scope of its own. -/
theorem follows_callClosure (hev : w.Leads ev' ev) (parameters : List BoundParameter) (body : Payload.Expr)
    (own : List String) (scope : Scope) (args : List Value) (named : Bindings) :
    w.Follows (ev'.callClosure parameters body own scope args named)
      (ev.callClosure parameters body own scope args named) := by
  refine (Follows.foldlM (fun f p _ => follows_fill f p) _).bind fun f => ?_
  split
  · exact .failWith _
  · refine fun s hs => followsFrom_enter_bind hs fun frame t _ hframe ht => ?_
    refine ((Follows.forM fun p _ => follows_bindHere hframe p.1 p.2).bind fun _ => ?_) t ht
    refine (hev.upTo (frame + 1)).eval (admits_of_apart ?_ ?_ body)
    · exact hframe
    · exact Nat.lt_succ_self frame

/-! ### Functions over items -/

theorem follows_someItem (hev : w.Leads ev' ev) (wanted : Bool) (v : Value) :
    w.Follows (ev'.someItem wanted v) (ev.someItem wanted v) := by
  refine (follows_iterate v).bind fun id => follows_loop hev (fun _ item => ?_) id _ _
  split
  · exact .pure _
  · refine (Follows.look _).bind fun holds => ?_
    split <;> exact .pure _

theorem follows_withKey (hev : w.Leads ev' ev) (key v : Value) : w.Follows (ev'.withKey key v) (ev.withKey key v) := by
  unfold Evaluator.withKey
  split
  · exact .pure _
  · exact (hev.call _ _ _).bind fun _ => .pure _

theorem follows_extreme (hev : w.Leads ev' ev) (op : Payload.CompareOp) (key v : Value) :
    w.Follows (ev'.extreme op key v) (ev.extreme op key v) := by
  refine (follows_iterate v).bind fun id =>
    (follows_loop hev (fun best item => ?_) id _ _).bind fun best => .pure _
  split
  · exact .pure _
  · refine (follows_withKey hev key _).bind fun x => ?_
    split
    · exact .pure _
    · refine (Follows.ofStore _).bind fun holds => ?_
      split <;> exact .pure _

theorem follows_extremeOf (hev : w.Leads ev' ev) (op : Payload.CompareOp) (args : List Value) (named : Bindings) :
    w.Follows (ev'.extremeOf op args named) (ev.extremeOf op args named) := by
  refine (follows_onlyNames _ named).bind fun _ => ?_
  split
  · exact .failWith _
  · refine (follows_extreme hev op _ _).bind fun best => ?_
    split
    · exact .pure _
    · exact .pure _
    · exact .failWith _
  · split
    · exact .failWith _
    · refine (Follows.new rfl).bind fun row => (follows_extreme hev op _ _).bind fun best => ?_
      split
      · exact .pure _
      · exact .failWith _

theorem follows_sortItems (hev : w.Leads ev' ev) (args : List Value) (named : Bindings) :
    w.Follows (ev'.sortItems args named) (ev.sortItems args named) := by
  refine (follows_onlyNames _ named).bind fun _ => ?_
  split
  · refine (follows_itemsOf hev _).bind fun items => ?_
    extract_lets finish' finish
    have hfinish : ∀ descending, w.Follows (finish' descending) (finish descending) := fun descending =>
      (Follows.mapM fun v _ => follows_withKey hev _ v).bind fun keyed => (Follows.ofStore _).bind fun row => .new rfl
    split
    · exact (Follows.pure _).bind hfinish
    · exact ((follows_choiceArgument _).map _).bind hfinish
  · exact .failWith _

theorem follows_sumItems (hev : w.Leads ev' ev) (args : List Value) (named : Bindings) :
    w.Follows (ev'.sumItems args named) (ev.sumItems args named) := by
  refine (follows_onlyNames _ named).bind fun _ => ?_
  split
  · split
    · exact .failWith _
    · refine (follows_optionalArgument _ named _ _).bind fun start => (follows_iterate _).bind fun id => ?_
      split
      · exact .failWith _
      · refine follows_loop hev (fun total item => ?_) id _ _
        split
        · exact .pure _
        · exact (follows_make fun s => inert_binary _ _ _).bind fun _ => .pure _
  · exact .failWith _

/-- **A function that every payload has.** -/
theorem follows_callFunction (hev : w.Leads ev' ev) (f : Function) (args : List Value) (named : Bindings) :
    w.Follows (ev'.callFunction f args named) (ev.callFunction f args named) := by
  unfold Evaluator.callFunction
  split
  · exact follows_extremeOf hev _ _ _
  · exact follows_extremeOf hev _ _ _
  · exact follows_sortItems hev _ _
  · exact follows_sumItems hev _ _
  · refine (follows_noNames named).bind fun _ => ?_
    split
    · split
      · split
        · exact .int _
        · exact .pure _
      · exact .real _
      · exact .int _
      · exact .real _
      · exact .failWith _
    · exact (follows_someItem hev _ _).bind fun _ => .pure _
    · exact (follows_someItem hev _ _).bind fun _ => .pure _
    · exact (Follows.ofStore _).bind fun _ => .pure _
    · exact (follows_iterate _).bind fun _ => .pure _
    · refine (Follows.look _).bind fun callable => ?_
      split
      · exact .new rfl
      · exact .failWith _
    · refine (Follows.look _).bind fun length => ?_
      split
      · split
        · exact .int _
        · exact .failWith _
      · exact .failWith _
    · refine (Follows.look _).bind fun o => ?_
      split
      · exact .failWith _
      · refine (hev.next _).bind fun item => ?_
        split
        · exact .pure _
        · exact .pure _
        · exact .failWith _
      · exact .failWith _
    · exact (Follows.ofStore _).bind fun _ => .text _
    · exact .failWith _

/-! ### Kinds -/

theorem follows_makeWhole (args : List Value) : w.Follows (Evaluator.makeWhole args) (Evaluator.makeWhole args) := by
  unfold Evaluator.makeWhole
  split
  · exact .int _
  · split
    · exact .int _
    · exact .failWith _
  · refine (follows_wholeArgument _).bind fun base => ?_
    split
    · exact .failWith _
    · split
      · split
        · exact .int _
        · exact .failWith _
      · exact .failWith _
  · split
    · exact .pure _
    · exact .int _
    · exact (Follows.ofExcept _).bind fun _ => .int _
    · exact .failWith _
  · exact .failWith _

theorem follows_makeReal (args : List Value) : w.Follows (Evaluator.makeReal args) (Evaluator.makeReal args) := by
  unfold Evaluator.makeReal
  split
  · exact .real _
  · split
    · exact .real _
    · exact .failWith _
  · split
    · exact .pure _
    · exact (Follows.ofExcept _).bind fun _ => .real _
    · exact .failWith _
  · exact .failWith _

theorem follows_makeDict (hev : w.Leads ev' ev) (args : List Value) (named : Bindings) :
    w.Follows (ev'.makeDict args named) (ev.makeDict args named) := by
  unfold Evaluator.makeDict
  extract_lets finish
  have hfinish : ∀ base, w.Follows (finish base) (finish base) := fun base =>
    (Follows.foldlM (fun d p _ => .ofStore _) _).bind fun entries => .new rfl
  split
  · exact (Follows.pure _).bind hfinish
  · refine (Follows.look _).bind fun o => ?_
    split
    · exact (Follows.pure _).bind hfinish
    · refine (follows_itemsOf hev _).bind fun items => Follows.bind ?_ hfinish
      refine Follows.foldlM (fun d item _ => (follows_itemsOf hev item).bind fun pair => ?_) _
      split
      · exact (Follows.ofStore _).bind fun _ => .ofStore _
      · exact .failWith _
  · exact (Follows.failWith _).bind hfinish

theorem follows_makeRange (args : List Value) : w.Follows (Evaluator.makeRange args) (Evaluator.makeRange args) := by
  refine (Follows.mapM fun v _ => follows_wholeArgument v).bind fun bounds => ?_
  split
  · exact .made _
  · exact .made _
  · split
    · exact .failWith _
    · exact .made _
  · exact .failWith _

theorem follows_makeReversed (v : Value) : w.Follows (Evaluator.makeReversed v) (Evaluator.makeReversed v) := by
  unfold Evaluator.makeReversed
  extract_lets row
  have hrow (k : Kind) (items : List Value) : w.Follows (row k items) (row k items) := .new rfl
  refine (Follows.look _).bind fun o => ?_
  split
  · exact (Follows.mapM fun c _ => .text _).bind fun texts => hrow _ _
  · exact hrow _ _
  · exact hrow _ _
  · exact (Follows.look _).bind fun entries => (Follows.mapM fun p _ => follows_entryItem _ p).bind fun _ => hrow _ _
  · refine (Follows.look _).bind fun isSequence => ?_
    split
    · exact (Follows.look _).bind fun n => .new rfl
    · exact .failWith _

theorem follows_textOfValue (v : Value) : w.Follows (Evaluator.textOfValue v) (Evaluator.textOfValue v) := by
  unfold Evaluator.textOfValue
  split
  · exact .pure _
  · exact (Follows.ofStore _).bind fun _ => .text _

/-- **A value of a kind is made.** -/
theorem follows_makeKind (hev : w.Leads ev' ev) (k : Kind) (args : List Value) (named : Bindings) :
    w.Follows (ev'.makeKind k args named) (ev.makeKind k args named) := by
  unfold Evaluator.makeKind
  split
  · exact follows_makeDict hev _ _
  · refine (follows_onlyNames _ named).bind fun _ => (follows_optionalArgument _ _ _ _).bind fun start => ?_
    refine (follows_optionalArgument _ _ _ _).bind fun iterable => ?_
    split
    · exact (follows_wholeArgument _).bind fun count => (follows_iterate _).bind fun id => .new rfl
    · exact .failWith _
  · refine (follows_onlyNames _ named).bind fun _ => ?_
    split
    · exact .text _
    · exact follows_textOfValue _
    · exact follows_textOfValue _
    · exact .failWith _
  · split
    · exact follows_makeWhole _
    · exact follows_makeWhole _
    · exact .failWith _
  · refine (follows_onlyNames _ named).bind fun _ => ?_
    extract_lets finish
    have hfinish : ∀ together, w.Follows (finish together) (finish together) := fun together =>
      (Follows.mapM fun v _ => follows_iterate v).bind fun its => .new rfl
    split
    · exact (Follows.look _).bind hfinish
    · exact (Follows.pure _).bind hfinish
  · refine (follows_noNames named).bind fun _ => ?_
    split
    · exact .pure _
    · exact (Follows.look _).bind fun _ => .pure _
    · exact follows_makeReal _
    · exact .new rfl
    · exact (follows_itemsOf hev _).bind fun items => .new rfl
    · exact .new rfl
    · refine (Follows.look _).bind fun o => ?_
      split
      · exact .pure _
      · exact (follows_itemsOf hev _).bind fun items => .new rfl
    · exact .new rfl
    · exact (follows_addAll hev _ _).bind fun table => .new rfl
    · exact follows_makeRange _
    · exact follows_makeReversed _
    · exact (Follows.look _).bind fun _ => .pure _
    · exact .failWith _

end TokenTemplate.Watch
