import TokenTemplate.Evaluation.Expression
import TokenTemplate.Proofs.Watch.Call

/-!
# Expressions that are watched

Evaluating an expression assigns what the expression assigns in its scope and nothing else:
`TokenTemplate.Watch.follows_evalExpr`. The parts of the expression are evaluated by the evaluators of the levels
below, so the only new assignment is the one of an expression `n := e`, and the two evaluators have to be compared
there.
-/

namespace TokenTemplate.Watch

variable {w : Watch} {ev' ev : Evaluator} {s : Store} {sc : Scope}

/-! ### Displays -/

theorem follows_evalItems (hev : w.Leads ev' ev) {items : List Payload.Expr} (hitems : ∀ e ∈ items, w.Admits sc e) :
    w.Follows (ev'.evalItems sc items) (ev.evalItems sc items) := by
  induction items with
  | nil => exact .pure _
  | cons e items ih =>
    obtain ⟨he, hrest⟩ := List.forall_mem_cons.1 hitems
    have ih := ih hrest
    unfold Evaluator.evalItems
    split
    · next heq => exact absurd heq (by simp)
    · next e' items' heq =>
      obtain ⟨rfl, rfl⟩ := List.cons.inj heq
      have he' : w.Admits sc e' := he.part (by simp [Payload.Expr.parts])
      refine (hev.eval he').bind fun a => (follows_itemsOf hev a).bind fun vs => ?_
      exact ih.bind fun more => .pure _
    · next e' items' _ heq =>
      obtain ⟨rfl, rfl⟩ := List.cons.inj heq
      exact (hev.eval he).bind fun a => ih.bind fun more => .pure _

theorem follows_evalSet (hev : w.Leads ev' ev) {items : List Payload.Expr} (hitems : ∀ e ∈ items, w.Admits sc e) :
    w.Follows (ev'.evalSet sc items) (ev.evalSet sc items) := by
  have hplain : ∀ e ∈ items.takeWhile fun e => !e.isStarred, w.Admits sc e :=
    fun e he => hitems e ((List.takeWhile_sublist _).subset he)
  refine (follows_evalItems hev hplain).bind fun vs => (Follows.ofStore _).bind fun table => ?_
  refine Follows.foldlM (fun table e he => ?_) _
  have he := hitems e (List.mem_of_mem_drop he)
  split
  · next e' =>
    exact (hev.eval (he.part (by simp [Payload.Expr.parts]))).bind fun a => follows_addAll hev table a
  · exact (hev.eval he).bind fun a => .ofStore _

theorem follows_evalEntries (hev : w.Leads ev' ev) {entries : List Payload.Entry}
    (hentries : ∀ e ∈ entries.flatMap Payload.Entry.parts, w.Admits sc e) (d : List (Value × Value)) :
    w.Follows (ev'.evalEntries sc entries d) (ev.evalEntries sc entries d) := by
  induction entries generalizing d with
  | nil => exact .pure _
  | cons entry entries ih =>
    rw [List.flatMap_cons] at hentries
    obtain ⟨hentry, hrest⟩ := List.forall_mem_append.1 hentries
    have ih := ih hrest
    cases entry with
    | pair k e =>
      obtain ⟨hk, he⟩ := List.forall_mem_cons.1 hentry
      refine (hev.eval hk).bind fun key => (hev.eval (List.forall_mem_singleton.1 he)).bind fun a => ?_
      exact (Follows.ofStore _).bind fun _ => (Follows.ofStore _).bind ih
    | spread e =>
      refine (hev.eval (List.forall_mem_singleton.1 hentry)).bind fun a => (Follows.look _).bind fun o => ?_
      split
      · exact (Follows.ofStore _).bind ih
      · exact .failWith _

theorem follows_evalBound (hev : w.Leads ev' ev) {e : Option Payload.Expr} (he : ∀ x ∈ e.toList, w.Admits sc x) :
    w.Follows (ev'.evalBound sc e) (ev.evalBound sc e) := by
  cases e with
  | none => exact .pure _
  | some e => exact hev.eval (he e List.mem_cons_self)

/-- The bounds of a slice. -/
theorem admits_of_slice {low high step : Option Payload.Expr} (h : w.Admits sc (.slice low high step)) :
    (∀ e ∈ low.toList, w.Admits sc e) ∧ (∀ e ∈ high.toList, w.Admits sc e) ∧ ∀ e ∈ step.toList, w.Admits sc e := by
  have hpart : ∀ e ∈ low.toList ++ high.toList ++ step.toList, w.Admits sc e := fun e he => h.part he
  refine ⟨fun e he => hpart e ?_, fun e he => hpart e ?_, fun e he => hpart e ?_⟩ <;> simp [he]

/-! ### Comparisons -/

theorem follows_compareValues (hev : w.Leads ev' ev) (op : Payload.CompareOp) (v v' : Value) :
    w.Follows (ev'.compareValues op v v') (ev.compareValues op v v') := by
  unfold Evaluator.compareValues
  split
  · exact .ofStore _
  · exact .ofStore _
  · exact follows_contains hev _ _
  · exact (follows_contains hev _ _).map _
  · exact .look _
  · exact .look _
  · exact .ofStore _

theorem follows_compareOperands (hev : w.Leads ev' ev) (op : Payload.CompareOp) (left right : Payload.Expr)
    (v v' : Value) :
    w.Follows (ev'.compareOperands op left right v v') (ev.compareOperands op left right v v') := by
  unfold Evaluator.compareOperands
  split
  · exact .look _
  · exact .look _
  · exact follows_compareValues hev _ _ _

theorem follows_evalChain (hev : w.Leads ev' ev) (left : Payload.Expr) (v : Value)
    {rest : List (Payload.CompareOp × Payload.Expr)} (hrest : ∀ e ∈ rest.map Prod.snd, w.Admits sc e) :
    w.Follows (ev'.evalChain sc left v rest) (ev.evalChain sc left v rest) := by
  induction rest generalizing left v with
  | nil => exact .pure _
  | cons p rest ih =>
    rw [List.map_cons] at hrest
    obtain ⟨he, hrest⟩ := List.forall_mem_cons.1 hrest
    rw [Evaluator.evalChain, Evaluator.evalChain]
    refine (hev.eval he).bind fun a => (follows_compareOperands hev _ _ _ _ _).bind fun holds => ?_
    split
    · exact ih _ _ hrest
    · exact .pure _

/-! ### Elements and attributes -/

theorem follows_elementAt (v i : Value) : w.Follows (Evaluator.elementAt v i) (Evaluator.elementAt v i) := by
  unfold Evaluator.elementAt
  refine (Follows.look _).bind fun o => ?_
  split
  · refine (Follows.ofStore _).bind fun found => ?_
    split
    · exact .pure _
    · exact (Follows.ofStore _).bind fun e => .fail e
  · refine (Follows.look _).bind fun isSequence => ?_
    split
    · exact .failWith _
    · refine (Follows.look _).bind fun index => ?_
      split
      · refine (Follows.look _).bind fun length => (Follows.look _).bind fun found => ?_
        split
        · exact follows_givenBy _ _
        · exact (Follows.look _).bind fun e => .fail e
      · exact follows_make fun s => inert_slice _ _ _ _
      · exact .failWith _

/-! ### Calls and functions -/

theorem follows_evalArguments (hev : w.Leads ev' ev) {arguments : List Payload.Argument}
    (harguments : ∀ e ∈ arguments.map Payload.Argument.part, w.Admits sc e) :
    w.Follows (ev'.evalArguments sc arguments) (ev.evalArguments sc arguments) := by
  induction arguments with
  | nil => exact .pure _
  | cons argument arguments ih =>
    rw [List.map_cons] at harguments
    obtain ⟨he, hrest⟩ := List.forall_mem_cons.1 harguments
    have ih := ih hrest
    cases argument with
    | positional e =>
      refine (follows_evalItems hev (List.forall_mem_singleton.2 he)).bind fun vs => ?_
      exact ih.bind fun p => .pure _
    | keyword n e =>
      refine (hev.eval he).bind fun a => ih.bind fun p => ?_
      dsimp only
      split
      · exact .failWith _
      · exact .pure _
    | spread e =>
      refine (hev.eval he).bind fun a => (Follows.look _).bind fun o => ?_
      split
      · refine (Follows.mapM fun p _ => ?_).bind fun more => ih.bind fun p => ?_
        · split
          · exact .pure _
          · exact .failWith _
        · dsimp only
          split
          · exact .failWith _
          · exact .pure _
      · exact .failWith _

theorem follows_bindParameter (hev : w.Leads ev' ev) {p : Payload.Parameter}
    (hp : ∀ e, p.default? = some e → w.Admits sc e) :
    w.Follows (ev'.bindParameter sc p) (ev.bindParameter sc p) := by
  obtain ⟨n, kind, default⟩ := p
  cases default with
  | none => exact .pure _
  | some e => exact (hev.eval (hp e rfl)).bind fun a => .pure _

theorem inert_setOf (s : Store) (items : List Value) : Inert (setOf s items) :=
  Inert.bind fun _ => inert_object rfl

theorem follows_collectForm (hev : w.Leads ev' ev) (form : Payload.Form) (id : Nat) :
    w.Follows (ev'.collectForm form id) (ev.collectForm form id) := by
  unfold Evaluator.collectForm
  split
  · exact .pure _
  · exact (follows_collect hev id).bind fun items => .new rfl
  · exact (follows_collect hev id).bind fun items => follows_make fun s => inert_setOf s items
  · exact (follows_collect hev id).bind fun pairs => (Follows.ofStore _).bind fun entries => .new rfl

/-! ### Expressions -/

/-- **The value of an expression** that is no assignment itself. -/
theorem follows_evalExpr (hev : w.Leads ev' ev) {e : Payload.Expr} (he : w.Admits sc e)
    (hne : ∀ n e', e ≠ .assign n e') :
    w.Follows (ev'.evalExpr sc e) (ev.evalExpr sc e) := by
  -- parts are evaluated in the same scope, and there the evaluator leads by assumption
  have hpart : ∀ e' ∈ e.parts, w.Follows (ev'.eval sc e') (ev.eval sc e') := fun e' he' => hev.eval (he.part he')
  cases e with
  | constant => exact .pure _
  | name => exact .ofStore _
  | tuple => exact (follows_evalItems hev fun e' he' => he.part he').bind fun vs => .new rfl
  | list => exact (follows_evalItems hev fun e' he' => he.part he').bind fun vs => .new rfl
  | set =>
    rw [Evaluator.evalExpr, Evaluator.evalExpr]
    split
    · refine (follows_evalItems hev fun e' he' => he.part he').bind fun vs => follows_make fun s => ?_
      exact Inert.bind fun table => inert_object rfl
    · exact (follows_evalSet hev fun e' he' => he.part he').bind fun table => .new rfl
  | dict => exact (follows_evalEntries hev (fun e' he' => he.part he') []).bind fun d => .new rfl
  | starred => exact .failWith _
  | unary =>
    refine (hpart _ (by simp [Payload.Expr.parts])).bind fun a => follows_make fun s => ?_
    exact Inert.bind fun b => inert_value _
  | binary =>
    refine (hpart _ (by simp [Payload.Expr.parts])).bind fun a => ?_
    exact (hpart _ (by simp [Payload.Expr.parts])).bind fun b => follows_binary hev _ a b
  | both =>
    refine (hpart _ (by simp [Payload.Expr.parts])).bind fun a => (Follows.look _).bind fun holds => ?_
    split
    · exact hpart _ (by simp [Payload.Expr.parts])
    · exact .pure _
  | either =>
    refine (hpart _ (by simp [Payload.Expr.parts])).bind fun a => (Follows.look _).bind fun holds => ?_
    split
    · exact .pure _
    · exact hpart _ (by simp [Payload.Expr.parts])
  | compare =>
    refine (hpart _ (by simp [Payload.Expr.parts])).bind fun a => follows_evalChain hev _ a fun e' he' => ?_
    exact he.part (List.mem_cons_of_mem _ he')
  | conditional =>
    refine (hpart _ (by simp [Payload.Expr.parts])).bind fun a => (Follows.look _).bind fun holds => ?_
    split <;> exact hpart _ (by simp [Payload.Expr.parts])
  | assign n e' => exact absurd rfl (hne n e')
  | «attribute» =>
    exact (hpart _ (by simp [Payload.Expr.parts])).bind fun a => .of_inspects (Evaluator.inspects_attributeOf a _)
  | index e' i =>
    -- an index that is a slice is not evaluated as an expression of its own
    have helement : w.Follows (ev'.eval sc e' >>= fun v => ev'.eval sc i >>= Evaluator.elementAt v)
        (ev.eval sc e' >>= fun v => ev.eval sc i >>= Evaluator.elementAt v) :=
      (hpart e' (by simp [Payload.Expr.parts])).bind fun v =>
        (hpart i (by simp [Payload.Expr.parts])).bind fun a => follows_elementAt v a
    cases i with
    | slice low high step =>
      have hslice : w.Admits sc (.slice low high step) := he.part (by simp [Payload.Expr.parts])
      obtain ⟨hlow, hhigh, hstep⟩ := admits_of_slice hslice
      refine (hpart e' (by simp [Payload.Expr.parts])).bind fun v => (follows_evalBound hev hlow).bind fun a => ?_
      refine (follows_evalBound hev hhigh).bind fun b => (follows_evalBound hev hstep).bind fun c => ?_
      exact follows_make fun s => inert_slice _ _ _ _
    | _ => exact helement
  | slice low high step =>
    obtain ⟨hlow, hhigh, hstep⟩ := admits_of_slice he
    refine (follows_evalBound hev hlow).bind fun a => (follows_evalBound hev hhigh).bind fun b => ?_
    exact (follows_evalBound hev hstep).bind fun c => .new rfl
  | call =>
    refine (hpart _ (by simp [Payload.Expr.parts])).bind fun f => ?_
    refine (follows_evalArguments hev fun e' he' => he.part (List.mem_cons_of_mem _ he')).bind fun p => ?_
    dsimp only
    split
    · exact follows_locals sc
    · exact hev.call _ _ _
  | lambda parameters body own =>
    refine (Follows.mapM fun p hp => follows_bindParameter hev fun e' he' => he.part ?_).bind fun ps => .new rfl
    exact List.mem_filterMap.2 ⟨p, hp, he'⟩
  | comprehension => exact (follows_comprehension hev he).bind fun id => follows_collectForm hev _ id

end TokenTemplate.Watch
