import TokenTemplate.Proofs.Veil.Iteration
import TokenTemplate.Proofs.Watch.Operator

/-!
# Iterators that are watched

The next item of an iterator, `TokenTemplate.Watch.follows_nextItem`. A comprehension is an iterator that evaluates
expressions: what it evaluates may be evaluated in its scope, since this is so of all comprehensions in a store that is
watched, and its own names are bound in another frame.
-/

namespace TokenTemplate.Watch

variable {w : Watch} {ev' ev : Evaluator} {s : Store} {sc : Scope}

/-! ### Assigning an item -/

theorem follows_setElement (container i v : Value) :
    w.Follows (Evaluator.setElement container i v) (Evaluator.setElement container i v) := by
  unfold Evaluator.setElement
  refine .look_bind fun s hs => ?_
  split
  · next h =>
    have hid := hs.apart_of_object? h rfl
    exact ((Follows.ofStore _).bind fun _ => (Follows.ofStore _).bind fun d => .setObject_of_none hid rfl) s hs
  · next h =>
    have hid := hs.apart_of_object? h rfl
    split
    · exact Follows.failWith _ s hs
    · split
      · exact Follows.setObject_of_none hid rfl s hs
      · exact Follows.fail _ s hs
  · exact Follows.failWith _ s hs

theorem follows_setAttribute (v : Value) (n : String) (v' : Value) :
    w.Follows (Evaluator.setAttribute v n v') (Evaluator.setAttribute v n v') := by
  unfold Evaluator.setAttribute
  refine .look_bind fun s hs => ?_
  split
  · next h => exact Follows.setObject_of_none (hs.apart_of_object? h rfl) rfl s hs
  · exact Follows.failWith _ s hs

/-- The expressions in one of some targets. -/
theorem mem_allExprs {targets : List Payload.Target} {t : Payload.Target} (ht : t ∈ targets) {e : Payload.Expr}
    (he : e ∈ t.exprs) : e ∈ Payload.Target.allExprs targets := by
  induction targets with
  | nil => exact absurd ht List.not_mem_nil
  | cons u targets ih =>
    rw [Payload.Target.allExprs, List.mem_append]
    rcases List.mem_cons.1 ht with rfl | ht
    · exact .inl he
    · exact .inr (ih ht)

/-- **Values are assigned to a target** in a scope whose own names are in another frame. -/
theorem follows_assignTarget (hev : w.Leads ev' ev) (hframe : w.Apart sc.frame) {target : Payload.Target}
    (htarget : ∀ e ∈ target.exprs, w.Admits sc e) (fuel : Nat) (values : List Value) :
    w.Follows (ev'.assignTarget sc fuel target values) (ev.assignTarget sc fuel target values) := by
  induction fuel generalizing target values with
  | zero => exact .failWith _
  | succ fuel ih =>
    unfold Evaluator.assignTarget
    extract_lets assigned' assigned
    -- the value first has to be known
    have hassigned : ∀ v, w.Follows (assigned' v) (assigned v) := by
      intro v
      dsimp only [assigned', assigned]
      split
      · exact follows_bindHere hframe _ v
      · exact (hev.eval (htarget _ (by simp [Payload.Target.exprs]))).bind fun a => follows_setAttribute a _ v
      · refine (hev.eval (htarget _ (by simp [Payload.Target.exprs]))).bind fun a => ?_
        exact (hev.eval (htarget _ (by simp [Payload.Target.exprs]))).bind fun i => follows_setElement a i v
      · refine ih (fun e he => htarget e ?_) _
        simpa [Payload.Target.exprs] using he
      · refine (follows_itemsOf hev v).bind fun items => ?_
        split
        · exact .failWith _
        · next pairs hpairs =>
          refine Follows.forM fun p hp => ih (fun e he => htarget e ?_) _
          exact mem_allExprs (Veil.mem_splitParts hpairs p hp).1 he
    split
    · exact (Follows.new rfl).bind hassigned
    · exact hassigned _
    · exact .failWith _

/-! ### Comprehensions -/

theorem follows_allHold (hev : w.Leads ev' ev) {cs : List Payload.Expr} (hcs : ∀ c ∈ cs, w.Admits sc c) :
    w.Follows (ev'.allHold sc cs) (ev.allHold sc cs) := by
  induction cs with
  | nil => exact .pure _
  | cons c cs ih =>
    obtain ⟨hc, hcs⟩ := List.forall_mem_cons.1 hcs
    rw [Evaluator.allHold, Evaluator.allHold]
    refine (hev.eval hc).bind fun v => (Follows.look _).bind fun holds => ?_
    split
    · exact ih hcs
    · exact .pure _

theorem follows_element (hev : w.Leads ev' ev) {g : Generation} (hg : w.Fits g) :
    w.Follows (ev'.element g) (ev.element g) := by
  have helement : g.element ∈ g.parts := by simp [Generation.parts, Payload.comprehensionParts]
  unfold Evaluator.element
  split
  · next k h =>
    have hkey : k ∈ g.parts := by simp [Generation.parts, Payload.comprehensionParts, h, Payload.Form.key?]
    refine (hev.eval (hg.admits k hkey)).bind fun a => (hev.eval (hg.admits _ helement)).bind fun b => ?_
    exact .new rfl
  · exact hev.eval (hg.admits _ helement)

theorem follows_iterateSource (hev : w.Leads ev' ev) {source : Payload.Expr} (h : w.Admits sc source) :
    w.Follows (ev'.iterateSource sc source) (ev.iterateSource sc source) := by
  have hplain : w.Follows (ev'.eval sc source >>= Action.iterate) (ev.eval sc source >>= Action.iterate) :=
    (hev.eval h).bind follows_iterate
  unfold Evaluator.iterateSource
  split
  · split
    · refine (Follows.mapM fun e he => hev.eval (h.part he)).bind fun vs => ?_
      refine (follows_make fun s => ?_).bind follows_iterate
      exact Inert.bind fun table => inert_object rfl
    · exact hplain
  · exact hplain

/-- A clause of a comprehension, with what it evaluates. -/
theorem mem_parts_of_clause {g : Generation} {i : Nat} {target : Payload.Target} {source : Payload.Expr}
    {conditions : List Payload.Expr} (h : g.clauses[i]? = some (.mk target source conditions)) {e : Payload.Expr}
    (he : e ∈ target.exprs ++ source :: conditions) : e ∈ g.parts := by
  have hclause : e ∈ g.clauses.flatMap Payload.Clause.parts :=
    List.mem_flatMap.2 ⟨_, List.mem_of_getElem? h, he⟩
  simp [Generation.parts, Payload.comprehensionParts, hclause]

/-- **A comprehension moves on.** -/
theorem follows_generate (hev : w.Leads ev' ev) {g : Generation} (hg : w.Fits g) (fuel : Nat) (active : List Nat) :
    w.Follows (ev'.generate g fuel active) (ev.generate g fuel active) := by
  induction fuel generalizing active with
  | zero => exact .fail _
  | succ fuel ih =>
    cases active with
    | nil => exact .pure _
    | cons it outer =>
      rw [Evaluator.generate, Evaluator.generate]
      refine (hev.next it).bind fun item => ?_
      split
      · exact ih outer
      · split
        · exact .pure _
        · next target source conditions hclause =>
          refine (follows_assignTarget hev hg.frame (fun e he => hg.admits e ?_) _ _).bind fun _ => ?_
          · exact mem_parts_of_clause hclause (List.mem_append_left _ he)
          refine (follows_allHold hev fun e he => hg.admits e ?_).bind fun holds => ?_
          · exact mem_parts_of_clause hclause (List.mem_append_right _ (List.mem_cons_of_mem _ he))
          split
          · split
            · exact (follows_element hev hg).bind fun v => .pure _
            · next hinner =>
              have hsource := hg.admits _ (mem_parts_of_clause hinner (List.mem_append_right _ List.mem_cons_self))
              exact (follows_iterateSource hev hsource).bind fun inner => ih _
          · exact ih _

/-- **The next element of a comprehension.** -/
theorem follows_nextElement (hev : w.Leads ev' ev) {id : Nat} (hid : w.Apart id) {g : Generation} (hg : w.Fits g) :
    w.Follows (ev'.nextElement id g) (ev.nextElement id g) := by
  have hgoes (active : List Nat) (running : Bool) :
      w.Follows (Action.setObject id (.iterator (.generation { g with active, running })))
        (Action.setObject id (.iterator (.generation { g with active, running }))) := by
    refine .setObject hid fun g' hg' => ?_
    obtain rfl := Option.some.inj hg'
    exact ⟨hg.frame, hg.frame_lt, hg.admits⟩
  unfold Evaluator.nextElement
  split
  · exact .failWith _
  · refine (hgoes _ true).bind fun _ => ?_
    refine ((follows_generate hev hg _ _).recover (fun e => ?_) fun t => rfl).bind fun r => ?_
    · exact (Follows.setObject_of_none hid rfl).bind fun _ => .fail _
    · split
      · exact (hgoes _ _).bind fun _ => .pure _
      · exact (Follows.setObject_of_none hid rfl).bind fun _ => .pure _

/-- **A comprehension begins** in a scope of its own. -/
theorem follows_comprehension (hev : w.Leads ev' ev) {form : Payload.Form} {e : Payload.Expr}
    {clauses : List Payload.Clause} {own : List String} (h : w.Admits sc (.comprehension form e clauses own)) :
    w.Follows (ev'.comprehension sc form e clauses own) (ev.comprehension sc form e clauses own) := by
  unfold Evaluator.comprehension
  split
  · exact .failWith _
  · next target source conditions rest =>
    have hsource : source ∈ (Payload.Expr.comprehension form e (.mk target source conditions :: rest) own).parts := by
      simp [Payload.Expr.parts, Payload.comprehensionParts, Payload.Clause.parts]
    refine (follows_iterateSource hev (h.part hsource)).bind fun id s hs => followsFrom_enter_bind hs ?_
    intro frame t hle hframe ht
    refine Follows.allocate (fun g hg => ?_) t ht
    obtain rfl := Option.some.inj hg
    refine ⟨hframe, Nat.lt_succ_self frame, fun e he => ?_⟩
    exact ⟨(h.target_lt.trans_le hle).trans (Nat.lt_succ_self frame), h.target_ne, (h.part he).allows⟩

/-! ### Other iterators -/

theorem follows_entryItem (part : DictMethod) (p : Value × Value) :
    w.Follows (Evaluator.entryItem part p) (Evaluator.entryItem part p) := by
  unfold Evaluator.entryItem
  split
  · exact .pure _
  · exact .new rfl
  · exact .pure _

theorem follows_needEnd (hev : w.Leads ev' ev) (ids : List Nat) : w.Follows (ev'.needEnd ids) (ev.needEnd ids) := by
  induction ids with
  | nil => exact .pure _
  | cons id ids ih =>
    rw [Evaluator.needEnd, Evaluator.needEnd]
    refine (hev.next id).bind fun item => ?_
    split
    · exact ih
    · exact .failWith _

theorem follows_givenBy (owner v : Value) : w.Follows (Evaluator.givenBy owner v) (Evaluator.givenBy owner v) := by
  unfold Evaluator.givenBy
  split
  · exact .made v
  · exact .made v
  · exact .pure v

theorem follows_nextOfEach (hev : w.Leads ev' ev) (together : Bool) (row : List Value) (ids : List Nat) :
    w.Follows (ev'.nextOfEach together row ids) (ev.nextOfEach together row ids) := by
  induction ids generalizing row with
  | nil => exact .pure _
  | cons id ids ih =>
    rw [Evaluator.nextOfEach, Evaluator.nextOfEach]
    refine (hev.next id).bind fun item => ?_
    split
    · exact ih _
    · split
      · split
        · exact (follows_needEnd hev ids).bind fun _ => .pure _
        · exact (Follows.failWith _).bind fun _ => .pure _
      · exact .pure _

/-- **The next item of an iterator.** -/
theorem follows_nextItem (hev : w.Leads ev' ev) (id : Nat) : w.Follows (ev'.nextItem id) (ev.nextItem id) := by
  unfold Evaluator.nextItem
  extract_lets become finish
  refine .look_bind fun s hs => ?_
  -- an iterator is in none of the two frames
  have hid {i : Iteration} (ho : s.object? id = some (.iterator i)) : w.Apart id := hs.apart_of_object? ho rfl
  have hbecome {i : Iteration} (hid : w.Apart id) (hi : (Object.iterator i).generation? = none) :
      w.Follows (become i) (become i) := .setObject_of_none hid hi
  have hfinish (hid : w.Apart id) : w.Follows (finish >>= fun _ => pure (none : Option Value))
      (finish >>= fun _ => pure none) :=
    ((Follows.look _).bind fun _ => hbecome hid rfl).bind fun _ => .pure _
  split
  · next ho =>
    refine ((hbecome (hid ho) rfl).bind fun _ => ?_) s hs
    split
    · exact (Follows.made _).bind fun _ => .pure _
    · exact .pure _
  · next ho =>
    refine ((Follows.look _).bind fun item => ?_) s hs
    split
    · exact (hbecome (hid ho) rfl).bind fun _ => (follows_givenBy _ _).bind fun _ => .pure _
    · exact hfinish (hid ho)
  · next ho =>
    refine ((Follows.look _).bind fun item => ?_) s hs
    split
    · exact (hbecome (hid ho) rfl).bind fun _ => (follows_givenBy _ _).bind fun _ => .pure _
    · exact hfinish (hid ho)
  · next ho =>
    refine ((Follows.look _).bind fun entries => ?_) s hs
    split
    · exact .fail _
    · split
      · exact (hbecome (hid ho) rfl).bind fun _ => (follows_entryItem _ _).bind fun _ => .pure _
      · exact hfinish (hid ho)
  · next ho =>
    refine ((hev.next _).bind fun item => ?_) s hs
    split
    · refine (hbecome (hid ho) rfl).bind fun _ => (Follows.made _).bind fun n => ?_
      exact (Follows.new rfl).bind fun _ => .pure _
    · exact .pure _
  · exact Follows.pure _ s hs
  · refine ((follows_nextOfEach hev _ _ _).bind fun row => ?_) s hs
    split
    · exact (Follows.new rfl).bind fun _ => .pure _
    · exact .pure _
  · next ho =>
    refine ((((hev.call _ _ _).map _).recover (fun e => ?_) fun t => rfl).bind fun v => ?_) s hs
    · split
      · exact .pure _
      · exact .fail _
    · split
      · exact hfinish (hid ho)
      · refine (Follows.ofStore _).bind fun same => ?_
        split
        · exact hfinish (hid ho)
        · exact .pure _
  · next ho =>
    -- what the comprehension evaluates is evaluated in frames that are there by now
    have hgoes := follows_nextElement (hev.upTo s.objects.size) (hid ho) (hs.fits _ _ _ ho rfl)
    exact (hgoes s (hs.upTo (Nat.le_refl _))).of_upTo hs.base_le
  · exact Follows.pure _ s hs

end TokenTemplate.Watch
