import TokenTemplate.Evaluation.Statement
import TokenTemplate.Proofs.Veil.Match

/-!
# Statements behind a veil

A statement ends in the same way whatever is hidden, if it keeps to names that suit its scope,
`TokenTemplate.Veil.mirrors_runStatement`. So does the program of a case, and then what the case
captures is in sight (`TokenTemplate.Veil.mirrors_captures`); and so does an expression in a template
(`TokenTemplate.Veil.mirrors_evaluate`).
-/

namespace TokenTemplate.Veil

variable {w : Veil} {s : Store} {v : Value} {ev : Evaluator} {sc : Scope} {free : String → Prop}
  {own : Option (List String)}

/-! ### Taking away -/

theorem mirrors_deleteElement (hs : w.Covers s) {container i : Value} (hc : w.Shows s container)
    (hi : w.Shows s i) : w.Mirrors (Evaluator.deleteElement container i) s fun _ _ => True := by
  have ho := fun o => hs.innocent_of_objectOf? (o := o) hc
  rw [Evaluator.deleteElement]
  refine .look_bind hs (objectOf?_raise _) ?_
  split
  · next id entries h =>
    have hentries : w.ShowsEntries s entries := ho _ h
    refine .ofStore_bind hs (agrees_lookup? hs hc hi) fun found _ => ?_
    split
    · exact .ofStore_bind hs (.of_eq (keyError_raise hs hi)) fun e _ => .fail e hs
    · refine .ofStore_bind hs (R := fun left => ∀ p ∈ left, p ∈ entries) ?_ fun left hleft => ?_
      · refine Agrees.filterM fun p hp => ?_
        exact (Agrees.of_eq (sameOrEqual_raise hs _ _ (hentries p hp).1 hi)).map fun _ _ => trivial
      · exact .setObject_of_names? hs (o := .dict _) (fun p hp => hentries p (hleft p hp)) rfl hc
  · next id items h =>
    have hitems : w.ShowsAll s items.toList := ho _ h
    split
    · exact .failWith _ hs
    · split
      · refine .setObject_of_names? hs (o := .list _) (fun a ha => hitems a ?_) rfl hc
        rw [Array.toList_eraseIdxIfInBounds] at ha
        exact List.mem_of_mem_eraseIdx ha
      · exact .fail _ hs
  · exact .failWith _ hs

theorem mirrors_deleteAttribute (hs : w.Covers s) (hv : w.Shows s v) (n : String) :
    w.Mirrors (Evaluator.deleteAttribute v n) s fun _ _ => True := by
  rw [Evaluator.deleteAttribute]
  refine .look_bind hs (objectOf?_raise _) ?_
  split
  · next id fields h =>
    have hfields : w.ShowsBound s fields := hs.innocent_of_objectOf? hv h
    split
    · exact .setObject_of_names? hs (o := .record _) (hfields.filter _) rfl hv
    · exact .failWith _ hs
  · exact .failWith _ hs

/-- **Taking a target away.** -/
theorem mirrors_deleteTarget (hev : w.Guards ev) {fuel : Nat} {target : Payload.Target}
    (htarget : target.KeepsTo free own) (hs : w.Covers s) (hsc : w.Suits s sc free own) :
    w.Mirrors (ev.deleteTarget sc fuel target) s fun _ _ => True := by
  induction fuel generalizing s target with
  | zero => exact .failWith _ hs
  | succ fuel ih =>
    unfold Evaluator.deleteTarget
    cases htarget with
    | name => exact mirrors_unbindHere hs hsc _
    | «attribute» he =>
      exact (hev.eval hs hsc he).bind fun a t ht _ ha => mirrors_deleteAttribute ht ha _
    | index he hi =>
      refine (hev.eval hs hsc he).bind fun a t ht hle ha => ?_
      exact (hev.eval ht (hsc.mono hle) hi).bind fun b u hu hle' hb =>
        mirrors_deleteElement hu (ha.mono hle') hb
    | starred h => exact ih h hs hsc
    | parts h => exact .forM hs fun t ht u hu hle => ih (h t ht) hu (hsc.mono hle)

/-! ### Statements -/

/-- What a program ends with is in sight, if it ends. -/
def ShowsFlow (w : Veil) (s : Store) (flow : Flow) : Prop :=
  ∀ v, flow = .result v → w.Shows s v

theorem showsFlow_of_ne {flow : Flow} (h : ∀ v, flow ≠ .result v) : w.ShowsFlow s flow :=
  fun v hv => absurd hv (h v)

theorem showsFlow_result : w.ShowsFlow s (.result v) ↔ w.Shows s v :=
  ⟨fun h => h v rfl, fun h _ ha => Flow.result.inj ha ▸ h⟩

/-- **A statement mirrors what is hidden**, in whatever store. -/
def RunsAlike (w : Veil) (ev : Evaluator) (sc : Scope) (free : String → Prop)
    (own : Option (List String)) (st : Payload.Statement) : Prop :=
  ∀ {s}, w.Covers s → w.Suits s sc free own → w.Mirrors (ev.runStatement sc st) s w.ShowsFlow

theorem mirrors_runStatements {sts : List Payload.Statement}
    (h : ∀ st ∈ sts, w.RunsAlike ev sc free own st) (hs : w.Covers s)
    (hsc : w.Suits s sc free own) : w.Mirrors (ev.runStatements sc sts) s w.ShowsFlow := by
  induction sts generalizing s with
  | nil =>
    rw [Evaluator.runStatements]
    exact .pure hs (showsFlow_of_ne nofun)
  | cons st sts ih =>
    obtain ⟨hst, hsts⟩ := List.forall_mem_cons.1 h
    rw [Evaluator.runStatements]
    refine (hst hs hsc).bind fun flow t ht hle hflow => ?_
    split
    · exact ih hsts ht (hsc.mono hle)
    · exact .pure ht hflow

theorem mirrors_guardHolds (hev : w.Guards ev) {guard : Option Payload.Expr}
    (hguard : ∀ e, guard = some e → e.KeepsTo free own) (hs : w.Covers s)
    (hsc : w.Suits s sc free own) : w.Mirrors (ev.guardHolds sc guard) s fun _ _ => True := by
  unfold Evaluator.guardHolds
  split
  · exact .pure hs trivial
  · next e =>
    exact (hev.eval hs hsc (hguard e rfl)).bind fun a t ht _ ha => .look ht (truth_raise ha) trivial

theorem mirrors_isCase (hev : w.Guards ev) {p : Payload.Pattern} (hp : p.KeepsTo free own)
    {guard : Option Payload.Expr} (hguard : ∀ e, guard = some e → e.KeepsTo free own)
    (hs : w.Covers s) (hsc : w.Suits s sc free own) (hv : w.Shows s v) :
    w.Mirrors (ev.isCase sc v p guard) s fun _ _ => True := by
  rw [Evaluator.isCase]
  refine (mirrors_matchPattern hp hs hsc hv).bind fun captured t ht hle hcaptured => ?_
  have hsc := hsc.mono hle
  split
  · exact .pure ht trivial
  · next b =>
    have hb := hcaptured b rfl
    refine (Mirrors.forM ht fun p hp u hu hle' => ?_).bind fun _ u hu hle' _ => ?_
    · exact mirrors_bindHere hu (hsc.mono hle') p.1 ((hb p hp).mono hle')
    · exact mirrors_guardHolds hev hguard hu (hsc.mono hle')

theorem mirrors_runCases (hev : w.Guards ev)
    {arms : List (Payload.Pattern × Option Payload.Expr × List Payload.Statement)}
    (hpattern : ∀ p g body, (p, g, body) ∈ arms → p.KeepsTo free own)
    (hguard : ∀ p g body, (p, some g, body) ∈ arms → g.KeepsTo free own)
    (hbody : ∀ p g body, (p, g, body) ∈ arms → ∀ st ∈ body, w.RunsAlike ev sc free own st)
    (hs : w.Covers s) (hsc : w.Suits s sc free own) (hv : w.Shows s v) :
    w.Mirrors (ev.runCases sc v arms) s w.ShowsFlow := by
  induction arms generalizing s with
  | nil =>
    rw [Evaluator.runCases]
    exact .pure hs (showsFlow_of_ne nofun)
  | cons arm arms ih =>
    obtain ⟨p, g, body⟩ := arm
    rw [Evaluator.runCases]
    have hcase := mirrors_isCase hev (hpattern _ _ _ List.mem_cons_self)
      (fun e he => hguard p e body (he ▸ List.mem_cons_self)) hs hsc hv
    refine hcase.bind fun found t ht hle _ => ?_
    split
    · exact mirrors_runStatements (hbody _ _ _ List.mem_cons_self) ht (hsc.mono hle)
    · exact ih (fun p g body h => hpattern p g body (List.mem_cons_of_mem _ h))
        (fun p g body h => hguard p g body (List.mem_cons_of_mem _ h))
        (fun p g body h => hbody p g body (List.mem_cons_of_mem _ h)) ht (hsc.mono hle)
        (hv.mono hle)

/-- **A statement is run.** -/
theorem mirrors_runStatement (hev : w.Guards ev) {st : Payload.Statement}
    (h : st.KeepsTo free own) : w.RunsAlike ev sc free own st := by
  induction h with
  | expression he =>
    intro s hs hsc
    unfold Evaluator.runStatement
    exact (hev.eval hs hsc he).discard.bind fun _ t ht _ _ => .pure ht (showsFlow_of_ne nofun)
  | assign htarget he =>
    intro s hs hsc
    unfold Evaluator.runStatement
    refine (hev.eval hs hsc he).bind fun a t ht hle ha => ?_
    refine (Mirrors.forM ht fun tg htg u hu hle' => ?_).bind fun _ u hu _ _ =>
      .pure hu (showsFlow_of_ne nofun)
    exact mirrors_assignTarget hev (htarget tg htg) hu (hsc.mono (hle.trans hle'))
      (showsAll_singleton.2 (ha.mono hle'))
  | delete htarget =>
    intro s hs hsc
    unfold Evaluator.runStatement
    refine (Mirrors.forM hs fun tg htg u hu hle => ?_).bind fun _ u hu _ _ =>
      .pure hu (showsFlow_of_ne nofun)
    exact mirrors_deleteTarget hev (htarget tg htg) hu (hsc.mono hle)
  | pass | leave | again =>
    intro s hs hsc
    unfold Evaluator.runStatement
    exact .pure hs (showsFlow_of_ne nofun)
  | @result e he =>
    intro s hs hsc
    cases e with
    | none =>
      unfold Evaluator.runStatement
      exact .pure hs (showsFlow_result.2 trivial)
    | some e =>
      unfold Evaluator.runStatement
      exact (hev.eval hs hsc (he e rfl)).bind fun a t ht _ ha => .pure ht (showsFlow_result.2 ha)
  | branch htest _ _ ihyes ihno =>
    intro s hs hsc
    unfold Evaluator.runStatement
    refine (hev.eval hs hsc htest).bind fun a t ht hle ha => .look_bind ht (truth_raise ha) ?_
    split
    · exact mirrors_runStatements (fun st hst => ihyes st hst) ht (hsc.mono hle)
    · exact mirrors_runStatements (fun st hst => ihno st hst) ht (hsc.mono hle)
  | loop htest _ _ ihbody ihlast =>
    intro s hs hsc
    unfold Evaluator.runStatement
    -- a turn goes on, leaves the loop, or gives a result
    refine mirrors_untilDone (fun t ht hle => ?_) hs
    refine (hev.eval ht (hsc.mono hle) htest).bind fun a u hu hle' ha => ?_
    have hsc := hsc.mono (hle.trans hle')
    refine .look_bind hu (truth_raise ha) ?_
    split
    · refine (mirrors_runStatements (fun st hst => ihbody st hst) hu hsc).bind
        fun flow x hx _ hflow => ?_
      split
      · exact .pure hx fun _ h => Option.some.inj h ▸ showsFlow_of_ne nofun
      · next b => exact .pure hx fun _ h => Option.some.inj h ▸ hflow
      · exact .pure hx fun _ h => nomatch h
    · refine (mirrors_runStatements (fun st hst => ihlast st hst) hu hsc).bind
        fun flow x hx _ hflow => .pure hx fun _ h => Option.some.inj h ▸ hflow
  | iterate htarget hsource _ _ ihbody ihlast =>
    intro s hs hsc
    unfold Evaluator.runStatement
    refine (mirrors_iterateSource hev hs hsc hsource).bind fun it t ht hle hit => ?_
    -- nothing is carried from turn to turn but the store
    refine mirrors_loop hev (I := fun _ _ => True) hit (fun _ _ => trivial) ?_ ht trivial
    intro _ item u hu hle' _ hitem
    have hsc := hsc.mono (hle.trans hle')
    cases item with
    | none =>
      exact (mirrors_runStatements (fun st hst => ihlast st hst) hu hsc).bind
        fun flow x hx _ hflow => .pure hx hflow
    | some a =>
      refine (mirrors_assignTarget hev htarget hu hsc (showsAll_singleton.2 (hitem a rfl))).bind
        fun _ x hx hle'' _ => ?_
      refine (mirrors_runStatements (fun st hst => ihbody st hst) hx (hsc.mono hle'')).bind
        fun flow y hy _ hflow => ?_
      split
      · exact .pure hy (showsFlow_of_ne nofun)
      · exact .pure hy hflow
      · exact .pure hy trivial
  | cases hsubject hpattern hguard _ ihbody =>
    intro s hs hsc
    unfold Evaluator.runStatement
    refine (hev.eval hs hsc hsubject).bind fun a t ht hle ha => ?_
    exact mirrors_runCases hev hpattern hguard (fun p g body h st hst => ihbody p g body h st hst) ht
      (hsc.mono hle) ha

/-! ### Payloads of a template -/

/-- **What names stand for where a payload is evaluated**: the receiver at most for names that are not
free. -/
def ShowsNames (w : Veil) (s : Store) (b : Bindings) (free : String → Prop) : Prop :=
  ∀ p ∈ b, w.Shows s p.2 ∨ p.2 = w.hidden ∧ ¬ free p.1

theorem not_shows_hidden : ¬ w.Shows s w.hidden :=
  fun h => h rfl

/-- The scope of a payload with such names. -/
theorem ShowsNames.mirrors_ofBindings {b : Bindings} (hb : w.ShowsNames s b free)
    (hs : w.Covers s) :
    w.Mirrors (Scope.ofBindings b) s fun t sc => w.Suits t sc free none :=
  Veil.mirrors_ofBindings hs (fun p hp => (hb p hp).imp_right And.left) fun n hn hmem =>
    (hb (n, w.hidden) hmem).elim not_shows_hidden fun h => h.2 hn

/-- The program of a case for a subject. -/
theorem mirrors_run (hev : w.Guards ev) {c : Case} (hc : c.KeepsTo free) (hs : w.Covers s)
    (hsc : w.Suits s sc free none) (hv : w.Shows s v) : w.Mirrors (c.run ev v sc) s w.Shows := by
  rw [Case.run]
  refine (mirrors_enter hs hsc _ false).bind fun inner t ht hle hinner => ?_
  refine (mirrors_bindHere ht hinner _ (hv.mono hle)).bind fun _ u hu hle' _ => ?_
  refine (mirrors_runStatements (fun st hst => mirrors_runStatement hev (hc st hst)) hu
    (hinner.mono hle')).bind fun flow x hx _ hflow => ?_
  split
  · exact .pure hx (showsFlow_result.1 hflow)
  · exact .pure hx trivial

theorem bindings?_raise (hv : w.Shows s v) :
    Case.bindings? (w.raise s) v = Case.bindings? s v := by
  rw [Case.bindings?, Case.bindings?, objectOf?_raise, truth_raise hv]

theorem shows_bindings? (hs : w.Covers s) (hv : w.Shows s v) :
    w.ShowsCaptured s (Case.bindings? s v) := by
  intro b hb
  rw [Case.bindings?] at hb
  split at hb
  · next entries h =>
    have hentries : w.ShowsEntries s entries := hs.innocent_of_objectOf? hv h
    obtain rfl := Option.some.inj hb
    intro p hp
    obtain ⟨q, hq, heq⟩ := List.mem_filterMap.1 hp
    split at heq
    · exact Option.some.inj heq ▸ (hentries q hq).2
    · exact nomatch heq
  · split at hb
    · exact nomatch hb
    · exact Option.some.inj hb ▸ showsBound_nil

/-- **What a case captures is in sight.** -/
theorem mirrors_captures (hev : w.Guards ev) {c : Case} (hc : c.KeepsTo free) (hs : w.Covers s)
    {b : Bindings} (hb : w.ShowsNames s b free) (hv : w.Shows s v) (filename : String) :
    w.Mirrors (c.captures ev v b filename) s w.ShowsCaptured := by
  rw [Case.captures]
  refine (Mirrors.reword ((hb.mirrors_ofBindings hs).bind fun sc t ht hle hsc =>
    mirrors_run hev hc ht hsc (hv.mono hle))).bind fun a u hu _ ha => ?_
  split
  · exact .pure hu showsCaptured_none
  · refine .look_bind hu (bindings?_raise ha) ?_
    have hcaptured := shows_bindings? hu ha
    split
    · next found h => exact .pure hu (h ▸ hcaptured)
    · exact .failWith _ hu

/-- **The value of an expression is in sight.** -/
theorem mirrors_evaluate (hev : w.Guards ev) {x : Expression} (hx : x.tree.KeepsTo free none)
    (hs : w.Covers s) {b : Bindings} (hb : w.ShowsNames s b free) (filename : String) :
    w.Mirrors (x.evaluate ev b filename) s w.Shows :=
  .reword ((hb.mirrors_ofBindings hs).bind fun _ _ ht _ hsc => hev.eval ht hsc hx)

end TokenTemplate.Veil
