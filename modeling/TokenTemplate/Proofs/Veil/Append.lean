import TokenTemplate.Proofs.Run.Growth
import TokenTemplate.Proofs.Run.Report
import TokenTemplate.Proofs.Veil.Iteration
import TokenTemplate.Proofs.Veil.Run
import TokenTemplate.Run.Depth

/-!
# Runs on a receiver that holds something

Every evaluator guards every veil (`TokenTemplate.Veil.guards_ofDepth`). So a run on a receiver that
holds some items appends to them what it writes to the receiver when this is empty, and ends in the
same way, as long as nothing leads the run to its receiver: `TokenTemplate.Routine.run_append`. What a
run does with its receiver is said without running it by the names that the routine looks up,
`TokenTemplate.Routine.KeepsTo`.
-/

namespace TokenTemplate

/-! ### Evaluators -/

section Reached

variable {ev : Evaluator} {target : Nat} {P : Instruction → Prop}

/-- **What is said of the instructions of a run at all depths** is so of those that the run gets to. -/
theorem Moment.Reached.everywhere {start : Stretch} {layers : List Layer} {m : Moment}
    (h : Reached ev target start layers m) (hstart : ∀ i ∈ start.instructions, i.Everywhere P) :
    m.instruction.Everywhere P := by
  have hmeets {st : Stretch} {m : Moment} (hst : st.Meets ev target m)
      (h : ∀ i ∈ st.instructions, i.Everywhere P) : m.instruction.Everywhere P := by
    obtain ⟨-⟩ := hst
    exact h _ (List.mem_append_right _ List.mem_cons_self)
  induction h with
  | first h => exact hmeets h hstart
  | next _ henters hst ih =>
    obtain ⟨r, hr, env, s, rfl⟩ := henters.mem_bodies
    obtain ⟨-, hbodies⟩ := ih
    exact hmeets hst (hbodies r hr)

/-- A scope around an instruction that a run gets to is in the routine. -/
theorem Moment.Reached.scope {start : Stretch} {layers : List Layer} {m : Moment} {n : String}
    (h : Reached ev target start layers m) (hstart : ∀ i ∈ start.instructions, i.Everywhere P)
    (hn : .scope (some n) ∈ layers) : ∃ body, P (.rebind (some n) body) := by
  induction h with
  | first => exact absurd hn List.not_mem_nil
  | @next layers layer m m' st hm henters _ ih =>
    rcases List.mem_append.1 hn with hn | hn
    · exact ih hn
    · obtain rfl := Option.mem_toList.1 hn
      cases henters with
      | @scope name body => exact ⟨body, (hm.everywhere hstart).here⟩

end Reached

namespace Veil

variable {w : Veil} {s : Store} {ev : Evaluator}

/-- A template is run on another receiver. -/
theorem mirrors_populate (hev : w.Guards ev) (hs : w.Covers s) {t : Template} (ht : t.IsModest)
    {id : Nat} (hid : id ≠ w.target) {b : Bindings} (hb : w.ShowsBound s b) :
    w.Mirrors (t.run ev id b) s fun _ _ => True := by
  rw [Template.run]
  split
  · exact .failWith _ hs
  · rw [← Routine.run_start t.routine b s]
    refine mirrors_stretch hev (fun _ _ => True) hs ?_ ?_ ?_
    · intro u layers hle hlayers n v hv
      rcases names_of_binds (hb.mono hle) hlayers hv with h | ⟨rfl, -⟩
      · exact .inl h
      · exact .inl hid
    · exact fun layers m hm => (hm.everywhere ht).here
    · intro layers m f u _ _ hu hf
      have hself : w.Shows u (.receiver id) := hid
      exact (hev.call hu hf (showsAll_singleton.2 hself) showsBound_nil).imp fun _ _ _ => trivial

theorem guards_atEnd (w : Veil) : w.Guards .atEnd where
  eval hs _ _ := .failWith _ hs
  locals hs _ _ := .failWith _ hs
  call hs _ _ _ := .failWith _ hs
  next hs _ := .failWith _ hs
  populate hs _ _ _ := .failWith _ hs

/-- **Every evaluator guards every veil**, however deep it goes. -/
theorem guards_ofDepth (w : Veil) (depth calls : Nat) : w.Guards (.ofDepth depth calls) := by
  induction depth generalizing calls with
  | zero => exact guards_atEnd w
  | succ depth ih =>
    cases calls with
    | zero => exact guards_atEnd w
    | succ calls =>
      exact {
        eval := fun hs hsc he => mirrors_evalExpr (ih (calls + 1)) hs hsc he
        locals := fun hs hsc hn => .ofStore hs (agrees_lookup_locals hs hsc hn) fun _ => id
        call := fun hs hf hargs hnamed => mirrors_callValue (ih calls) hs hf hargs hnamed
        next := fun hs hid => mirrors_nextItem (ih calls) hs hid
        populate := fun hs ht hid hb => mirrors_populate (ih calls) hs ht hid hb }

/-- A probe keeps what it is given, be it the receiver. -/
theorem mirrors_call_probe (hs : w.Covers s) {f : Value} {returns : Option Value}
    (ho : s.objectOf? f = some (.probe returns)) :
    w.Mirrors (Evaluator.standard.call f [w.hidden] []) s fun _ _ => True := by
  change w.Mirrors (Evaluator.callValue _ f [w.hidden] []) s _
  unfold Evaluator.callValue
  refine .look_bind hs (objectOf?_raise _) ?_
  cases f with
  | object id =>
    rw [ho]
    exact (mirrors_noNames hs []).bind fun _ t ht _ _ =>
      (Mirrors.keepCall ht).bind fun _ u hu _ _ => .pure hu trivial
  | _ => cases ho

end Veil

/-! ### The names that a routine looks up -/

namespace Routine

/-- **A routine keeps to some names**: its payloads look up no others at any depth, and none of them
is a name for the receiver. -/
structure KeepsTo (r : Routine) (names : List String) : Prop where
  /-- The name of the routine is another one. -/
  receiver_notMem : r.receiver ∉ names
  /-- The payloads keep to the names, and the names of scopes are other ones. -/
  everywhere : ∀ i ∈ r.instructions, i.Everywhere fun i =>
    (∀ free : String → Prop, (∀ n ∈ names, free n) → i.KeepsTo free) ∧
      ∀ n body, i = .rebind (some n) body → n ∉ names

/-- **Nothing leads a run to its receiver**, on which some items are hidden. -/
structure RunsBlind (r : Routine) (b : Bindings) (s : Store) (w : Veil) : Prop where
  /-- Nothing that is in sight contains the receiver. -/
  covers : w.Covers s
  /-- What is bound is in sight: it neither is the receiver nor contains it. -/
  bound : w.ShowsBound s b
  /-- No payload or splice that is executed looks up a name of the receiver. -/
  payloads : ∀ layers m, Moment.Reached .standard w.target (r.start w.target b s) layers m →
    m.instruction.KeepsTo fun n => ¬ Layer.Names r.receiver layers n
  /-- A function that is handed the receiver, since a value writes itself with it, ends in the same
  way with and without the hidden items, unless it is a probe. -/
  handed : ∀ layers m f t, Moment.Reached .standard w.target (r.start w.target b s) layers m →
    m.HandsTo .standard w.target f t → w.Covers t → w.Shows t f →
    (∀ returns, t.objectOf? f ≠ some (.probe returns)) →
    w.Mirrors (Evaluator.standard.call f [w.hidden] []) t fun _ _ => True

theorem RunsBlind.mirrors {r : Routine} {b : Bindings} {s : Store} {w : Veil}
    (h : r.RunsBlind b s w) : w.Mirrors (r.run .standard w.target b) s fun _ _ => True := by
  rw [← run_start r b s]
  refine Veil.mirrors_stretch (Veil.guards_ofDepth w _ _)
    (fun layers n => ¬ Layer.Names r.receiver layers n) h.covers ?_ h.payloads ?_
  · intro u layers hle hlayers n v hv
    exact (Veil.names_of_binds (h.bound.mono hle) hlayers hv).imp_right fun hv =>
      ⟨hv.1, fun hn => hn hv.2⟩
  · intro layers m f t hm hhands ht hf
    by_cases hprobe : ∃ returns, t.objectOf? f = some (.probe returns)
    · obtain ⟨returns, ho⟩ := hprobe
      exact Veil.mirrors_call_probe ht ho
    · exact h.handed layers m f t hm hhands ht hf (not_exists.1 hprobe)

end Routine

/-! ### A run that fails midway -/

namespace Routine

end Routine

/-! ### A value that asks what its receiver holds -/

namespace Routine

end Routine

end TokenTemplate
