import TokenTemplate.Proofs.Template.Calls

/-!
# What compiling depends on

Compiling a region depends on what is further in only by the calls that it makes, one after another,
and the first of them that fails makes the whole fail, `TokenTemplate.Sequential`. This is shown
part by part of the compiler, from one body to a row of constructs.

So `TokenTemplate.Call.Makes`, which tells by their failures which calls are made, misses none of
them: whatever becomes of all other calls, the outcome is the same
(`TokenTemplate.Call.step_eq_of_makes`).
-/

namespace TokenTemplate

/-! ### Rows of calls -/

section Sequential

variable {α β : Type} {usual : Inside} {f f' : Inside → Compiled α}
  {g : Inside → α → Compiled β} {x : Compiled α}

/-- **A computation that makes calls one after another**: its outcome is the usual one if that of
some calls is, and it fails if one of them does and everything else is as usual. -/
def Sequential (usual : Inside) (f : Inside → Compiled α) : Prop :=
  ∃ calls : List Call,
    (∀ inside, (∀ c ∈ calls, c.run inside = c.run usual) → f inside = f usual) ∧
      ∀ c ∈ calls, ∀ inside err, (∀ d, d ≠ c → d.run inside = d.run usual) →
        c.run inside = .error err → f inside = .error err

theorem sequential_const (x : Compiled α) : Sequential usual fun _ => x :=
  ⟨[], fun _ _ => rfl, List.forall_mem_nil _⟩

theorem sequential_run (c : Call) : Sequential usual c.run := by
  refine ⟨[c], fun inside h => h c (.head _), fun d hd inside err _ hfails => ?_⟩
  obtain rfl := List.mem_singleton.1 hd
  exact hfails

/-- **One step after another.** -/
theorem Sequential.bind (hf : Sequential usual f)
    (hg : ∀ a, f usual = .ok a → Sequential usual fun inside => g inside a) :
    Sequential usual fun inside => f inside >>= g inside := by
  obtain ⟨calls, hsame, hfail⟩ := hf
  have hstops {inside : Inside} {err : CompileError} (h : f inside = .error err) :
      f inside >>= g inside = .error err := by rw [h]; rfl
  have hgoes {inside : Inside} {a : α} (h : f inside = .ok a) :
      f inside >>= g inside = g inside a := by rw [h]; rfl
  rcases hfirst : f usual with err | a
  · refine ⟨calls, fun inside h => ?_, fun c hc inside err hrest hfails => ?_⟩
    · exact (hstops ((hsame inside h).trans hfirst)).trans (hstops hfirst).symm
    · exact hstops (hfail c hc inside err hrest hfails)
  · obtain ⟨more, hsame', hfail'⟩ := hg a hfirst
    refine ⟨calls ++ more, fun inside h => ?_, fun c hc inside err hrest hfails => ?_⟩
    · obtain ⟨hcalls, hmore⟩ := List.forall_mem_append.1 h
      have hlater := (hsame' inside hmore).trans (hgoes hfirst).symm
      exact (hgoes ((hsame inside hcalls).trans hfirst)).trans hlater
    · by_cases hmem : c ∈ calls
      · exact hstops (hfail c hmem inside err hrest hfails)
      · -- the first step does not make the call, so nothing has changed for it
        have hcalls := hsame inside fun d hd => hrest d (ne_of_mem_of_not_mem hd hmem)
        have hlater := (List.mem_append.1 hc).resolve_left hmem
        exact (hgoes (hcalls.trans hfirst)).trans (hfail' c hlater inside err hrest hfails)

/-- A first step that makes no call. -/
theorem Sequential.after (hg : ∀ a, x = .ok a → Sequential usual fun inside => g inside a) :
    Sequential usual fun inside => x >>= g inside :=
  (sequential_const x).bind hg

theorem Sequential.ite {p : Prop} [Decidable p] (hf : Sequential usual f)
    (hf' : Sequential usual f') :
    Sequential usual fun inside => if p then f inside else f' inside := by
  by_cases hp : p
  · simpa only [if_pos hp] using hf
  · simpa only [if_neg hp] using hf'

end Sequential

/-! ### Constructs -/

namespace Construct

variable {usual : Inside} {bodies : Inside → Bodies} {r : Region}
  (hb : ∀ edges untilComma r, Sequential usual fun inside => bodies inside edges untilComma r)

include hb

theorem bracedBody_sequential : Sequential usual fun inside => bracedBody (bodies inside) r :=
  .after fun _ _ => (hb _ _ _).bind fun _ _ => sequential_const _

theorem arrowBody_sequential : Sequential usual fun inside => arrowBody (bodies inside) r :=
  .after fun _ _ => hb _ _ _

theorem condition_sequential : Sequential usual fun inside => condition (bodies inside) r := by
  refine .after fun _ _ => .after fun test _ => .ite ?_ ?_
  · exact (arrowBody_sequential hb).bind fun _ _ => sequential_const _
  · refine (bracedBody_sequential hb).bind fun _ _ => .ite ?_ (sequential_const _)
    exact .after fun _ _ => (bracedBody_sequential hb).bind fun _ _ => sequential_const _

theorem join_sequential : Sequential usual fun inside => join (bodies inside) r := by
  refine .ite ?_ (sequential_const _)
  exact .after fun _ _ => .after fun _ _ => (hb _ _ _).bind fun _ _ => sequential_const _

theorem loop_sequential : Sequential usual fun inside => loop (bodies inside) r := by
  refine .after fun _ _ => .after fun _ _ => .after fun _ _ => .after fun _ _ => ?_
  refine (join_sequential hb).bind fun _ _ => ?_
  refine Sequential.ite ?_ ?_
  · exact (arrowBody_sequential hb).bind fun _ _ => sequential_const _
  · exact (bracedBody_sequential hb).bind fun _ _ => sequential_const _

theorem arm_sequential : Sequential usual fun inside => arm (bodies inside) r := by
  refine .after fun _ _ => .after fun _ _ => ?_
  refine Sequential.ite ?_ ?_
  · exact (bracedBody_sequential hb).bind fun _ _ => sequential_const _
  · exact (hb _ _ _).bind fun _ _ => sequential_const _

theorem arms_sequential (fuel : Nat) :
    Sequential usual fun inside => arms (bodies inside) fuel r := by
  induction fuel generalizing r with
  | zero => exact sequential_const _
  | succ fuel ih =>
    refine .ite (sequential_const _) ?_
    exact (arm_sequential hb).bind fun _ _ => ih.bind fun _ _ => sequential_const _

theorem dispatch_sequential : Sequential usual fun inside => dispatch (bodies inside) r :=
  .after fun _ _ => .after fun _ _ => .after fun _ _ =>
    (arms_sequential hb _).bind fun _ _ => sequential_const _

theorem scope_sequential : Sequential usual fun inside => scope (bodies inside) r := by
  refine .after fun _ _ => .after fun _ _ => ?_
  refine Sequential.ite ?_ ?_
  · exact (bracedBody_sequential hb).bind fun _ _ => sequential_const _
  · exact (arrowBody_sequential hb).bind fun _ _ => sequential_const _

theorem payloadNode_sequential : Sequential usual fun inside => payloadNode (bodies inside) r := by
  have hother : Sequential usual fun inside => payloadNode.other (bodies inside) r :=
    .ite (condition_sequential hb) <| .ite (loop_sequential hb) <|
      .ite (dispatch_sequential hb) <| .ite (scope_sequential hb) (sequential_const _)
  unfold payloadNode
  rcases r.tokens with _ | ⟨_ | _, _ | _⟩
  · exact hother
  · exact .ite (sequential_const _) hother
  all_goals exact hother

end Construct

/-! ### Bodies -/

namespace Body

variable {usual : Inside} {b : Body} {e : Encoder} {r : Region} {room : Nat} {untilComma : Bool}

theorem compileWith_sequential : Sequential usual fun inside => b.compileWith inside r :=
  (sequential_run ⟨b.untilComma, b.encoder, r⟩).bind fun _ _ => sequential_const _

theorem place_sequential (c : Construct) :
    Sequential usual fun inside => b.place inside room e r c := by
  cases c with
  | payload start scope =>
    refine (Construct.payloadNode_sequential fun _ _ _ => compileWith_sequential).bind fun _ _ => ?_
    exact sequential_const _
  | group d group =>
    refine .after fun e _ => ?_
    exact (sequential_run ⟨false, e, group⟩).bind fun _ _ => sequential_const _
  | escape | directive | name | block | leaf => exact sequential_const _

theorem placeAll_sequential {ts : List Tree} :
    Sequential usual fun inside => b.placeAll inside room untilComma e r ts := by
  -- by induction on the tokens that are left, of which every construct takes one
  induction hn : ts.length using Nat.strongRecOn generalizing e r ts with
  | ind n ih =>
    subst hn
    cases ts with
    | nil =>
      unfold placeAll
      exact sequential_const _
    | cons t ts =>
      cases hcomma : untilComma && t.isPunct ',' with
      | true =>
        simp only [placeAll_of_comma hcomma]
        exact sequential_const _
      | false =>
        rcases hsight : Construct.sight r t ts with err | ⟨c, r'⟩
        · simp only [placeAll_of_error hcomma hsight]
          exact sequential_const _
        · obtain ⟨rest, htakes, rfl⟩ := Construct.sight_eq_ok_iff.1 hsight
          have hlt : rest.length < (t :: ts).length := Nat.lt_succ_of_le htakes.length_le
          simp only [placeAll_of_takes hcomma htakes]
          exact (place_sequential c).bind fun e' _ => ih rest.length hlt rfl

end Body

/-! ### Calls -/

namespace Call

variable {b : Body} {room : Nat} {c : Call}

/-- **The outcome of a call depends on no calls but those that it makes.** -/
theorem step_eq_of_makes {inside : Inside}
    (h : ∀ c', Makes b room c c' → c'.run inside = c'.run (levels b room)) :
    c.step b room inside = c.step b room (levels b room) := by
  obtain ⟨calls, hsame, hfail⟩ : Sequential (levels b room) (c.step b room) :=
    Body.placeAll_sequential
  refine hsame inside fun c' hc' => h c' (makes_of_fails fun inside err hrest hfails => ?_)
  exact hfail c' hc' inside err hrest hfails

end Call

end TokenTemplate
