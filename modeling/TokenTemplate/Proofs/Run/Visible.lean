import Mathlib.Data.List.Induction
import Mathlib.Data.List.Nodup
import TokenTemplate.Proofs.Run.Reached
import TokenTemplate.Run.Depth

/-!
# What instructions see

An instruction sees the bindings that the run began with, under those that the bodies around it were
entered with, and nothing else: `TokenTemplate.Routine.sees_of_reached`. Those are the rows of its
environment, one for each `TokenTemplate.Layer`. What a loop or a match has captured is in the
environment of its bodies only. What a payload assigns goes to a frame of its own, which no other
payload is given (`TokenTemplate.Scope.Shows`).
-/

namespace TokenTemplate

/-! ### Layers over bindings -/

/-- **Bindings under some layers**, of which the last one is the innermost and hides the others. -/
def Layer.over (target : Nat) (layers : List Layer) (b : Bindings) : Bindings :=
  layers.foldl (fun seen layer => seen.update (layer.bindings target)) b

/-- The rows of an environment for some layers. -/
def Layer.rows (target : Nat) (layers : List Layer) : Environment :=
  layers.reverse.map (·.bindings target)

section Rows

variable {target : Nat}

theorem Layer.rows_concat (layers : List Layer) (layer : Option Layer) :
    rows target (layers ++ layer.toList) = rows target layer.toList ++ rows target layers := by
  rw [rows, List.reverse_append, List.map_append]
  rfl

theorem Environment.flatten_rows (layers : List Layer) (env : Environment) :
    (Layer.rows target layers ++ env).flatten = Layer.over target layers env.flatten := by
  induction layers using List.reverseRecOn with
  | nil => rfl
  | append_singleton layers layer ih =>
    have hrows : Layer.rows target (layers ++ [layer]) =
        layer.bindings target :: Layer.rows target layers := by
      simp [Layer.rows]
    rw [hrows, List.cons_append, flatten, ih, Layer.over, Layer.over, List.foldl_concat]

theorem Environment.get?_rows (layers : List Layer) (b : Bindings) (n : String) :
    get? (Layer.rows target layers ++ [b]) n =
      (layers.reverse.findSome? fun layer => (layer.bindings target).lookup n).or (b.lookup n) := by
  rw [Layer.rows]
  induction layers.reverse with
  | nil => exact Option.or_none
  | cons layer rest ih =>
    rw [List.map_cons, List.cons_append, get?, ih, List.findSome?_cons]
    cases (layer.bindings target).lookup n <;> rfl

end Rows

/-! ### Bindings with different names -/

namespace Bindings

theorem set_of_not_mem {b : Bindings} {n : String} {v : Value} (h : n ∉ b.map Prod.fst) :
    b.set n v = b ++ [(n, v)] := by
  induction b with
  | nil => rfl
  | cons p b ih =>
    rw [List.map_cons, List.mem_cons, not_or] at h
    rw [set, if_neg (Ne.symm h.1), ih h.2, List.cons_append]

theorem map_fst_set_of_mem {b : Bindings} {n : String} {v : Value} (h : n ∈ b.map Prod.fst) :
    (b.set n v).map Prod.fst = b.map Prod.fst := by
  induction b with
  | nil => simp at h
  | cons p b ih =>
    rw [set]
    split
    · next heq => rw [List.map_cons, List.map_cons, heq]
    · next hne =>
      rw [List.map_cons, List.map_cons, ih]
      rw [List.map_cons, List.mem_cons] at h
      exact h.resolve_left (Ne.symm hne)

theorem nodup_set {b : Bindings} (h : (b.map Prod.fst).Nodup) (n : String) (v : Value) :
    ((b.set n v).map Prod.fst).Nodup := by
  by_cases hn : n ∈ b.map Prod.fst
  · rw [map_fst_set_of_mem hn]
    exact h
  · rw [set_of_not_mem hn, List.map_append]
    exact List.Nodup.append h (List.nodup_singleton n) (by simpa using hn)

/-- Bindings with different names are taken over as they are. -/
theorem update_eq_append {b c : Bindings} (h : ((b ++ c).map Prod.fst).Nodup) :
    b.update c = b ++ c := by
  induction c generalizing b with
  | nil => exact (List.append_nil b).symm
  | cons p c ih =>
    have hp : p.1 ∉ b.map Prod.fst := by
      rw [List.map_append, List.map_cons] at h
      exact fun hmem => (List.nodup_append.1 h).2.2 _ hmem _ List.mem_cons_self rfl
    rw [update, List.foldl_cons, set_of_not_mem hp, ← update, ih (by simpa using h)]
    simp

end Bindings

/-! ### The rows of an instruction -/

section Run

variable {ev : Evaluator} {target : Nat}

theorem Loop.Turns.env_eq {l : Loop} {s t : Store} {it fuel : Nat} {captured : Bindings}
    {env : Environment} (h : l.Turns ev target s it fuel (some (captured, env)) t) :
    env = l.env.child captured := by
  cases h
  rfl

/-- What a body is run for is in the innermost row of its environment. -/
theorem Moment.Enters.env_eq {m : Moment} {layer : Option Layer} {st : Stretch}
    (h : m.Enters ev target layer st) : st.env = Layer.rows target layer.toList ++ m.env := by
  cases h with
  | yes | no | body | arm | scope => rfl
  | join hjoin h => exact h.env_eq

theorem Stretch.Meets.env_eq {st : Stretch} {m : Moment} (h : st.Meets ev target m) :
    m.env = st.env := by
  cases h
  rfl

/-- **The environment of an instruction** has a row for each layer around it. -/
theorem Moment.Reached.env_eq {start : Stretch} {layers : List Layer} {m : Moment}
    (h : Reached ev target start layers m) : m.env = Layer.rows target layers ++ start.env := by
  induction h with
  | first h => exact h.env_eq
  | @next layers layer m m' st _ henters hmeets ih =>
    rw [hmeets.env_eq, henters.env_eq, ih, Layer.rows_concat, List.append_assoc]

end Run

/-! ### What payloads see -/

/-- **A scope shows some bindings and nothing else** in a store, and it is new there: no payload has
been given its frame before. -/
structure Scope.Shows (sc : Scope) (b : Bindings) (s t : Store) : Prop where
  /-- Nothing is around its frame. -/
  levels : sc.levels = []
  /-- The frame is new. -/
  isNew : s.object? sc.globals = none
  /-- It holds the bindings. -/
  names : Scope.frameNames t sc.globals = b.map fun p => (p.1, some p.2)
  /-- Everything else is as it was. -/
  rest : ∀ id, id ≠ sc.globals → t.object? id = s.object? id
  /-- That goes for the receivers too. -/
  receivers : t.receivers = s.receivers

/-- The scope of a payload. -/
theorem Scope.exists_shows (b : Bindings) (s : Store) :
    ∃ sc t, (Scope.ofBindings b).Gives s sc t ∧ sc.Shows b s t := by
  refine ⟨⟨[], s.objects.size⟩, _, ⟨rfl, rfl⟩, rfl, ?_, ?_, fun id hid => ?_, rfl⟩
  · exact Array.getElem?_eq_none (Nat.le_refl _)
  · simp [Scope.ofBindings, frameNames, Action.allocate, Store.allocate, Store.object?, bind,
      Action.bind, pure, Action.pure]
  · exact (Array.getElem?_push).trans (if_neg hid)

/-- **An action ends as another one does** from another store. -/
structure Action.EndsAs {α : Type} (x : Action α) (s : Store) (y : Action α) (t : Store) : Prop where
  /-- The value, or the fault. -/
  outcome_eq : (x s).outcome = (y t).outcome
  /-- The store. -/
  store_eq : (x s).store = (y t).store

namespace Action

variable {α β : Type} {x y : Action α} {f : α → Action β} {s t : Store} {a : α}

theorem Gives.endsAs (h : x.Gives s a t) : (x >>= f).EndsAs s (f a) t := by
  rw [bind_eq_followedBy]
  exact ⟨by rw [outcome_followedBy, h.outcome_eq, h.store_eq],
    by rw [store_followedBy, h.outcome_eq, h.store_eq]⟩

theorem EndsAs.followedBy {k : Except Fault α → Action β} (h : x.EndsAs s y t) :
    (x.followedBy k).EndsAs s (y.followedBy k) t :=
  ⟨by rw [outcome_followedBy, outcome_followedBy, h.outcome_eq, h.store_eq],
    by rw [store_followedBy, store_followedBy, h.outcome_eq, h.store_eq]⟩

theorem EndsAs.bind (h : x.EndsAs s y t) : (x >>= f).EndsAs s (y >>= f) t := by
  rw [bind_eq_followedBy, bind_eq_followedBy]
  exact h.followedBy

theorem EndsAs.reword (h : x.EndsAs s y t) (g : Fault → Fault) :
    (x.reword g).EndsAs s (y.reword g) t := by
  rw [Action.reword, Action.reword, recover_eq_followedBy, recover_eq_followedBy]
  exact h.followedBy

end Action

/-- What a case captures of a subject in a scope. -/
def Case.capturesIn (ev : Evaluator) (c : Case) (subject : Value) (sc : Scope) (filename : String) :
    Action (Option Bindings) := do
  match ← (c.run ev subject sc).reword (c.report filename) with
  | .none => return none
  | v =>
    match ← Action.look (Case.bindings? · v) with
    | some b => return some b
    | none => Action.failWith .type

/-- **What an instruction sees are some bindings**: its payloads are evaluated, and its patterns are
matched with their guards, in scopes that show these bindings and nothing else. -/
structure Moment.Sees (ev : Evaluator) (m : Moment) (b : Bindings) : Prop where
  /-- They are what its environment comes to. -/
  flatten_eq : m.env.flatten = b
  /-- Payloads are evaluated with them. -/
  evaluate : ∀ (x : Expression) (s : Store), ∃ sc t, sc.Shows b s t ∧
    (x.evaluate ev m.env.flatten m.filename).EndsAs s
      ((ev.eval sc x.tree).reword (x.report m.filename)) t
  /-- Patterns and guards are matched with them. -/
  captures : ∀ (c : Case) (v : Value) (s : Store), ∃ sc t, sc.Shows b s t ∧
    (c.captures ev v m.env.flatten m.filename).EndsAs s (c.capturesIn ev v sc m.filename) t

/-- An instruction sees what its environment comes to. -/
theorem Moment.sees {ev : Evaluator} {m : Moment} {b : Bindings} (h : m.env.flatten = b) :
    m.Sees ev b := by
  subst h
  refine ⟨rfl, fun x s => ?_, fun c v s => ?_⟩
  · obtain ⟨sc, t, hgives, hshows⟩ := Scope.exists_shows m.env.flatten s
    exact ⟨sc, t, hshows, hgives.endsAs.reword _⟩
  · obtain ⟨sc, t, hgives, hshows⟩ := Scope.exists_shows m.env.flatten s
    exact ⟨sc, t, hshows, (hgives.endsAs.reword _).bind⟩

/-! ### Whole runs -/

/-- **What every instruction of a run sees**: the bindings that the run was given together with its name
for the receiver, under what the loop items, the arms and the names for the receiver around the
instruction have added. A name by itself stands for what it is bound to in the innermost of these that
has it. -/
theorem Routine.sees_of_reached {ev : Evaluator} {r : Routine} {target : Nat} {b : Bindings}
    {s : Store} {layers : List Layer} {m : Moment}
    (h : Moment.Reached ev target (r.start target b s) layers m) :
    m.Sees ev (Layer.over target layers (Bindings.update [] (b.set r.receiver (.receiver target)))) ∧
    (∀ n, m.env.get? n =
      (layers.reverse.findSome? fun layer => (layer.bindings target).lookup n).or
        ((b.set r.receiver (.receiver target)).lookup n)) ∧
    ((b.map Prod.fst).Nodup →
      m.Sees ev (Layer.over target layers (b.set r.receiver (.receiver target)))) := by
  have henv : m.env = Layer.rows target layers ++ [b.set r.receiver (.receiver target)] := h.env_eq
  have hflatten : m.env.flatten =
      Layer.over target layers (Bindings.update [] (b.set r.receiver (.receiver target))) := by
    rw [henv, Environment.flatten_rows]
    rfl
  refine ⟨Moment.sees hflatten, fun n => ?_, fun hb => Moment.sees ?_⟩
  · rw [henv]
    exact Environment.get?_rows layers _ n
  · rw [hflatten, Bindings.update_eq_append (by simpa using Bindings.nodup_set hb _ _),
      List.nil_append]

/-- The case `x`, which every value matches. -/
def Case.anyX : Case :=
  ⟨"x", default, none,
    ⟨[.cases (.name "__subject__") [(.capture "x", none,
        [.assign [.name "captured"] (.call (.name "dict") [.positional (.call (.name "locals") [])]),
          .delete [.index (.name "captured") (.constant (.text "__subject__"))],
          .result (some (.name "captured"))])],
      .result (some (.constant .none))], ["x", "captured"]⟩⟩

/-- The loop of `#(for x in [1, 2] join (#x,) => #x)`. -/
def Loop.ofPair : Loop where
  pattern := .anyX
  source := ⟨"[1, 2]", default, .list [.constant (.int 1), .constant (.int 2)]⟩
  body := ⟨"t", [.spliceName "x" default], "f"⟩
  join := some ⟨"t", [.spliceName "x" default, .append ","], "f"⟩
  env := [[("t", .receiver 0)]]
  filename := "f"

/-- The end of the join of two items sees the first of them. -/
theorem Routine.sees_of_reached_join :
    ∃ m, Moment.Reached (.ofDepth 9 9) 0
        (Routine.start ⟨"t", [(Loop.ofPair.moment {}).instruction], "f"⟩ 0 [] {})
        [.item [("x", .int 1 .literal)]] m ∧
      m.instruction = .append "," ∧
      m.Sees (.ofDepth 9 9) [("t", .receiver 0), ("x", .int 1 .literal)] := by
  have hreached : ∃ t, Moment.Reached (.ofDepth 9 9) 0
      (Routine.start ⟨"t", [(Loop.ofPair.moment {}).instruction], "f"⟩ 0 [] {})
      [.item [("x", .int 1 .literal)]]
      ⟨.append ",", Loop.ofPair.env.child [("x", .int 1 .literal)], "f", t⟩ := by
    refine ⟨_, .next (.first (Stretch.meets_head ..)) (.join (l := Loop.ofPair) rfl (.turn
      (.start ⟨(?_ : _ = Except.ok (.object 1)), rfl⟩ ⟨(?_ : _ = Except.ok 2), rfl⟩)
      ⟨(?_ : _ = Except.ok (some (.int 1 .literal))), rfl⟩
      ⟨(?_ : _ = Except.ok (some [("x", .int 1 .literal)])), rfl⟩ ⟨rfl, rfl⟩ ⟨?_, rfl⟩)
      ⟨(?_ : _ = Except.ok (some (.int 2 .literal))), rfl⟩
      ⟨(?_ : _ = Except.ok (some [("x", .int 2 .literal)])), rfl⟩)
      (.cons ⟨?_, rfl⟩ (Stretch.meets_head ..))⟩
    -- what is left are single steps of the run, which are computed
    all_goals decide +kernel
  obtain ⟨t, h⟩ := hreached
  exact ⟨_, h, rfl, (sees_of_reached h).1⟩

end TokenTemplate
