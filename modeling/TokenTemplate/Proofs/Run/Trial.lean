import TokenTemplate.Proofs.Run.Quiet
import TokenTemplate.Proofs.Run.Splice

/-!
# Trying a case

A case is tried by a small program of its own, which matches a pattern, evaluates a guard, and replies with
the names that are bound by then. What counts is the trial, `TokenTemplate.Case.trial`: the pattern and the
guard in a scope of their own. The program adds nothing to it (`TokenTemplate.Case.Honours`) as long as the
names that it uses itself stand for what they should, `TokenTemplate.Scope.Answers`.

A pattern writes nothing, and neither does the reply, so if anything writes while a case is tried, the
guard does: `TokenTemplate.Case.Honours.onlyWrite`.
-/

namespace TokenTemplate

open TokenTemplate.Action

/-! ### Scopes of a case -/

namespace Scope

/-- The frame in which a scope binds names. -/
def frame (sc : Scope) : Nat :=
  (sc.levels.head?.map (·.frame)).getD sc.globals

/-- What the names of the innermost frame stand for, but for the subject of a case. -/
def captured (sc : Scope) (s : Store) : Bindings :=
  ((frameNames s sc.frame).filterMap fun p => p.2.map (p.1, ·)).filter (·.1 != Case.subjectName)

end Scope

namespace Case

/-- What the program of a case does once a pattern and a guard hold. -/
def reply : List Payload.Statement :=
  [.assign [.name resultName] (.call (.name "dict") [.positional (.call (.name "locals") [])]),
    .delete [.index (.name resultName) (.constant (.text subjectName))],
    .result (some (.name resultName))]

/-- **The program of a case is a pattern with a guard**, and no more. -/
def Wraps (c : Case) (p : Payload.Pattern) (guard : Option Payload.Expr) : Prop :=
  c.program.statements =
    [.cases (.name subjectName) [(p, guard, reply)], .result (some (.constant .none))]

/-- The scope in which a case is tried: it has some bindings around it, and of its own names only the
one of the subject has a value. -/
def enter (c : Case) (v : Value) (b : Bindings) : Action Scope := do
  let inner ← (← Scope.ofBindings b).enter
    (subjectName :: c.program.own.filter (· != subjectName)) false
  inner.bindHere subjectName v
  return inner

/-- **The trial of a case**: whether a pattern and a guard hold for a value, and the scope in which their
names are bound. -/
def trial (ev : Evaluator) (c : Case) (p : Payload.Pattern) (guard : Option Payload.Expr) (v : Value)
    (b : Bindings) : Action (Scope × Bool) := do
  let inner ← c.enter v b
  return (inner, ← ev.isCase inner v p guard)

end Case

/-- **The names that the program of a case uses itself** stand for what they should. -/
structure Scope.Answers (sc : Scope) (s : Store) : Prop where
  /-- The kind of dictionaries. -/
  dict : sc.lookup "dict" s = .ok (.kind .dict)
  /-- The function that gives all names of a scope. -/
  locals : sc.lookup "locals" s = .ok (.function .locals)
  /-- The subject, which is still among these. -/
  subject : ∃ v, (frameNames s sc.frame).lookup Case.subjectName = some (some v)

namespace Scope

variable {sc : Scope} {s : Store} {n : String} {v : Value}

theorem lookup_setName (names : List (String × Option Value)) (n : String) (v : Value) :
    (setName n v names).lookup n = some (some v) := by
  induction names with
  | nil => simp [setName]
  | cons p names ih =>
    rw [setName]
    split
    · simp
    · next hne => rw [Bindings.lookup_cons, if_neg (Ne.symm hne), ih]

/-- A frame with a name is there. -/
theorem object?_of_lookup {id : Nat} {w : Option Value} (h : (frameNames s id).lookup n = some w) :
    s.object? id = some (.frame (frameNames s id)) := by
  rw [frameNames] at h ⊢
  split at h
  · next names ho => rw [ho]
  · simp at h

theorem lookup_of_frame {l : ScopeLevel} {ls : List ScopeLevel} (hl : sc.levels = l :: ls)
    (hn : n ≠ Payload.fixedName) (h : (frameNames s l.frame).lookup n = some (some v)) :
    sc.lookup n s = .ok v := by
  rw [lookup, if_neg hn, hl]
  simp only [h]

/-- A name is bound in a frame that is there, and everything else is as it was. -/
theorem gives_bindHere {l : ScopeLevel} {ls : List ScopeLevel} (hl : sc.levels = l :: ls)
    (h : l.frame < s.objects.size) (n : String) (v : Value) :
    ∃ t, (sc.bindHere n v).Gives s () t ∧
      frameNames t l.frame = setName n v (frameNames s l.frame) ∧
      (∀ id, id ≠ l.frame → t.object? id = s.object? id) ∧ t.receivers = s.receivers := by
  let o := Object.frame (setName n v (frameNames s l.frame))
  have ho : (s.objects.setIfInBounds l.frame o)[l.frame]? = some o :=
    Array.getElem?_setIfInBounds_self_of_lt h
  rw [bindHere, hl]
  refine ⟨{ s with objects := s.objects.setIfInBounds l.frame o }, ⟨rfl, rfl⟩, ?_,
    fun id hne => Array.getElem?_setIfInBounds_ne (Ne.symm hne), rfl⟩
  rw [frameNames, Store.object?, ho]

/-- The entries of the dictionary of all names. -/
def entries (names : List (String × Option Value)) : List (Value × Value) :=
  names.filterMap fun p => p.2.map fun v => (.ofText p.1, v)

end Scope

namespace Case

variable {c : Case} {v : Value} {b : Bindings} {s : Store}

theorem gives_enter (c : Case) (v : Value) (b : Bindings) (s : Store) :
    ∃ l globals t, (c.enter v b).Gives s ⟨[l], globals⟩ t ∧ t.receivers = s.receivers ∧
      (Scope.frameNames t l.frame).lookup subjectName = some (some v) := by
  obtain ⟨sc, t, hsc, hshows⟩ := Scope.exists_shows b s
  let o := Object.frame
    ((subjectName :: c.program.own.filter (· != subjectName)).map fun n => (n, none))
  let l : ScopeLevel := ⟨t.objects.size, false⟩
  have hlt : l.frame < (t.allocate o).2.objects.size := Array.size_push o ▸ Nat.lt_succ_self _
  have hlevels : (Scope.mk [l] sc.globals).levels = [l] := rfl
  obtain ⟨u, hbind, hnames, -, hreceivers⟩ := Scope.gives_bindHere hlevels hlt subjectName v
  refine ⟨l, sc.globals, u, ?_, hreceivers.trans hshows.receivers, ?_⟩
  · refine gives_bind_iff.2 ⟨sc, t, hsc, gives_bind_iff.2 ⟨_, (t.allocate o).2, ⟨?_, rfl⟩,
      gives_bind_iff.2 ⟨(), u, hbind, gives_pure_iff.2 ⟨rfl, rfl⟩⟩⟩⟩
    rw [← hshows.levels]
    rfl
  · rw [hnames, Scope.lookup_setName]

/-- The program of a case is run in the scope that it is tried in. -/
theorem run_eq (ev : Evaluator) (c : Case) (v : Value) (b : Bindings) :
    (Scope.ofBindings b >>= c.run ev v) = c.enter v b >>= fun inner =>
      ev.runStatements inner c.program.statements >>= fun flow =>
        match flow with
        | .result v => pure v
        | _ => pure .none := by
  simp only [enter, bind_assoc, pure_bind]
  rfl

end Case

/-! ### Texts as keys -/

/-- The entries with other keys than a text. -/
theorem Store.filterM_ofText (s : Store) (x : String) (entries : List (Value × Value)) :
    (entries.filterM fun p => (!·) <$> s.sameOrEqual p.1 (.ofText x)) =
      .ok (entries.filter fun p => !p.1.isText x) := by
  have haux (kept : List (Value × Value)) :
      List.filterAuxM (fun p => (!·) <$> s.sameOrEqual p.1 (.ofText x)) entries kept =
        .ok ((entries.filter fun p => !p.1.isText x).reverse ++ kept) := by
    induction entries generalizing kept with
    | nil => rfl
    | cons p entries ih =>
      rw [List.filterAuxM, sameOrEqual_ofText]
      refine (ih _).trans ?_
      cases h : p.1.isText x <;> simp [h]
  rw [List.filterM, haux]
  simp [bind, Except.bind, pure, Except.pure]

/-- A text is taken out of a dictionary that has it. -/
theorem Evaluator.gives_deleteElement {s : Store} {id : Nat} {entries : List (Value × Value)}
    {x : String} {v : Value} (ho : s.object? id = some (.dict entries))
    (hx : (.ofText x, v) ∈ entries) :
    ∃ t, (deleteElement (.object id) (.ofText x)).Gives s () t ∧
      t.object? id = some (.dict (entries.filter fun p => !p.1.isText x)) ∧
      (∀ id', id' ≠ id → t.object? id' = s.object? id') ∧ t.receivers = s.receivers := by
  obtain ⟨w, hlookup⟩ : ∃ w, s.lookup? id (.ofText x) = .ok (some w) := by
    rw [Store.lookup?_ofText, Store.entries, ho]
    obtain ⟨p, hp⟩ : ∃ p, entries.find? (·.1.isText x) = some p := by
      rw [← Option.isSome_iff_exists, List.find?_isSome]
      exact ⟨_, hx, Value.isText_iff.2 ⟨_, rfl⟩⟩
    exact ⟨p.2, by simp only [hp, Option.map_some]⟩
  have hid : id < s.objects.size := (Array.getElem?_eq_some_iff.1 ho).1
  refine ⟨{ s with objects := s.objects.setIfInBounds id (.dict (entries.filter fun p =>
    !p.1.isText x)) }, ?_, Array.getElem?_setIfInBounds_self_of_lt hid,
    fun id' hne => Array.getElem?_setIfInBounds_ne (Ne.symm hne), rfl⟩
  refine gives_bind_iff.2 ⟨some (.dict entries), s, gives_look_iff.2 ⟨ho.symm, rfl⟩, ?_⟩
  refine gives_bind_iff.2 ⟨some w, s, gives_ofStore_iff.2 ⟨hlookup, rfl⟩, ?_⟩
  exact gives_bind_iff.2 ⟨_, s, gives_ofStore_iff.2 ⟨s.filterM_ofText x entries, rfl⟩, ⟨rfl, rfl⟩⟩

/-! ### What the program of a case replies -/

section Reply

variable {sc : Scope} {l : ScopeLevel} {ls : List ScopeLevel} {s : Store} {depth calls : Nat}

theorem Scope.gives_locals (hl : sc.levels = l :: ls) (s : Store) :
    sc.locals.Gives s (.object s.objects.size)
      (s.allocate (.dict (entries (frameNames s l.frame)))).2 := by
  rw [Scope.locals, hl]
  exact ⟨rfl, rfl⟩

/-- **A dictionary of all names of a scope** is made, as a new object. -/
theorem Evaluator.gives_dict_locals (hl : sc.levels = l :: ls) (h : sc.Answers s) :
    ∃ id t, ((ofDepth (depth + 3) (calls + 1)).eval sc
        (.call (.name "dict") [.positional (.call (.name "locals") [])])).Gives s (.object id) t ∧
      t.object? id = some (.dict (Scope.entries (Scope.frameNames s l.frame))) ∧
      s.objects.size ≤ id ∧ (∀ id', id' < s.objects.size → t.object? id' = s.object? id') ∧
      t.receivers = s.receivers := by
  -- the names are given as a dictionary, of which another one is made
  let o := Object.dict (Scope.entries (Scope.frameNames s l.frame))
  have hlocals : ((ofDepth (depth + 2) (calls + 1)).eval sc (.call (.name "locals") [])).Gives s
      (.object s.objects.size) (s.allocate o).2 :=
    gives_bind_iff.2 ⟨.function .locals, s, ⟨h.locals, rfl⟩,
      gives_bind_iff.2 ⟨([], []), s, ⟨rfl, rfl⟩, Scope.gives_locals hl s⟩⟩
  have hitems : ((ofDepth (depth + 2) (calls + 1)).evalItems sc [.call (.name "locals") []]).Gives s
      [.object s.objects.size] (s.allocate o).2 :=
    gives_bind_iff.2 ⟨_, _, hlocals, gives_bind_iff.2 ⟨[], _, ⟨rfl, rfl⟩, ⟨rfl, rfl⟩⟩⟩
  have harguments : ((ofDepth (depth + 2) (calls + 1)).evalArguments sc
      [.positional (.call (.name "locals") [])]).Gives s ([.object s.objects.size], [])
      (s.allocate o).2 :=
    gives_bind_iff.2 ⟨_, _, hitems, gives_bind_iff.2 ⟨([], []), _, ⟨rfl, rfl⟩, ⟨rfl, rfl⟩⟩⟩
  have hobject : (s.allocate o).2.objectOf? (.object s.objects.size) = some o :=
    Array.getElem?_push_size
  have hcall : ((ofDepth (depth + 1) calls).makeDict [.object s.objects.size] []).Gives
      (s.allocate o).2 (.object (s.allocate o).2.objects.size) ((s.allocate o).2.allocate o).2 := by
    rw [makeDict]
    exact gives_bind_iff.2 ⟨some o, _, gives_look_iff.2 ⟨hobject.symm, rfl⟩, ⟨rfl, rfl⟩⟩
  have hsize : (s.objects.push o).size = s.objects.size + 1 := Array.size_push o
  refine ⟨_, _, gives_bind_iff.2 ⟨.kind .dict, s, ⟨h.dict, rfl⟩,
    gives_bind_iff.2 ⟨_, _, harguments, hcall⟩⟩, Array.getElem?_push_size, ?_, fun id' hlt => ?_, rfl⟩
  · exact hsize ▸ Nat.le_succ _
  · change ((s.objects.push o).push o)[id']? = s.objects[id']?
    rw [Array.getElem?_push, Array.getElem?_push, if_neg (by omega), if_neg (by omega)]

/-- What is left of the dictionary of all names once the subject has been taken out. -/
theorem Scope.filterMap_entries (names : List (String × Option Value)) :
    (((entries names).filter fun p => !p.1.isText Case.subjectName).filterMap fun p =>
        match p.1 with
        | .text n _ => some (n, p.2)
        | _ => none) =
      (names.filterMap fun p => p.2.map (p.1, ·)).filter (·.1 != Case.subjectName) := by
  induction names with
  | nil => rfl
  | cons p names ih =>
    obtain ⟨n, v⟩ := p
    cases v with
    | none => exact ih
    | some v =>
      have hcons : entries ((n, some v) :: names) = (.ofText n, v) :: entries names := rfl
      have hcons' : (((n, some v) :: names).filterMap fun p => p.2.map (p.1, ·)) =
        (n, v) :: names.filterMap fun p => p.2.map (p.1, ·) := rfl
      rw [hcons, hcons']
      by_cases hn : n = Case.subjectName
      · rw [List.filter_cons_of_neg (by simp [hn, Value.ofText, Value.isText]),
          List.filter_cons_of_neg (by simp [hn]), ih]
      · rw [List.filter_cons_of_pos (by simp [hn, Value.ofText, Value.isText]),
          List.filter_cons_of_pos (by simp [hn]), List.filterMap_cons, ih]
        rfl

variable (depth calls) in
/-- **What the program of a case replies** are the names of its own scope, without the subject. -/
theorem Evaluator.gives_reply (hl : sc.levels = l :: ls) (h : sc.Answers s) :
    ∃ id u, ((ofDepth (depth + 3) (calls + 1)).runStatements sc Case.reply).Gives s
        (.result (.object id)) u ∧
      Case.bindings? u (.object id) = some (sc.captured s) ∧ u.receivers = s.receivers := by
  have hframe : sc.frame = l.frame := by
    rw [Scope.frame, hl]
    rfl
  obtain ⟨v, hv⟩ := h.subject
  rw [hframe] at hv
  have hs := Scope.object?_of_lookup hv
  have hlt : l.frame < s.objects.size := (Array.getElem?_eq_some_iff.1 hs).1
  obtain ⟨id, t, hdict, hid, hle, ht, htreceivers⟩ := gives_dict_locals hl h
  have hframet := ht _ hlt
  -- the dictionary gets a name
  obtain ⟨x, hbind, hx, hxrest, hxreceivers⟩ := Scope.gives_bindHere hl
    (Array.getElem?_eq_some_iff.1 (hframet.trans hs)).1 Case.resultName (.object id)
  have hname : (Scope.frameNames x l.frame).lookup Case.resultName = some (some (.object id)) := by
    rw [hx, Scope.lookup_setName]
  -- the subject is taken out of it
  have hmem : (.ofText Case.subjectName, v) ∈ Scope.entries (Scope.frameNames s l.frame) := by
    obtain ⟨before, after, heq, -⟩ := List.lookup_eq_some_iff.1 hv
    refine List.mem_filterMap.2 ⟨(Case.subjectName, some v), ?_, rfl⟩
    rw [heq]
    exact List.mem_append_right before List.mem_cons_self
  obtain ⟨u, hdelete, hu, hurest, hureceivers⟩ :=
    gives_deleteElement ((hxrest id (by omega)).trans hid) hmem
  have hname' : (Scope.frameNames u l.frame).lookup Case.resultName = some (some (.object id)) := by
    rw [Scope.frameNames, hurest _ (by omega), ← Scope.frameNames, hname]
  have heval {y : Store}
      (hy : (Scope.frameNames y l.frame).lookup Case.resultName = some (some (.object id))) :
      ((ofDepth (depth + 3) (calls + 1)).eval sc (.name Case.resultName)).Gives y (.object id) y :=
    gives_ofStore_iff.2 ⟨Scope.lookup_of_frame hl (by decide) hy, rfl⟩
  have hassign : ((ofDepth (depth + 3) (calls + 1)).assignTarget sc targetDepth
      (.name Case.resultName) [.object id]).Gives t () x :=
    gives_bind_iff.2 ⟨.object id, t, ⟨rfl, rfl⟩, hbind⟩
  have htake : ((ofDepth (depth + 3) (calls + 1)).deleteTarget sc targetDepth
      (.index (.name Case.resultName) (.constant (.text Case.subjectName)))).Gives x () u :=
    gives_bind_iff.2 ⟨_, x, heval hname, gives_bind_iff.2 ⟨_, x, ⟨rfl, rfl⟩, hdelete⟩⟩
  refine ⟨id, u, ?_, ?_, hureceivers.trans (hxreceivers.trans htreceivers)⟩
  · rw [Case.reply, runStatements, runStatements, runStatements, runStatement, runStatement, runStatement]
    refine gives_bind_iff.2 ⟨.next, x, ?_, gives_bind_iff.2 ⟨.next, u, ?_, ?_⟩⟩
    · exact gives_bind_iff.2 ⟨_, t, hdict, gives_bind_iff.2 ⟨(), x,
        gives_bind_iff.2 ⟨(), x, hassign, ⟨rfl, rfl⟩⟩, ⟨rfl, rfl⟩⟩⟩
    · exact gives_bind_iff.2 ⟨(), u, gives_bind_iff.2 ⟨(), u, htake, ⟨rfl, rfl⟩⟩, ⟨rfl, rfl⟩⟩
    · exact gives_bind_iff.2 ⟨_, u, gives_bind_iff.2 ⟨_, u, heval hname', ⟨rfl, rfl⟩⟩, ⟨rfl, rfl⟩⟩
  · rw [Case.bindings?, Store.objectOf?, hu]
    exact congrArg some ((Scope.filterMap_entries _).trans (by rw [Scope.captured, hframe]))

end Reply

/-! ### Trials -/

namespace Case

variable {c : Case} {p : Payload.Pattern} {guard : Option Payload.Expr} {v : Value} {b : Bindings}
  {filename : String} {s t u : Store} {inner : Scope} {holds : Bool} {e : Fault} {depth calls : Nat}

/-- A program without a result of its own ends as the statements of the case do. -/
theorem gives_captures_of_result {ev : Evaluator} (henter : (c.enter v b).Gives s inner t)
    {a : Value} {found : Option Bindings}
    (h : (ev.runStatements inner c.program.statements).Gives t (.result a) u)
    (ha : a = .none ∧ found = none ∨ a ≠ .none ∧ ∃ b', found = some b' ∧ bindings? u a = some b') :
    (c.captures ev v b filename).Gives s found u := by
  have hrun : (Scope.ofBindings b >>= c.run ev v).Gives s a u := by
    rw [run_eq]
    exact gives_bind_iff.2 ⟨inner, t, henter, gives_bind_iff.2 ⟨.result a, u, h, ⟨rfl, rfl⟩⟩⟩
  refine gives_bind_iff.2 ⟨a, u, gives_reword_iff.2 hrun, ?_⟩
  rcases ha with ⟨rfl, rfl⟩ | ⟨hne, b', rfl, hb⟩
  · exact ⟨rfl, rfl⟩
  · split
    · exact absurd rfl hne
    · refine gives_bind_iff.2 ⟨_, u, gives_look_iff.2 ⟨rfl, rfl⟩, ?_⟩
      rw [hb]
      exact ⟨rfl, rfl⟩

theorem fails_captures_of_statements {ev : Evaluator} (henter : (c.enter v b).Gives s inner t)
    (h : (ev.runStatements inner c.program.statements).Fails t e u) :
    (c.captures ev v b filename).Fails s (c.report filename e) u := by
  have hrun : (Scope.ofBindings b >>= c.run ev v).Fails s e u := by
    rw [run_eq]
    exact fails_bind_iff.2 (.inr ⟨inner, t, henter, fails_bind_iff.2 (.inl h)⟩)
  exact fails_bind_iff.2 (.inl (fails_reword_iff.2 ⟨e, hrun, rfl⟩))

/-- If a pattern and a guard do not hold, the program of the case goes on to its end. -/
theorem gives_statements_of_false (hc : c.Wraps p guard) (hsubject : inner.lookup subjectName t = .ok v)
    (h : ((Evaluator.ofDepth (depth + 1) (calls + 1)).isCase inner v p guard).Gives t false u) :
    ((Evaluator.ofDepth (depth + 1) (calls + 1)).runStatements inner c.program.statements).Gives t
      (.result .none) u := by
  rw [hc, Evaluator.runStatements, Evaluator.runStatement]
  have hcases : ((Evaluator.ofDepth (depth + 1) (calls + 1)).runCases inner v
      [(p, guard, reply)]).Gives t .next u := by
    rw [Evaluator.runCases]
    exact gives_bind_iff.2 ⟨false, u, h, ⟨rfl, rfl⟩⟩
  exact gives_bind_iff.2 ⟨.next, u, gives_bind_iff.2 ⟨v, t, ⟨hsubject, rfl⟩, hcases⟩, ⟨rfl, rfl⟩⟩

/-- If they hold, it ends with its reply. -/
theorem gives_statements_of_true (hc : c.Wraps p guard) (hsubject : inner.lookup subjectName t = .ok v)
    {w : Store} {a : Value}
    (h : ((Evaluator.ofDepth (depth + 1) (calls + 1)).isCase inner v p guard).Gives t true w)
    (hreply : ((Evaluator.ofDepth (depth + 1) (calls + 1)).runStatements inner reply).Gives w
      (.result a) u) :
    ((Evaluator.ofDepth (depth + 1) (calls + 1)).runStatements inner c.program.statements).Gives t
      (.result a) u := by
  rw [hc, Evaluator.runStatements, Evaluator.runStatement]
  have hcases : ((Evaluator.ofDepth (depth + 1) (calls + 1)).runCases inner v
      [(p, guard, reply)]).Gives t (.result a) u := by
    rw [Evaluator.runCases]
    exact gives_bind_iff.2 ⟨true, w, h, hreply⟩
  exact gives_bind_iff.2 ⟨.result a, u, gives_bind_iff.2 ⟨v, t, ⟨hsubject, rfl⟩, hcases⟩, ⟨rfl, rfl⟩⟩

/-- If one of them fails, so does the program. -/
theorem fails_statements (hc : c.Wraps p guard) (hsubject : inner.lookup subjectName t = .ok v)
    (h : ((Evaluator.ofDepth (depth + 1) (calls + 1)).isCase inner v p guard).Fails t e u) :
    ((Evaluator.ofDepth (depth + 1) (calls + 1)).runStatements inner c.program.statements).Fails t e
      u := by
  rw [hc, Evaluator.runStatements, Evaluator.runStatement]
  have hcases : ((Evaluator.ofDepth (depth + 1) (calls + 1)).runCases inner v
      [(p, guard, reply)]).Fails t e u := by
    rw [Evaluator.runCases]
    exact fails_bind_iff.2 (.inl h)
  exact fails_bind_iff.2 (.inl (fails_bind_iff.2 (.inr ⟨v, t, ⟨hsubject, rfl⟩, hcases⟩)))

end Case

/-! ### What a trial writes -/

/-- **Only some payloads write** between two stores, one after another: receivers change while one of
these is evaluated in some scope, and at no other time. -/
inductive Evaluator.OnlyWrite (ev : Evaluator) : List Payload.Expr → Store → Store → Prop
  /-- Nothing is evaluated. -/
  | nil {s t : Store} (h : t.receivers = s.receivers) : OnlyWrite ev [] s t
  /-- A payload is evaluated, and those after it. -/
  | cons {e : Payload.Expr} {es : List Payload.Expr} {s t u : Store} (sc : Scope)
      (h : t.receivers = s.receivers) (hrest : OnlyWrite ev es (ev.eval sc e t).store u) :
      OnlyWrite ev (e :: es) s u

namespace Evaluator

variable {ev : Evaluator} {es es' : List Payload.Expr} {s t u : Store}

theorem OnlyWrite.of_receivers_eq (h : ev.OnlyWrite es t u) (hs : t.receivers = s.receivers) :
    ev.OnlyWrite es s u := by
  cases h with
  | nil h => exact .nil (h.trans hs)
  | cons sc h hrest => exact .cons sc (h.trans hs) hrest

theorem OnlyWrite.append (h : ev.OnlyWrite es s t) (h' : ev.OnlyWrite es' t u) :
    ev.OnlyWrite (es ++ es') s u := by
  induction h with
  | nil h => exact h'.of_receivers_eq h
  | cons sc h _ ih => exact .cons sc h (ih h')

end Evaluator

/-- **An action leaves the writing to some payloads**, of which it may evaluate each once, in their
order. -/
def Action.Defers {α : Type} (ev : Evaluator) (es : List Payload.Expr) (x : Action α) : Prop :=
  ∀ s, ∃ es', es'.Sublist es ∧ ev.OnlyWrite es' s (x s).store

section Defers

variable {α β : Type} {ev : Evaluator} {es es' : List Payload.Expr} {x : Action α} {f : α → Action β}

theorem Action.Quiet.defers (hx : x.Quiet) (ev : Evaluator) : x.Defers ev [] :=
  fun s => ⟨[], List.Sublist.refl _, .nil (hx s)⟩

theorem Action.Defers.bind (hx : x.Defers ev es) (hf : ∀ a, (f a).Defers ev es') :
    (x >>= f).Defers ev (es ++ es') := by
  intro s
  obtain ⟨es₁, hes₁, h₁⟩ := hx s
  rcases bind_eq x f s with ⟨a, t, hgives, -, hstore⟩ | ⟨e, t, hfails, hbind⟩
  · obtain ⟨es₂, hes₂, h₂⟩ := hf a t
    rw [hgives.store_eq] at h₁
    exact ⟨es₁ ++ es₂, hes₁.append hes₂, hstore ▸ h₁.append h₂⟩
  · rw [hfails.store_eq] at h₁
    refine ⟨es₁, hes₁.trans (List.sublist_append_left es es'), ?_⟩
    rwa [hbind.store_eq]

theorem Evaluator.defers_eval (ev : Evaluator) (sc : Scope) (e : Payload.Expr) :
    (ev.eval sc e).Defers ev [e] :=
  fun _ => ⟨[e], List.Sublist.refl _, .cons sc rfl (.nil rfl)⟩

theorem Evaluator.defers_guardHolds (ev : Evaluator) (sc : Scope) (guard : Option Payload.Expr) :
    (ev.guardHolds sc guard).Defers ev guard.toList := by
  cases guard with
  | none => exact (quiet_pure true).defers ev
  | some e => exact (ev.defers_eval sc e).bind fun v => (quiet_look _).defers ev

/-- **Only the guard of a case writes**, if anything does. -/
theorem Evaluator.defers_isCase (ev : Evaluator) (sc : Scope) (v : Value) (p : Payload.Pattern)
    (guard : Option Payload.Expr) : (ev.isCase sc v p guard).Defers ev guard.toList := by
  refine ((sc.inspects_matchPattern p v).quiet.defers ev).bind fun found s => ?_
  cases found with
  | none => exact ⟨[], List.nil_sublist _, .nil rfl⟩
  | some b =>
    exact ((Quiet.forM (fun q => sc.quiet_bindHere q.1 q.2) b).defers ev).bind
      (fun _ => ev.defers_guardHolds sc guard) s

theorem Case.defers_trial (ev : Evaluator) (c : Case) (p : Payload.Pattern)
    (guard : Option Payload.Expr) (v : Value) (b : Bindings) :
    (c.trial ev p guard v b).Defers ev guard.toList := by
  have henter : (c.enter v b).Quiet := (Scope.quiet_ofBindings b).bind fun sc =>
    (sc.quiet_enter _ _).bind fun inner => (inner.quiet_bindHere _ _).bind fun _ => quiet_pure _
  have h := (henter.defers ev).bind fun inner => (ev.defers_isCase inner v p guard).bind
    fun holds => (quiet_pure (inner, holds)).defers ev
  rwa [List.nil_append, List.append_nil] at h

end Defers

/-! ### How a case ends -/

/-- **A case does what its pattern and its guard say** when it is tried in a store: it ends as its trial
does. -/
inductive Case.Honours (ev : Evaluator) (c : Case) (p : Payload.Pattern)
    (guard : Option Payload.Expr) (v : Value) (b : Bindings) (filename : String) (s : Store) : Prop
  /-- Nothing is captured if they do not hold. -/
  | unmatched {inner : Scope} {u : Store} (htrial : (c.trial ev p guard v b).Gives s (inner, false) u)
      (h : (c.captures ev v b filename).Gives s none u)
  /-- If they hold, the names of the case are captured, with what they stand for then. -/
  | matched {inner : Scope} {t u : Store} (htrial : (c.trial ev p guard v b).Gives s (inner, true) t)
      (h : (c.captures ev v b filename).Gives s (some (inner.captured t)) u)
      (hreceivers : u.receivers = t.receivers)
  /-- If one of them fails, this is reported. -/
  | failed {e : Fault} {u : Store} (htrial : (c.trial ev p guard v b).Fails s e u)
      (h : (c.captures ev v b filename).Fails s (c.report filename e) u)

namespace Case

variable {c : Case} {p : Payload.Pattern} {guard : Option Payload.Expr} {v : Value} {b : Bindings}
  {filename : String} {s : Store} {depth calls : Nat}

/-- **A case ends as its trial does**, if the names that its program uses itself still stand for what they
should when the trial has succeeded. -/
theorem honours_of_answers (hc : c.Wraps p guard) (filename : String)
    (hanswers : ∀ inner t, (c.trial (.ofDepth (depth + 3) (calls + 1)) p guard v b).Gives s
      (inner, true) t → inner.Answers t) :
    c.Honours (.ofDepth (depth + 3) (calls + 1)) p guard v b filename s := by
  obtain ⟨l, globals, t, henter, -, hsubject⟩ := c.gives_enter v b s
  have hlookup : (Scope.mk [l] globals).lookup subjectName t = .ok v :=
    Scope.lookup_of_frame rfl (by decide) hsubject
  rcases ((Evaluator.ofDepth (depth + 3) (calls + 1)).isCase ⟨[l], globals⟩ v p guard).gives_or_fails t
    with ⟨holds, w, h⟩ | ⟨e, u, h⟩
  · have htrial : (c.trial (.ofDepth (depth + 3) (calls + 1)) p guard v b).Gives s
        (⟨[l], globals⟩, holds) w :=
      gives_bind_iff.2 ⟨_, t, henter, gives_bind_iff.2 ⟨holds, w, h, ⟨rfl, rfl⟩⟩⟩
    cases holds with
    | false =>
      have hstatements := gives_statements_of_false hc hlookup h
      exact .unmatched htrial (gives_captures_of_result henter hstatements (.inl ⟨rfl, rfl⟩))
    | true =>
      obtain ⟨id, u, hreply, hfound, hreceivers⟩ :=
        Evaluator.gives_reply depth calls rfl (hanswers _ w htrial)
      have hstatements := gives_statements_of_true hc hlookup h hreply
      exact .matched htrial (gives_captures_of_result henter hstatements
        (.inr ⟨nofun, _, rfl, hfound⟩)) hreceivers
  · have htrial : (c.trial (.ofDepth (depth + 3) (calls + 1)) p guard v b).Fails s e u :=
      fails_bind_iff.2 (.inr ⟨_, t, henter, fails_bind_iff.2 (.inl h)⟩)
    exact .failed htrial (fails_captures_of_statements henter (fails_statements hc hlookup h))

/-- **Only the guard of a case writes**, however the case ends. -/
theorem Honours.onlyWrite {ev : Evaluator} (h : c.Honours ev p guard v b filename s) :
    ∃ es, es.Sublist guard.toList ∧ ev.OnlyWrite es s (c.captures ev v b filename s).store := by
  obtain ⟨es, hes, hwrite⟩ := c.defers_trial ev p guard v b s
  refine ⟨es, hes, ?_⟩
  cases h with
  | unmatched htrial h => rwa [h.store_eq, ← htrial.store_eq]
  | failed htrial h => rwa [h.store_eq, ← htrial.store_eq]
  | matched htrial h hreceivers =>
    rw [htrial.store_eq] at hwrite
    rw [h.store_eq, ← List.append_nil es]
    exact hwrite.append (.nil hreceivers)

end Case

end TokenTemplate
