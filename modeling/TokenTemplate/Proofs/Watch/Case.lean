import TokenTemplate.Proofs.Run.Captured
import TokenTemplate.Proofs.Run.Trial
import TokenTemplate.Proofs.Watch.Run

/-!
# The names of a case

A case is tried in a scope of its own, whose frame has no values at first but for the subject. Matching the pattern
leaves the frame as it is; then the names that it captures are bound; and then the guard assigns names, as far as its
assignments are evaluated (`TokenTemplate.Evaluator.GuardAssigns`). So it is known which names have a value in the
end, and what the value is unless the guard has assigned another one.
-/

namespace TokenTemplate

open TokenTemplate.Action

namespace Scope

variable {names : List (String × Option Value)} {b : Bindings} {n : String} {v : Value} {sc : Scope} {s : Store}

/-! ### Names with values -/

theorem lookup_setName_of_ne {m : String} (h : m ≠ n) (v : Value) (names : List (String × Option Value)) :
    (setName n v names).lookup m = names.lookup m := by
  induction names with
  | nil => rw [setName, Bindings.lookup_cons, if_neg h]
  | cons p names ih =>
    rw [setName]
    split
    · next hp => rw [Bindings.lookup_cons, if_neg h, Bindings.lookup_cons, if_neg (hp ▸ h)]
    · rw [Bindings.lookup_cons, Bindings.lookup_cons, ih]

theorem mem_map_fst_setName {m : String} :
    m ∈ (setName n v names).map Prod.fst ↔ m = n ∨ m ∈ names.map Prod.fst := by
  induction names with
  | nil => simp [setName]
  | cons p names ih =>
    rw [setName]
    split
    · next hp => simp [hp]
    · rw [List.map_cons, List.map_cons, List.mem_cons, List.mem_cons, ih]
      exact or_left_comm

theorem nodup_setName (h : (names.map Prod.fst).Nodup) (n : String) (v : Value) :
    ((setName n v names).map Prod.fst).Nodup := by
  induction names with
  | nil => exact List.nodup_singleton n
  | cons p names ih =>
    rw [List.map_cons, List.nodup_cons] at h
    rw [setName]
    split
    · next hp => exact List.nodup_cons.2 ⟨hp ▸ h.1, h.2⟩
    · next hp =>
      refine List.nodup_cons.2 ⟨fun hmem => ?_, ih h.2⟩
      exact (mem_map_fst_setName.1 hmem).elim hp h.1

/-- No name is there twice after some names have been assigned, if none was before. -/
theorem nodup_setNames (h : (names.map Prod.fst).Nodup) (b : Bindings) :
    ((setNames names b).map Prod.fst).Nodup := by
  induction b generalizing names with
  | nil => exact h
  | cons q b ih => exact ih (nodup_setName h q.1 q.2)

/-- A name that is not assigned is as it was. -/
theorem lookup_setNames_of_not_mem (h : n ∉ b.map Prod.fst) (names : List (String × Option Value)) :
    (setNames names b).lookup n = names.lookup n := by
  induction b generalizing names with
  | nil => rfl
  | cons q b ih =>
    rw [List.map_cons, List.mem_cons, not_or] at h
    exact (ih h.2 _).trans (lookup_setName_of_ne h.1 q.2 names)

/-- A name that is assigned, or that had a value before, has one. -/
theorem exists_lookup_setNames (h : n ∈ b.map Prod.fst ∨ ∃ v, names.lookup n = some (some v)) :
    ∃ v, (setNames names b).lookup n = some (some v) := by
  induction b generalizing names with
  | nil => exact h.resolve_left List.not_mem_nil
  | cons q b ih =>
    refine ih ?_
    by_cases hn : n = q.1
    · exact .inr ⟨q.2, hn ▸ lookup_setName names q.1 q.2⟩
    · rw [lookup_setName_of_ne hn]
      exact h.imp_left fun hmem => (List.mem_cons.1 hmem).resolve_left hn

/-- A name that is assigned once has the value that is assigned. -/
theorem lookup_setNames_of_lookup (hb : (b.map Prod.fst).Nodup) (h : b.lookup n = some v)
    (names : List (String × Option Value)) : (setNames names b).lookup n = some (some v) := by
  induction b generalizing names with
  | nil => exact absurd h (by simp)
  | cons q b ih =>
    rw [List.map_cons, List.nodup_cons] at hb
    rw [Bindings.lookup_cons] at h
    split at h
    · next hn =>
      obtain rfl := Option.some.inj h
      refine (lookup_setNames_of_not_mem (b := b) (hn ▸ hb.1) (setName q.1 q.2 names)).trans ?_
      rw [hn]
      exact lookup_setName names q.1 q.2
    · exact ih hb.2 h _

/-! ### What is captured -/

/-- The names with values, as a row of bindings. -/
theorem lookup_filterMap (h : (names.map Prod.fst).Nodup) (n : String) :
    (names.filterMap fun p => p.2.map (p.1, ·)).lookup n = (names.lookup n).join := by
  induction names with
  | nil => rfl
  | cons p names ih =>
    obtain ⟨m, o⟩ := p
    rw [List.map_cons, List.nodup_cons] at h
    rw [Bindings.lookup_cons]
    cases o with
    | some v =>
      change List.lookup n ((m, v) :: names.filterMap fun p => p.2.map (p.1, ·)) = _
      rw [Bindings.lookup_cons, ih h.2]
      split <;> rfl
    | none =>
      change List.lookup n (names.filterMap fun p => p.2.map (p.1, ·)) = _
      rw [ih h.2]
      split
      · next hn =>
        have hlookup : names.lookup n = none := by
          rw [List.lookup_eq_none_iff]
          intro p hp
          exact bne_iff_ne.2 fun heq => h.1 (List.mem_map.2 ⟨p, hp, (heq.symm.trans hn)⟩)
        rw [hlookup]
        rfl
      · rfl

/-- **What a scope has captured** under a name. -/
theorem lookup_captured (h : ((frameNames s sc.frame).map Prod.fst).Nodup) (n : String) :
    (sc.captured s).lookup n =
      if n = Case.subjectName then none else ((frameNames s sc.frame).lookup n).join := by
  rw [← lookup_filterMap h, captured]
  generalize (frameNames s sc.frame).filterMap (fun p => p.2.map (p.1, ·)) = row
  induction row with
  | nil => simp
  | cons p row ih =>
    by_cases hp : p.1 = Case.subjectName
    · rw [List.filter_cons_of_neg (by simp [hp]), ih, Bindings.lookup_cons]
      split
      · rfl
      · next hn => rw [if_neg fun heq => hn (heq.trans hp)]
    · rw [List.filter_cons_of_pos (by simp [hp]), Bindings.lookup_cons, ih, Bindings.lookup_cons]
      split
      · next hn => rw [if_neg (hn ▸ hp)]
      · rfl

/-- Nothing is captured twice. -/
theorem nodup_captured (h : ((frameNames s sc.frame).map Prod.fst).Nodup) :
    ((sc.captured s).map Prod.fst).Nodup := by
  have hvalues (names : List (String × Option Value)) :
      ((names.filterMap fun p => p.2.map (p.1, ·)).map Prod.fst).Sublist (names.map Prod.fst) := by
    induction names with
    | nil => exact .slnil
    | cons p names ih =>
      obtain ⟨n, o⟩ := p
      cases o with
      | none => exact ih.cons n
      | some v => exact ih.cons_cons n
  exact h.sublist ((List.filter_sublist.map Prod.fst).trans (hvalues _))

/-- The names that a scope has captured. -/
theorem mem_captured_iff (h : ((frameNames s sc.frame).map Prod.fst).Nodup) :
    n ∈ (sc.captured s).map Prod.fst ↔
      n ≠ Case.subjectName ∧ ∃ v, (frameNames s sc.frame).lookup n = some (some v) := by
  rw [← not_iff_not, ← Bindings.lookup_eq_none_iff, lookup_captured h]
  split
  · next hn => simp [hn]
  · next hn =>
    rcases (frameNames s sc.frame).lookup n with _ | _ | v
    all_goals simp [hn]

end Scope

/-! ### The scope of a case -/

namespace Case

variable {c : Case} {v : Value} {b : Bindings} {s t : Store} {inner : Scope}

/-- The names of a case before its pattern is matched: only the subject has a value. -/
def ownNames (c : Case) (v : Value) : List (String × Option Value) :=
  Scope.setName subjectName v ((subjectName :: c.program.own.filter (· != subjectName)).map fun n => (n, none))

theorem nodup_ownNames (h : c.program.own.Nodup) (v : Value) : ((c.ownNames v).map Prod.fst).Nodup := by
  refine Scope.nodup_setName ?_ subjectName v
  rw [List.map_map, List.map_id'']
  · rw [List.nodup_cons]
    exact ⟨by simp, h.filter _⟩
  · exact fun n => rfl

theorem lookup_ownNames_subject (c : Case) (v : Value) : (c.ownNames v).lookup subjectName = some (some v) :=
  Scope.lookup_setName _ _ _

theorem lookup_ownNames {n : String} (hn : n ≠ subjectName) (a : Value) : (c.ownNames v).lookup n ≠ some (some a) := by
  rw [ownNames, Scope.lookup_setName_of_ne hn]
  intro h
  obtain ⟨before, after, hrow, -⟩ := List.lookup_eq_some_iff.1 h
  have hmem : (n, some a) ∈ (subjectName :: c.program.own.filter (· != subjectName)).map fun n => (n, none) := by
    rw [hrow]
    exact List.mem_append_right before List.mem_cons_self
  obtain ⟨m, -, hm⟩ := List.mem_map.1 hmem
  exact absurd (Prod.mk.inj hm).2 (by simp)

/-- **The scope that a case is tried in**: two frames are new in the store, and nothing else has changed. -/
structure Begins (c : Case) (v : Value) (b : Bindings) (s : Store) (inner : Scope) (t : Store) : Prop where
  /-- It is entered. -/
  gives : (c.enter v b).Gives s inner t
  /-- The frame around it is new, -/
  globals : s.objects.size ≤ inner.globals
  /-- and so is its own. -/
  frame : s.objects.size ≤ inner.frame
  /-- They are not the same. -/
  ne : inner.frame ≠ inner.globals
  /-- An assignment binds a name of its own. -/
  target : inner.target = inner.frame
  /-- What is around it are the bindings. -/
  around : t.object? inner.globals = some (.frame (b.map fun q => (q.1, some q.2)))
  /-- Its own names. -/
  own : t.object? inner.frame = some (.frame (c.ownNames v))
  /-- All other objects were there before. -/
  rest : ∀ id o, t.object? id = some o → o.isFrame = false → s.object? id = some o

theorem Begins.frame_lt (h : c.Begins v b s inner t) : inner.frame < t.objects.size :=
  (Array.getElem?_eq_some_iff.1 h.own).1

/-- **The frames of a case** are watched from its beginning on. -/
theorem Begins.covers (h : c.Begins v b s inner t) (hs : s.Closed) {w : Watch}
    (hown : ∀ id, w.own = some id → id = inner.frame ∨ id = inner.globals)
    (haround : ∀ id, w.around = some id → id = inner.frame ∨ id = inner.globals)
    (hbase : w.base ≤ t.objects.size) : w.Covers t := by
  have hframe : ∀ id, id = inner.frame ∨ id = inner.globals → ∃ names, t.object? id = some (.frame names) := by
    rintro id (rfl | rfl)
    · exact ⟨_, h.own⟩
    · exact ⟨_, h.around⟩
  have hnew : ∀ id, id = inner.frame ∨ id = inner.globals → s.objects.size ≤ id := by
    rintro id (rfl | rfl)
    · exact h.frame
    · exact h.globals
  have hapart {id : Nat} (hlt : id < s.objects.size) : (w.upTo t.objects.size).Apart id :=
    ⟨fun hid => Nat.not_lt_of_le (hnew id (hown id hid)) hlt,
      fun hid => Nat.not_lt_of_le (hnew id (haround id hid)) hlt⟩
  have hsize : s.objects.size ≤ t.objects.size := h.frame.trans h.frame_lt.le
  refine ⟨fun id hid => hframe id (hown id hid), fun id hid => hframe id (haround id hid), hbase,
    fun id o g ho hg => ?_⟩
  have hisFrame : o.isFrame = false := by
    cases o with
    | frame => exact absurd hg.symm (Option.some_ne_none g)
    | _ => rfl
  obtain ⟨hgframe, hgtarget⟩ := hs id o g (h.rest id o ho hisFrame) hg
  exact ⟨hapart hgframe, hgframe.trans_le hsize,
    fun e _ => Watch.admits_of_apart (hapart hgtarget) (hgtarget.trans_le hsize) e⟩

end Case

/-! ### What is assigned -/

namespace Watch

variable {w : Watch} {s t : Store} {sc : Scope} {m : Bindings}

/-- **Names are bound one after another** in the frame in which they may be assigned. -/
theorem Covers.bindAll (h : w.Covers s) (hown : w.own = some sc.frame) (hne : w.around ≠ some sc.frame)
    (hgives : (m.forM fun q => sc.bindHere q.1 q.2).Gives s () t) :
    w.Covers t ∧ Scope.frameNames t sc.frame = Scope.setNames (Scope.frameNames s sc.frame) m ∧
      ∀ id, w.around = some id → t.object? id = s.object? id := by
  induction m generalizing s with
  | nil =>
    obtain ⟨-, rfl⟩ := gives_pure_iff.1 hgives
    exact ⟨h, rfl, fun _ _ => rfl⟩
  | cons q m ih =>
    obtain ⟨_, u, hq, hm⟩ := gives_bind_iff.1 hgives
    dsimp only at hq
    rw [Scope.bindHere_eq] at hq
    obtain rfl := hq.store_eq
    obtain ⟨hcovers, hnames, haround⟩ := ih (h.assign hown hne q.1 q.2) hm
    refine ⟨hcovers, hnames.trans ?_, fun id hid => (haround id hid).trans (object?_setStore_ne ?_ _)⟩
    · rw [h.frameNames_setStore hown]
      rfl
    · rintro rfl
      exact hne hid

end Watch

/-- **A guard assigns a name** in the scope of its case: the evaluator that stops there comes to its end. -/
def Evaluator.GuardAssigns (depth calls : Nat) (sc : Scope) (guard : Option Payload.Expr) (s : Store) (n : String) :
    Prop :=
  ((stoppingAt (some sc.target) n depth calls).guardHolds sc guard s).outcome = .error .exhausted

namespace Case

variable {c : Case} {v : Value} {b m : Bindings} {s t u w x : Store} {inner : Scope} {p : Payload.Pattern}
  {guard : Option Payload.Expr} {depth calls : Nat}

/-- **The names of a case once its guard holds**: the pattern has bound its own, and then the guard has assigned some,
among them a given one or not. The bindings around the case are as they were. -/
theorem Begins.frameNames_of_holds (h : c.Begins v b s inner t) (hs : s.Closed)
    (hmatch : (inner.matchPattern v p).Gives t (some m) u)
    (hbind : (m.forM fun q => inner.bindHere q.1 q.2).Gives u () w)
    (hguard : ((Evaluator.ofDepth depth calls).guardHolds inner guard).Gives w true x) (n : String) :
    ∃ b', Scope.frameNames x inner.frame = Scope.setNames (Scope.setNames (c.ownNames v) m) b' ∧
      (n ∈ b'.map Prod.fst ↔ Evaluator.GuardAssigns depth calls inner guard w n) ∧
      (∀ q ∈ b', ∃ e, guard = some e ∧ e.Assigns q.1) ∧
      x.object? inner.globals = some (.frame (b.map fun q => (q.1, some q.2))) := by
  let still : Watch := ⟨some inner.frame, some inner.globals, fun _ => False, n, t.objects.size⟩
  let guarded : Watch := { still with Allows := fun n => ∃ e, guard = some e ∧ e.Assigns n }
  have hown : Scope.frameNames t inner.frame = c.ownNames v := by rw [Scope.frameNames, h.own]
  have hne : guarded.around ≠ some inner.frame := fun heq => h.ne (Option.some.inj heq).symm
  -- matching the pattern leaves the frame as it is
  have ht : still.Covers t := h.covers hs (fun _ hid => .inl (Option.some.inj hid).symm)
    (fun _ hid => .inr (Option.some.inj hid).symm) (Nat.le_refl _)
  obtain ⟨none', hstill, -⟩ := Watch.Follows.of_inspects (inner.inspects_matchPattern p v) t ht
  rw [hmatch.store_eq] at hstill
  obtain rfl : none' = [] := List.eq_nil_iff_forall_not_mem.2 hstill.allows
  -- its names are bound
  have hguarded : guarded.Covers u := hstill.covers.mono fun _ => False.elim
  obtain ⟨hcovers, hbound, haround⟩ := hguarded.bindAll rfl hne hbind
  -- and the guard assigns some
  have hadmits : ∀ e, guard = some e → guarded.Admits inner e := fun e he =>
    ⟨h.target ▸ h.frame_lt, h.target ▸ hne, fun _ n hn => ⟨e, he, hn⟩⟩
  obtain ⟨b', hmoves, hends⟩ := Watch.follows_guardHolds (Watch.leads_stoppingAt guarded depth calls) hadmits w hcovers
  rw [hguard.store_eq] at hmoves
  refine ⟨b', ?_, ?_, hmoves.allows,
    (hmoves.around _ rfl).trans ((haround _ rfl).trans ((hstill.around _ rfl).trans h.around))⟩
  · rw [← hown]
    refine (hmoves.own _ rfl).trans (congrArg (Scope.setNames · b') (hbound.trans ?_))
    exact congrArg (Scope.setNames · m) (hstill.own _ rfl)
  · rw [Evaluator.GuardAssigns, h.target]
    rcases hends with ⟨hsame, hn⟩ | ⟨hstopped, hn⟩
    · refine iff_of_false hn fun hstopped => ?_
      exact absurd (hguard.outcome_eq.symm.trans ((congrArg Step.outcome hsame).symm.trans hstopped)) (by simp)
    · exact iff_of_true hn hstopped

end Case

end TokenTemplate
