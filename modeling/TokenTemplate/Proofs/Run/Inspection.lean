import TokenTemplate.Evaluation.Match
import TokenTemplate.Proofs.Run.Ending

/-!
# Actions that inspect

An action inspects (`TokenTemplate.Action.Inspects`) if it is put together from values, faults, what can be seen in
the store, and new objects that are no comprehensions. Getting an attribute is such an action, and so is matching a
pattern: `TokenTemplate.Scope.inspects_matchPattern`. A pattern has no payloads, so nothing that it asks for is in
the hands of a template.

What such actions leave alone is shown by induction on how they are put together, without looking at any of them
again. Here it is the objects that are there: `TokenTemplate.Action.Inspects.object?_eq`.
-/

namespace TokenTemplate

/-- The comprehension that an object is. -/
def Object.generation? : Object → Option Generation
  | .iterator (.generation g) => some g
  | _ => none

namespace Action

/-- **An action inspects**: it sees what is in the store, and makes objects that are no comprehensions. -/
inductive Inspects : {α : Type} → Action α → Prop
  /-- It gives a value, -/
  | pure {α : Type} (a : α) : Inspects (Pure.pure a)
  /-- or fails. -/
  | fail {α : Type} (e : Fault) : Inspects (Action.fail e : Action α)
  /-- It looks at the store, -/
  | look {α : Type} (f : Store → α) : Inspects (Action.look f)
  /-- where it may not find what it looks for. -/
  | ofStore {α : Type} (f : Store → Except Fault α) : Inspects (Action.ofStore f)
  /-- It makes a value, -/
  | made (v : Value) : Inspects (Action.made v)
  /-- or an object. -/
  | allocate {o : Object} (h : o.generation? = none) : Inspects (Action.allocate o)
  /-- It does one of these things and then another one, but not when the means of the run are at an end. -/
  | followedBy {α β : Type} {x : Action α} {f : Except Fault α → Action β} (hx : Inspects x)
    (hf : ∀ o, Inspects (f o)) (hexhausted : ∀ s, (f (.error .exhausted) s).outcome = .error .exhausted) :
    Inspects (x.followedBy f)

namespace Inspects

variable {α β : Type} {x : Action α}

theorem failWith (k : ErrorKind) : (Action.failWith k : Action α).Inspects :=
  .fail _

theorem bind (hx : x.Inspects) {f : α → Action β} (hf : ∀ a, (f a).Inspects) : (x >>= f).Inspects := by
  rw [bind_eq_followedBy]
  refine hx.followedBy (fun o => ?_) fun _ => rfl
  cases o with
  | error e => exact .fail e
  | ok a => exact hf a

theorem recover (hx : x.Inspects) {f : Fault → Action α} (hf : ∀ e, (f e).Inspects)
    (hexhausted : ∀ s, (f .exhausted s).outcome = .error .exhausted) : (x.recover f).Inspects := by
  rw [recover_eq_followedBy]
  refine hx.followedBy (fun o => ?_) hexhausted
  cases o with
  | error e => exact hf e
  | ok a => exact .pure a

theorem map (hx : x.Inspects) (f : α → β) : (f <$> x).Inspects := by
  rw [map_eq_pure_bind]
  exact hx.bind fun a => .pure (f a)

theorem mapM {f : α → Action β} (hf : ∀ a, (f a).Inspects) (row : List α) : (row.mapM f).Inspects := by
  induction row with
  | nil => exact .pure []
  | cons a row ih =>
    rw [List.mapM_cons]
    exact (hf a).bind fun b => ih.bind fun bs => .pure (b :: bs)

theorem foldlM {f : β → α → Action β} (hf : ∀ b a, (f b a).Inspects) (row : List α) (b : β) :
    (row.foldlM f b).Inspects := by
  induction row generalizing b with
  | nil => exact .pure b
  | cons a row ih =>
    rw [List.foldlM_cons]
    exact (hf b a).bind ih

theorem new {o : Object} (h : o.generation? = none) : (Action.new o).Inspects :=
  (allocate h).bind fun id => .pure (Value.object id)

/-! ### Objects that are there -/

/-- There are no fewer objects afterwards. -/
theorem size_le (hx : x.Inspects) (s : Store) : s.objects.size ≤ (x s).store.objects.size := by
  induction hx generalizing s with
  | pure | fail | look | ofStore | made => exact Nat.le_refl _
  | allocate => exact (Array.size_push _).symm ▸ Nat.le_succ _
  | followedBy _ _ _ ihx ihf => exact Nat.le_trans (ihx s) (ihf _ _)

/-- **Every object that is there stays as it is.** -/
theorem object?_eq (hx : x.Inspects) {s : Store} {id : Nat} (hid : id < s.objects.size) :
    (x s).store.object? id = s.object? id := by
  induction hx generalizing s with
  | pure | fail | look | ofStore | made => rfl
  | allocate => exact Array.getElem?_push_lt hid |>.trans (Array.getElem?_eq_getElem hid).symm
  | followedBy hinspects _ _ ihx ihf =>
    exact (ihf _ (Nat.lt_of_lt_of_le hid (hinspects.size_le s))).trans (ihx hid)

end Inspects

end Action

open TokenTemplate.Action

/-! ### Attributes -/

/-- **Getting an attribute** makes at most a method. -/
theorem Evaluator.inspects_attributeOf (v : Value) (n : String) : (attributeOf v n).Inspects := by
  unfold attributeOf
  refine (Inspects.look _).bind fun o => ?_
  split
  · split
    · exact .pure _
    · exact .failWith _
  · split
    · exact .pure _
    · exact .pure _
    · exact .failWith _
  · split
    · exact .pure _
    · exact .failWith _
  · split
    · exact .pure _
    · exact .pure _
    · split
      · exact .new rfl
      · exact .failWith _
  · refine (Inspects.look _).bind fun m => ?_
    split
    · exact .made _
    · exact .new rfl
    · exact .failWith _

namespace Scope

variable (sc : Scope)

theorem inspects_dottedValue (root : String) (path : List String) : (sc.dottedValue root path).Inspects :=
  (Inspects.ofStore _).bind fun v => Inspects.foldlM Evaluator.inspects_attributeOf path v

theorem inspects_attributesOf (v : Value) (ns : List String) : (attributesOf v ns).Inspects := by
  induction ns with
  | nil => exact .pure _
  | cons n ns ih =>
    rw [attributesOf]
    -- only a missing attribute is recovered from
    refine (((Evaluator.inspects_attributeOf v n).map some).recover (fun e => ?_) fun _ => rfl).bind fun found => ?_
    · split
      · exact .pure _
      · exact .fail _
    · split
      · exact .pure _
      · exact ih.bind fun _ => .pure _

/-! ### Patterns -/

theorem inspects_matchesLiteral (c : Payload.Constant) (v : Value) : (matchesLiteral c v).Inspects := by
  unfold matchesLiteral
  split
  · exact .pure _
  · exact .pure _
  · exact .ofStore _

theorem inspects_keyValue (k : Payload.Key) : (sc.keyValue k).Inspects := by
  cases k with
  | literal c => exact .pure _
  | value root path => exact sc.inspects_dottedValue root path

theorem inspects_lookupAll (id : Nat) (seen keys : List Value) : (lookupAll id seen keys).Inspects := by
  induction keys generalizing seen with
  | nil => exact .pure _
  | cons k keys ih =>
    rw [lookupAll]
    refine (Inspects.ofStore _).bind fun _ => (Inspects.ofStore _).bind fun twice => ?_
    split
    · exact .failWith _
    · refine (Inspects.ofStore _).bind fun found => ?_
      split
      · exact .pure _
      · exact (ih _).bind fun _ => .pure _

section Parts

variable {sc} {spare : Nat}

theorem inspects_matchParts {parts : List Payload.Pattern} (h : ∀ p ∈ parts, ∀ v, (sc.matchPattern v p).Inspects)
    (items : List Value) : (sc.matchParts spare items parts).Inspects := by
  induction parts generalizing items with
  | nil =>
    unfold matchParts
    exact .pure _
  | cons p parts ih =>
    obtain ⟨hp, hparts⟩ := List.forall_mem_cons.1 h
    unfold matchParts
    split
    · next heq => exact nomatch heq
    · next row _ _ n ps heq =>
      -- a starred part takes what is spare, as a list if it has a name
      obtain ⟨rfl, rfl⟩ := List.cons.inj heq
      extract_lets finish
      have hfinish : ∀ taken, (finish taken).Inspects := fun _ => (ih hparts _).bind fun _ => .pure _
      split
      · exact (Inspects.pure _).bind hfinish
      · exact (Inspects.new rfl).bind fun _ => (Inspects.pure _).bind hfinish
    · next heq =>
      obtain ⟨rfl, rfl⟩ := List.cons.inj heq
      refine (hp _).bind fun captured => ?_
      split
      · exact .pure _
      · exact (ih hparts _).bind fun _ => .pure _
    · exact .pure _

theorem inspects_matchEntries {entries : List (Payload.Key × Payload.Pattern)}
    (h : ∀ k p, (k, p) ∈ entries → ∀ v, (sc.matchPattern v p).Inspects) (values : List Value) :
    (sc.matchEntries values entries).Inspects := by
  induction entries generalizing values with
  | nil => cases values <;> exact .pure _
  | cons e entries ih =>
    cases values with
    | nil => exact .pure _
    | cons v values =>
      refine (h e.1 e.2 List.mem_cons_self v).bind fun captured => ?_
      split
      · exact .pure _
      · exact (ih (fun k p hp => h k p (List.mem_cons_of_mem _ hp)) values).bind fun _ => .pure _

theorem inspects_matchAttributes {attributes : List (String × Payload.Pattern)}
    (h : ∀ n p, (n, p) ∈ attributes → ∀ v, (sc.matchPattern v p).Inspects) (values : List Value) :
    (sc.matchAttributes values attributes).Inspects := by
  rw [matchAttributes_eq_matchEntries sc (.literal .none)]
  exact inspects_matchEntries (forall_entries_of_attributes h) values

theorem inspects_matchFirst {ps : List Payload.Pattern} (h : ∀ p ∈ ps, ∀ v, (sc.matchPattern v p).Inspects)
    (v : Value) : (sc.matchFirst v ps).Inspects := by
  induction ps with
  | nil => exact .pure _
  | cons p ps ih =>
    obtain ⟨hp, hps⟩ := List.forall_mem_cons.1 h
    rw [matchFirst]
    refine (hp v).bind fun captured => ?_
    split
    · exact .pure _
    · exact ih hps

end Parts

/-- **Matching a pattern** only inspects: what its names stand for is bound afterwards. -/
theorem inspects_matchPattern (p : Payload.Pattern) (v : Value) : (sc.matchPattern v p).Inspects := by
  unfold matchPattern
  match p with
  | .literal c => exact (inspects_matchesLiteral c v).bind fun _ => .pure _
  | .capture n => exact .pure _
  | .wildcard => exact .pure _
  | .value root path =>
    exact (sc.inspects_dottedValue root path).bind fun w => (Inspects.ofStore _).bind fun _ => .pure _
  | .sequence parts =>
    refine (Inspects.look _).bind fun length => ?_
    split
    · exact .pure _
    · dsimp only
      split
      · exact .pure _
      · exact (Inspects.look _).bind fun _ => inspects_matchParts (fun p hp => inspects_matchPattern p) _
  | .starred _ => exact .pure _
  | .mapping entries rest =>
    refine (Inspects.look _).bind fun o => ?_
    split
    · split
      · exact .pure _
      · refine (Inspects.mapM (fun e => sc.inspects_keyValue e.1) entries).bind fun keys => ?_
        refine (inspects_lookupAll _ _ keys).bind fun found => ?_
        split
        · exact .pure _
        · refine (inspects_matchEntries (fun k p hp => inspects_matchPattern p) _).bind fun captured => ?_
          split
          · exact .pure _
          · exact .pure _
          · exact (Inspects.ofStore _).bind fun left => (Inspects.new rfl).bind fun _ => .pure _
    · exact .pure _
  | .typed root path parts attributes =>
    refine (sc.inspects_dottedValue root path).bind fun w => ?_
    split
    · next k =>
      refine (Inspects.ofStore _).bind fun isOf => ?_
      generalize (if isOwnPart k then 1 else 0) = most
      split
      · exact .pure _
      · split
        · exact .failWith _
        · refine (inspects_attributesOf v _).bind fun found => ?_
          split
          · exact .pure _
          · refine (inspects_matchParts (fun p hp => inspects_matchPattern p) _).bind fun captured => ?_
            split
            · exact .pure _
            · exact (inspects_matchAttributes (fun n p hp => inspects_matchPattern p) _).bind fun _ => .pure _
    · exact .failWith _
  | .alternatives ps => exact inspects_matchFirst (fun p hp => inspects_matchPattern p) v
  | .named p n => exact (inspects_matchPattern p v).bind fun _ => .pure _
termination_by p
decreasing_by
  -- a part of a row is smaller than the row, and so are both parts of an entry
  all_goals
    simp_wf
    try have := List.sizeOf_lt_of_mem hp
    grind

end Scope

end TokenTemplate
