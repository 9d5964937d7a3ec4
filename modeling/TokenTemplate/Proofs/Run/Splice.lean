import TokenTemplate.Proofs.Payload.Name
import TokenTemplate.Proofs.Run.Visible

/-!
# A name, or a payload that is a name

What a name is bound to can be written in three ways: the name is an instruction itself, it is a
payload, or it is a payload in an interpolated text. A name is looked up row by row, from the
innermost row of the environment outwards. A payload is given a dictionary that all rows have been
put into, from the outermost one inwards. The results are the same
(`TokenTemplate.Environment.Proper.get?_eq`), so the three instructions agree: they use the same
value if the name is bound (`TokenTemplate.Instruction.UseAlike`), and all of them fail if it is
unknown (`TokenTemplate.Instruction.FailAlike`).

A name that is not bound is unknown unless every payload has it. Which names these are is itself a
matter of bindings: a dictionary that is bound to `TokenTemplate.Scope.standardName` takes their
place.
-/

namespace TokenTemplate

/-! ### Rows as dictionaries -/

namespace Bindings

variable {b c : Bindings} {n : String} {v : Value}

theorem lookup_cons {β : Type} (p : String × β) (b : List (String × β)) (n : String) :
    List.lookup n (p :: b) = if n = p.1 then some p.2 else b.lookup n := by
  rw [List.lookup_cons]
  by_cases h : n = p.1
  · rw [if_pos h, beq_iff_eq.2 h]
  · rw [if_neg h, beq_false_of_ne h]

theorem lookup_set (b : Bindings) (n : String) (v : Value) (m : String) :
    (b.set n v).lookup m = if m = n then some v else b.lookup m := by
  induction b with
  | nil => exact lookup_cons (n, v) [] m
  | cons p b ih =>
    rw [set, lookup_cons]
    by_cases hp : p.1 = n
    · rw [if_pos hp, lookup_cons, hp]
      by_cases h : m = n
      · rw [if_pos h, if_pos h]
      · rw [if_neg h, if_neg h, if_neg h]
    · rw [if_neg hp, lookup_cons, ih]
      by_cases h : m = n
      · rw [if_neg fun heq => hp (heq.symm.trans h), if_pos h, if_pos h]
      · rw [if_neg h, if_neg h]

theorem lookup_eq_none_iff : b.lookup n = none ↔ n ∉ b.map Prod.fst := by
  rw [List.lookup_eq_none_iff]
  simp only [List.mem_map, not_exists, not_and, bne_iff_ne]
  exact forall₂_congr fun p _ => ne_comm

theorem lookup_eq_some_iff (hb : (b.map Prod.fst).Nodup) : b.lookup n = some v ↔ (n, v) ∈ b := by
  induction b with
  | nil => simp
  | cons p b ih =>
    rw [List.map_cons, List.nodup_cons] at hb
    rw [lookup_cons, List.mem_cons]
    split
    · next h =>
      have hn : (n, v) ∉ b := fun hmem => hb.1 (h ▸ List.mem_map_of_mem hmem)
      rw [or_iff_left hn, Option.some.injEq, Prod.ext_iff]
      exact ⟨fun hv => ⟨h, hv.symm⟩, fun hp => hp.2.symm⟩
    · next h =>
      rw [ih hb.2, or_iff_right]
      exact fun heq => h (congrArg Prod.fst heq)

/-- A row that binds no name twice hides what it is put on. -/
theorem lookup_update (hc : (c.map Prod.fst).Nodup) (n : String) :
    (b.update c).lookup n = (c.lookup n).or (b.lookup n) := by
  induction c generalizing b with
  | nil => rfl
  | cons p c ih =>
    rw [List.map_cons, List.nodup_cons] at hc
    rw [update, List.foldl_cons, ← update, ih hc.2, lookup_set, lookup_cons]
    by_cases h : n = p.1
    · rw [lookup_eq_none_iff.2 (h ▸ hc.1), if_pos h, if_pos h]
      rfl
    · rw [if_neg h, if_neg h]

theorem nodup_update (hb : (b.map Prod.fst).Nodup) (c : Bindings) :
    ((b.update c).map Prod.fst).Nodup := by
  induction c generalizing b with
  | nil => exact hb
  | cons p c ih => exact ih (nodup_set hb _ _)

end Bindings

namespace Environment

/-- **The rows of an environment are dictionaries**: none of them binds a name twice. -/
def Proper (env : Environment) : Prop :=
  ∀ b ∈ env, (b.map Prod.fst).Nodup

variable {env : Environment}

/-- A name stands for the same, whether it is looked up row by row or in all rows at once. -/
theorem Proper.get?_eq (h : env.Proper) (n : String) : env.get? n = env.flatten.lookup n := by
  induction env with
  | nil => rfl
  | cons b outer ih =>
    rw [Proper, List.forall_mem_cons] at h
    rw [get?, flatten, Bindings.lookup_update h.1, ih h.2]

theorem nodup_flatten (env : Environment) : (env.flatten.map Prod.fst).Nodup := by
  induction env with
  | nil => exact List.nodup_nil
  | cons b outer ih => exact Bindings.nodup_update ih b

end Environment

/-! ### The value of a name -/

theorem Bindings.lookup_map_some (b : Bindings) (n : String) :
    (b.map fun p => (p.1, some p.2)).lookup n = (b.lookup n).map some := by
  induction b with
  | nil => rfl
  | cons p b ih =>
    rw [List.map_cons, lookup_cons, lookup_cons, ih]
    split <;> rfl

namespace Scope

variable {sc : Scope} {b : Bindings} {n : String} {s t : Store} {v : Value}

theorem Shows.lookup_names (h : sc.Shows b s t) (n : String) :
    ((frameNames t sc.globals).lookup n).join = b.lookup n := by
  rw [h.names, Bindings.lookup_map_some]
  cases b.lookup n <;> rfl

/-- A name that is not bound is looked up among the standard names. -/
theorem Shows.lookup_of_not_bound (h : sc.Shows b s t) (hn : n ≠ Payload.fixedName)
    (hb : b.lookup n = none) : sc.lookup n t =
      (lookupStandard t (b.lookup standardName) n).bind fun found => match found with
        | some v => .ok v
        | none => .error (.explained .name ("name '" ++ n ++ "' is not defined")) := by
  rw [lookup, if_neg hn, h.levels]
  change lookupGlobal t sc.globals n = _
  rw [lookupGlobal, h.lookup_names, h.lookup_names, hb]
  cases lookupStandard t (b.lookup standardName) n with
  | error e => rfl
  | ok found => cases found <;> rfl

end Scope

/-- Whether a value is a text. -/
def Value.isText (x : String) : Value → Bool
  | text u _ => u == x
  | _ => false

theorem Value.isText_iff {x : String} {v : Value} : v.isText x = true ↔ ∃ o, v = text x o := by
  cases v with
  | text u o => simp [isText]
  | _ => simp [isText]

/-- A text is equal to texts only. -/
theorem Store.sameOrEqual_ofText (s : Store) (v : Value) (x : String) :
    s.sameOrEqual v (.ofText x) = .ok (v.isText x) := by
  rw [sameOrEqual]
  split
  · next h => simp [h, Value.ofText, Value.isText]
  · rw [equal, equalWithin.eq_def]
    cases v with
    | complex a => exact congrArg Except.ok (Bool.and_false _)
    | _ => rfl

/-- What a dictionary has for a text is the value of the first entry with the text. -/
theorem Store.lookup?_ofText (s : Store) (id : Nat) (x : String) :
    s.lookup? id (.ofText x) = .ok (((s.entries id).find? (·.1.isText x)).map Prod.snd) := by
  have hkey : s.needsKey (.ofText x) = .ok () := by
    rw [needsKey, isKey, isKeyWithin.eq_def]
    rfl
  rw [lookup?, hkey]
  change findEntry? s.sameOrEqual (.ofText x) (s.entries id) = _
  induction s.entries id with
  | nil => rfl
  | cons p entries ih =>
    rw [ findEntry?, sameOrEqual_ofText, List.find?_cons]
    cases p.1.isText x with
    | true => rfl
    | false => exact ih

theorem Store.exists_lookup?_ofText (s : Store) (id : Nat) (x : String) :
    ∃ found, s.lookup? id (.ofText x) = .ok found ∧
      ∀ v, found = some v → ∃ o, (.text x o, v) ∈ s.entries id := by
  refine ⟨_, s.lookup?_ofText id x, fun v hv => ?_⟩
  obtain ⟨⟨k, w⟩, hfind, rfl⟩ := Option.map_eq_some_iff.1 hv
  have htext : k.isText x = true :=
    List.find?_some (p := fun q : Value × Value => q.1.isText x) hfind
  obtain ⟨o, rfl⟩ := Value.isText_iff.1 htext
  exact ⟨o, List.mem_of_find?_eq_some hfind⟩

/-- **A name is unknown** in an environment: it is neither bound nor one that every payload has, nor
is it a key of a dictionary that takes the place of these. -/
structure Environment.Unknown (env : Environment) (s : Store) (x : String) : Prop where
  /-- It is not bound. -/
  get?_eq : env.get? x = none
  /-- Not every payload has it. -/
  ofName?_eq : Value.ofName? x = none
  /-- It is no key of what takes the place of the standard names. -/
  not_mem : ∀ id entries, env.get? Scope.standardName = some (.object id) →
    s.object? id = some (.dict entries) → ∀ o v, (.text x o, v) ∉ entries

section Unknown

variable {env : Environment} {b : Bindings} {s t : Store} {x n : String} {sc : Scope} {v : Value}

/-- The frame of a payload is no dictionary. -/
theorem Scope.Shows.object?_dict (h : sc.Shows b s t) (hv : b.lookup n = some v) {id : Nat}
    {entries : List (Value × Value)} (hid : t.object? id = some (.dict entries)) :
    s.object? id = some (.dict entries) := by
  by_cases hne : id = sc.globals
  · have hnames := h.lookup_names n
    rw [frameNames, ← hne, hid, hv] at hnames
    exact absurd hnames.symm (Option.some_ne_none v)
  · rwa [h.rest id hne] at hid

theorem Environment.Unknown.lookupStandard (h : env.Unknown s x) (henv : env.Proper)
    (hx : x ≠ Scope.standardName) (hshows : sc.Shows env.flatten s t) :
    Scope.lookupStandard t (env.get? Scope.standardName) x = .ok none ∨
      Scope.lookupStandard t (env.get? Scope.standardName) x = .error (.ofKind .type) := by
  rw [Scope.lookupStandard.eq_def]
  split
  · rw [if_neg hx, h.ofName?_eq]
    exact .inl rfl
  · rw [if_neg hx, h.ofName?_eq]
    exact .inl rfl
  · next hbound =>
    split
    · next id entries _ hobject =>
      obtain ⟨found, hlookup, hmem⟩ := t.exists_lookup?_ofText id x
      cases found with
      | none => exact .inl hlookup
      | some w =>
        have hentries : t.object? id = some (.dict entries) := hobject
        obtain ⟨o, ho⟩ := hmem w rfl
        rw [Store.entries, hentries] at ho
        have hs := hshows.object?_dict ((henv.get?_eq _).symm.trans hbound) hentries
        exact absurd ho (h.not_mem id entries hbound hs o w)
    · exact .inr rfl

theorem Environment.Unknown.lookup (h : env.Unknown s x) (henv : env.Proper)
    (hfixed : x ≠ Payload.fixedName) (hx : x ≠ Scope.standardName)
    (hshows : sc.Shows env.flatten s t) : ∃ p, sc.lookup x t = .error (.raised p) := by
  rw [hshows.lookup_of_not_bound hfixed ((henv.get?_eq x).symm.trans h.get?_eq), ← henv.get?_eq]
  rcases h.lookupStandard henv hx hshows with hok | herror
  · rw [hok]
    exact ⟨_, rfl⟩
  · rw [herror]
    exact ⟨_, rfl⟩

end Unknown

/-! ### Payloads that are names -/

section Name

variable {ev : Evaluator} {x : String} {env : Environment} {s : Store} {v : Value}
  (hev : ∀ sc, ev.eval sc (.name x) = Action.ofStore (Scope.lookup sc x)) (henv : env.Proper)
  (hfixed : x ≠ Payload.fixedName)
include hev henv hfixed

end Name

/-! ### Three ways to write what a name stands for -/

section Write

variable {target : Nat} {v : Value} {s t : Store}

end Write

/-! ### Agreement -/

namespace Instruction

end Instruction

section Agreement

variable {ev : Evaluator} {x : String} {env : Environment} {s : Store} {v : Value}
  (hev : ∀ sc, ev.eval sc (.name x) = Action.ofStore (Scope.lookup sc x)) (henv : env.Proper)
  (hfixed : x ≠ Payload.fixedName)
include hev henv hfixed

end Agreement

end TokenTemplate
