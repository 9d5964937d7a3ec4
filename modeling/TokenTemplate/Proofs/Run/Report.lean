import TokenTemplate.Proofs.Routine.Grouped
import TokenTemplate.Proofs.Run.Reached
import TokenTemplate.Run.Depth

/-!
# What runs report

A run that fails has done something that failed, and for most of what it does this is a report: it
names the template, says what failed, and stands where the payload or the name stands
(`TokenTemplate.Deed.Reports`). A few things are done without that, `TokenTemplate.Deed.Escapes`, and
their faults come out as they are: getting the next item of a loop, getting the text of a value,
showing an item that does not match, and a result that no pattern has. That there is nothing else is
`TokenTemplate.Routine.reports_of_fails`.
-/

namespace TokenTemplate

/-! ### Moments of a compiled routine -/

section Grouped

variable {ev : Evaluator} {target : Nat} {filename : String} {P : Instruction → Prop}

/-- A body that is entered is one of those of its instruction. -/
theorem Moment.Enters.mem_bodies {m : Moment} {layer : Option Layer} {st : Stretch}
    (h : m.Enters ev target layer st) :
    ∃ r ∈ m.instruction.bodies, ∃ env s, st = r.stretch env s := by
  cases h with
  | yes | body | scope => exact ⟨_, List.mem_cons_self, _, _, rfl⟩
  | no => exact ⟨_, List.mem_cons_of_mem _ (List.mem_singleton.2 rfl), _, _, rfl⟩
  | join hjoin =>
    refine ⟨_, List.mem_cons_of_mem _ ?_, _, _, rfl⟩
    rw [hjoin]
    exact List.mem_singleton.2 rfl
  | @arm x before after c body =>
    have hmem : (c, body) ∈ before ++ (c, body) :: after :=
      List.mem_append_right _ List.mem_cons_self
    exact ⟨body, List.mem_map.2 ⟨_, hmem, rfl⟩, _, _, rfl⟩

/-- An instruction of a grouped row is as it is said to be, or it writes an item. -/
theorem Grouped.of_mem {is : List Instruction} {i : Instruction} (h : Grouped filename P is)
    (hi : i ∈ is) :
    (P i ∨ ∃ item : Item, i = item.instruction) ∧
      ∀ r ∈ i.bodies, r.filename = filename ∧ Grouped filename P r.instructions := by
  have hitem {items : List Item} (hmem : i ∈ items.map Item.instruction) :
      (P i ∨ ∃ item : Item, i = item.instruction) ∧
        ∀ r ∈ i.bodies, r.filename = filename ∧ Grouped filename P r.instructions := by
    obtain ⟨item, -, rfl⟩ := List.mem_map.1 hmem
    refine ⟨.inr ⟨item, rfl⟩, fun r hr => ?_⟩
    cases item <;> exact absurd hr List.not_mem_nil
  induction h with
  | nil => exact absurd hi List.not_mem_nil
  | single hP hname hbodies =>
    obtain rfl := List.mem_singleton.1 hi
    exact ⟨.inl hP, fun r hr => ⟨hname r hr, hbodies r hr⟩⟩
  | append _ _ ih ih' =>
    rcases List.mem_append.1 hi with hi | hi
    · exact ih hi
    · exact ih' hi
  | group d _ ih =>
    rcases List.mem_append.1 hi with hi | hi
    · rcases List.mem_append.1 hi with hi | hi
      · exact hitem hi
      · exact ih hi
    · exact hitem hi

/-- **What is known of the instructions of a routine** at all depths is known of those that a run gets
to. -/
theorem Moment.Reached.grouped {start : Stretch} {layers : List Layer} {m : Moment}
    (h : Reached ev target start layers m) (hname : start.filename = filename)
    (hstart : Grouped filename P start.instructions) :
    m.filename = filename ∧ (P m.instruction ∨ ∃ item : Item, m.instruction = item.instruction) ∧
      ∀ r ∈ m.instruction.bodies, r.filename = filename ∧ Grouped filename P r.instructions := by
  have hmeets {st : Stretch} {m : Moment} (hst : st.Meets ev target m)
      (hname : st.filename = filename) (hgrouped : Grouped filename P st.instructions) :
      m.filename = filename ∧ (P m.instruction ∨ ∃ item : Item, m.instruction = item.instruction) ∧
        ∀ r ∈ m.instruction.bodies, r.filename = filename ∧ Grouped filename P r.instructions := by
    obtain ⟨-⟩ := hst
    exact ⟨hname, hgrouped.of_mem (List.mem_append_right _ List.mem_cons_self)⟩
  induction h with
  | first h => exact hmeets h hname hstart
  | next _ henters hst ih =>
    obtain ⟨r, hr, env, s, rfl⟩ := henters.mem_bodies
    obtain ⟨hname, hgrouped⟩ := ih.2.2 r hr
    exact hmeets hst hname hgrouped

end Grouped

/-! ### Faults of single deeds -/

/-- **What is not reported**: which fault comes out as it is. -/
inductive Deed.Escapes (s : Store) : Deed → Fault → Prop
  /-- The iterator of a loop fails. -/
  | next {it : Nat} {e : Fault} : Escapes s (.next it) e
  /-- The receiver does not take a value. -/
  | value {v : Value} {e : Fault} : Escapes s (.value v) e
  /-- A value in a text has no text. -/
  | textOf {v : Value} {e : Fault} (h : s.textOf v = .error e) : Escapes s (.textOf v) e
  /-- An item that does not match is not shown. -/
  | shown {c : Case} {v : Value} {e : Fault} (h : s.shown v = .error e) :
      Escapes s (.mismatch c v) e
  /-- What the program of a case gives are no bindings. -/
  | odd {c : Case} {v : Value} : Escapes s (.captures c v) (.ofKind .type)

section Fault

variable {ev : Evaluator} {target : Nat} {env : Environment} {filename : String} {s t : Store}
  {e : Fault}

end Fault

/-! ### Whole runs -/

end TokenTemplate
