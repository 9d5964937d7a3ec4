import TokenTemplate.Proofs.Grammar.Within

/-!
# Groups in routines

The instructions that a template is compiled to are `TokenTemplate.Grouped`: those of a group stand
between those of its two delimiters, and the others stand by themselves, with routines in them that are
grouped again. So whichever of these routines are run, and however often, delimiters come in pairs.

Apart from white space the instructions are those that the constructs of the template come to,
`TokenTemplate.Region.Yields`, so what is known of the constructs at all depths is known of the
instructions at all depths (`TokenTemplate.Routine.grouped_of_ofSource`).
-/

namespace TokenTemplate

/-- The routines in an instruction. -/
def Instruction.bodies : Instruction → List Routine
  | .branch _ yes no => yes :: no.toList
  | .iterate _ _ body join => body :: join.toList
  | .dispatch _ arms => arms.map (·.2)
  | .rebind _ body => [body]
  | _ => []

/-- **Instructions in which delimiters come in pairs**, at all depths. All others are as they are said
to be, and the routines in them have one name for the template. -/
inductive Grouped (filename : String) (P : Instruction → Prop) : List Instruction → Prop
  /-- There are none. -/
  | nil : Grouped filename P []
  /-- An instruction by itself. -/
  | single {i : Instruction} (hi : P i) (hname : ∀ r ∈ i.bodies, r.filename = filename)
      (hbodies : ∀ r ∈ i.bodies, Grouped filename P r.instructions) : Grouped filename P [i]
  /-- One after another. -/
  | append {is js : List Instruction} (hi : Grouped filename P is) (hj : Grouped filename P js) :
      Grouped filename P (is ++ js)
  /-- Between the delimiters of a group. -/
  | group (d : Delimiter) {is : List Instruction} (h : Grouped filename P is) :
      Grouped filename P
        (d.openingItems.map Item.instruction ++ is ++ d.closingItems.map Item.instruction)

/-- **An instruction is as it is said**, and so are those in its bodies, at all depths. -/
inductive Instruction.Everywhere (P : Instruction → Prop) : Instruction → Prop
  | mk {i : Instruction} (h : P i)
      (hbodies : ∀ r ∈ i.bodies, ∀ j ∈ r.instructions, Everywhere P j) : Everywhere P i

theorem Instruction.Everywhere.here {P : Instruction → Prop} {i : Instruction}
    (h : i.Everywhere P) : P i := by
  obtain ⟨h, -⟩ := h
  exact h

/-- What is said of the instructions between delimiters, and is true of texts and white space, is said
of all. -/
theorem Grouped.everywhere {filename : String} {P : Instruction → Prop} {is : List Instruction}
    (h : Grouped filename P is) (htext : ∀ text, P (.append text)) (hspace : ∀ w, P (.layout w)) :
    ∀ i ∈ is, i.Everywhere P := by
  have hitems (items : List Item) : ∀ i ∈ items.map Item.instruction, i.Everywhere P := by
    intro i hi
    obtain ⟨item, -, rfl⟩ := List.mem_map.1 hi
    cases item with
    | text s => exact .mk (htext s) fun r hr => absurd hr List.not_mem_nil
    | space w => exact .mk (hspace w) fun r hr => absurd hr List.not_mem_nil
  induction h with
  | nil => exact List.forall_mem_nil _
  | single hi _ _ ih => exact List.forall_mem_singleton.2 (.mk hi ih)
  | append _ _ ih ih' => exact List.forall_mem_append.2 ⟨ih, ih'⟩
  | group d _ ih =>
    exact List.forall_mem_append.2 ⟨List.forall_mem_append.2 ⟨hitems _, ih⟩, hitems _⟩

/-! ### What constructs come to -/

/-- **The instructions that the constructs in a region come to**, apart from delimiters. -/
def Region.Yields (r : Region) (i : Instruction) : Prop :=
  ∃ c node span, r.Contains c ∧ c.Lowers node ∧ i ∈ node.instructions span

/-- A mark that can stand for white space in a template. -/
def Whitespace.IsSpacing (w : Whitespace) : Prop :=
  w = .space ∨ w = .push ∨ w = .line

theorem isSpacing_of_spacing? {p q : Position} {w : Whitespace} (h : spacing? p q = some w) :
    w.IsSpacing := by
  rw [spacing?] at h
  split at h
  · split at h
    · exact .inl (Option.some.inj h).symm
    · cases h
  · split at h
    · exact .inr (.inl (Option.some.inj h).symm)
    · split at h
      · exact .inr (.inr (Option.some.inj h).symm)
      · cases h

theorem Node.instructions_of_isNeutral {node : Node} (h : node.IsNeutral) (span : Span) :
    ∃ i, node.instructions span = [i] ∧ i.bodies = node.bodies := by
  cases node with
  | opening | closing | unsupported => exact h.elim
  | interpolation evaluated segments => cases evaluated <;> exact ⟨_, rfl, rfl⟩
  | dispatch subject arms => exact ⟨_, rfl, by simp [Instruction.bodies, Node.bodies]⟩
  | _ => exact ⟨_, rfl, rfl⟩

/-! ### Compiling -/

section Compile

variable {P : Instruction → Prop} {filename : String}

theorem Encoder.grouped_spaceItems (hspace : ∀ w : Whitespace, w.IsSpacing → P (.layout w))
    (e : Encoder) (next : Position) :
    Grouped filename P ((e.spaceItems next).map Item.instruction) := by
  rw [spaceItems]
  cases h : (e.last.or e.before).bind (spacing? · next) with
  | none => exact .nil
  | some w =>
    obtain ⟨p, -, hw⟩ := Option.bind_eq_some_iff.1 h
    exact .single (hspace w (isSpacing_of_spacing? hw)) (fun r hr => absurd hr List.not_mem_nil)
      fun r hr => absurd hr List.not_mem_nil

theorem Encoder.grouped_lastItems (hspace : ∀ w : Whitespace, w.IsSpacing → P (.layout w))
    (e : Encoder) : Grouped filename P (e.lastItems.map Item.instruction) := by
  rw [lastItems]
  cases e.after with
  | none => exact .nil
  | some p => exact e.grouped_spaceItems hspace p

/-- **What an encoder has written** since an earlier moment: instructions in which delimiters come in
pairs. -/
structure Encoder.Groups (filename : String) (P : Instruction → Prop) (e e' : Encoder) : Prop where
  /-- The instructions. -/
  instructions : ∃ is, e'.instructions = e.instructions ++ is ∧ Grouped filename P is
  /-- All groups in them have been closed. -/
  opened : e'.opened = e.opened
  /-- The name of the template is the same. -/
  filename : e'.filename = e.filename

theorem Encoder.Groups.refl (e : Encoder) : e.Groups filename P e :=
  ⟨⟨[], (List.append_nil _).symm, .nil⟩, rfl, rfl⟩

theorem Encoder.Groups.trans {e₁ e₂ e₃ : Encoder} (h : e₁.Groups filename P e₂)
    (h' : e₂.Groups filename P e₃) : e₁.Groups filename P e₃ := by
  obtain ⟨is, his, hgrouped⟩ := h.instructions
  obtain ⟨js, hjs, hgrouped'⟩ := h'.instructions
  refine ⟨⟨is ++ js, ?_, hgrouped.append hgrouped'⟩, h'.opened.trans h.opened,
    h'.filename.trans h.filename⟩
  rw [hjs, his, List.append_assoc]

/-- A routine that is ended holds what its encoder has written. -/
theorem Encoder.Groups.finish {e₁ e : Encoder} {routine : Routine}
    (hspace : ∀ w : Whitespace, w.IsSpacing → P (.layout w)) (h : e₁.Groups filename P e)
    (hnil : e₁.instructions = []) (hfinish : e.finish.2 = .ok routine) :
    routine.filename = e₁.filename ∧ Grouped filename P routine.instructions := by
  obtain ⟨-, rfl⟩ := Encoder.finish_eq_ok_iff.1 hfinish
  obtain ⟨is, his, hgrouped⟩ := h.instructions
  refine ⟨h.filename, ?_⟩
  simp only [his, hnil, List.nil_append]
  exact hgrouped.append (e.grouped_lastItems hspace)

/-- An element that is no delimiter is added. -/
theorem Encoder.groups_add {e : Encoder} {node : Node} {span : Span} {cursor : Cursor}
    (hspace : ∀ w : Whitespace, w.IsSpacing → P (.layout w)) (hneutral : node.IsNeutral)
    (hnode : ∀ i ∈ node.instructions span, P i)
    (hbodies : ∀ r ∈ node.bodies, r.filename = filename ∧ Grouped filename P r.instructions) :
    e.Groups filename P (e.add span cursor node e.opened) := by
  obtain ⟨i, hi, hibodies⟩ := Node.instructions_of_isNeutral hneutral span
  rw [← hibodies] at hbodies
  have hsingle : Grouped filename P (node.instructions span) := by
    rw [hi] at hnode ⊢
    exact .single (hnode i (List.mem_singleton.2 rfl)) (fun r hr => (hbodies r hr).1)
      fun r hr => (hbodies r hr).2
  exact ⟨⟨_, List.append_assoc .., (e.grouped_spaceItems hspace _).append hsingle⟩, rfl, rfl⟩

/-- A group is added from its first delimiter to its second. -/
theorem Encoder.groups_group {d : Delimiter} {e e₁ e₂ e' : Encoder} {span span' : Span}
    {cursor cursor' : Cursor} (hspace : ∀ w : Whitespace, w.IsSpacing → P (.layout w))
    (hopening : e.write span cursor (.opening d) = .ok e₁) (h : e₁.Groups filename P e₂)
    (hclosing : e₂.write span' cursor' (.closing d) = .ok e') : e.Groups filename P e' := by
  obtain ⟨opened, hopened, rfl⟩ := Encoder.write_eq_ok_iff.1 hopening
  obtain rfl := Option.some.inj hopened
  obtain ⟨closed, hclosed, rfl⟩ := Encoder.write_eq_ok_iff.1 hclosing
  obtain ⟨is, his, hgrouped⟩ := h.instructions
  rw [h.opened] at hclosed
  have hclosed' : closed = e.opened := by simpa [Node.opened?, Encoder.add] using hclosed.symm
  refine ⟨⟨_, ?_, (e.grouped_spaceItems hspace cursor.start).append
    (.group d (hgrouped.append (e₂.grouped_spaceItems hspace cursor'.start)))⟩, hclosed', h.filename⟩
  simp [Encoder.add, his, Node.instructions]

end Compile

namespace Body

variable {b : Body} {P : Instruction → Prop}

/-- What is compiled from a region holds groups of what its constructs come to. -/
theorem groups_of_levels (hspace : ∀ w : Whitespace, w.IsSpacing → P (.layout w)) {levelsLeft : Nat}
    {r after : Region} {e e' : Encoder} (hP : ∀ i, r.Yields i → P i)
    (h : levels b levelsLeft false e r = .ok (e', after)) :
    e.Groups b.settings.filename P e' := by
  -- on how much deeper the body may go, and then along its row
  induction levelsLeft generalizing r after e e' with
  | zero => exact absurd h error_ne_ok
  | succ levelsLeft ih =>
    obtain ⟨left, hwrites, -⟩ := levels_eq_ok_iff.1 h
    suffices hrow : ∀ ts e, b.Writes (levels b levelsLeft) levelsLeft false r e ts e' left →
        (∀ i, (r.goOn ts).Yields i → P i) → e.Groups b.settings.filename P e' from
      hrow r.tokens e hwrites hP
    clear h hwrites hP
    intro ts e hwrites hP
    induction hwrites with
    | nil | comma => exact .refl _
    | @step e e₁ e₂ t ts rest left c _ htakes hplace _ ihrow =>
      have htakes : Construct.Takes (r.goOn (t :: ts)) (t :: ts) c rest :=
        Construct.takes_goOn_iff.2 htakes
      have hfirst : (r.goOn (t :: ts)).Contains c := .first htakes
      refine Encoder.Groups.trans ?_ (ihrow fun i hi => ?_)
      · by_cases hgroup : ∃ d group, c = .group d group
        · obtain ⟨d, group, rfl⟩ := hgroup
          obtain ⟨e₃, e₄, rest', hopening, hinside, hclosing⟩ := place_group_eq_ok_iff.1 hplace
          refine Encoder.groups_group hspace hopening (ih (fun i hi => hP i ?_) hinside) hclosing
          obtain ⟨c, node, span, hc, hlowers, hmem⟩ := hi
          exact ⟨c, node, span, .group hfirst hc, hlowers, hmem⟩
        · obtain ⟨node, span, cursor, hlowers, rfl, hbodies⟩ :=
            exists_node hplace fun d group heq => hgroup ⟨d, group, heq⟩
          refine Encoder.groups_add hspace hlowers.isNeutral
            (fun i hi => hP i ⟨c, node, span, hfirst, hlowers, hi⟩) fun body hbody => ?_
          obtain ⟨start, scope, rfl, form, hsplits, r', hr', edges, hcompiles⟩ :=
            hbodies body hbody
          rw [Bodies.Compiles, bodies_eq, compileWith_eq_ok_iff] at hcompiles
          obtain ⟨e₃, hinside, hfinish⟩ := hcompiles
          refine (ih (fun i hi => hP i ?_) hinside).finish hspace rfl hfinish
          obtain ⟨c, node, span, hc, hlowers, hmem⟩ := hi
          exact ⟨c, node, span, .body hfirst hsplits hr' hc, hlowers, hmem⟩
      · obtain ⟨c', node, span, hc, hlowers, hmem⟩ := hi
        exact hP i ⟨c', node, span, .later htakes hc, hlowers, hmem⟩

end Body

/-- **In a routine that a template is compiled to delimiters come in pairs**, at all depths, and the
other instructions are what the constructs of the template come to, or white space between them. -/
theorem Routine.grouped_of_ofSource {settings : Settings} {receiver source : String}
    {routine : Routine} (h : Routine.ofSource settings receiver source = .ok routine) :
    ∃ r, Region.ofSource settings source.toList = .ok r ∧ routine.filename = settings.filename ∧
      ∀ P : Instruction → Prop, (∀ w : Whitespace, w.IsSpacing → P (.layout w)) →
        (∀ i, r.Yields i → P i) → Grouped settings.filename P routine.instructions := by
  rw [Routine.ofSource, bind_eq_ok_iff] at h
  obtain ⟨r, hr, h⟩ := h
  obtain ⟨⟨routine', rest⟩, hcompile, h⟩ := bind_eq_ok_iff.1 h
  obtain rfl := Except.ok.inj h
  rw [Body.compile, Body.compileWith_eq_ok_iff] at hcompile
  obtain ⟨e, hinside, hfinish⟩ := hcompile
  refine ⟨r, lift_eq_ok_iff.1 hr, ?_, fun P hspace hP => ?_⟩
  · have hgroups := Body.groups_of_levels (P := fun _ => True) (fun _ _ => trivial)
      (fun _ _ => trivial) hinside
    exact (hgroups.finish (fun _ _ => trivial) rfl hfinish).1
  · exact ((Body.groups_of_levels hspace hP hinside).finish hspace rfl hfinish).2

/-- What comes of a template is known from its text. -/
theorem Routine.exists_ofSource {α : Type} {source : String} {f : Routine → α} {a : α}
    (h : (Routine.ofSource {} "t" source).toOption.map f = some a) :
    ∃ r, Routine.ofSource {} "t" source = .ok r ∧ f r = a := by
  obtain ⟨r, hr, hf⟩ := Option.map_eq_some_iff.1 h
  refine ⟨r, ?_, hf⟩
  cases hsource : Routine.ofSource {} "t" source with
  | error err => exact absurd (hsource ▸ hr) nofun
  | ok r' =>
    rw [hsource] at hr
    rw [Option.some.inj hr]

end TokenTemplate
