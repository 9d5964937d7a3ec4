import TokenTemplate.Proofs.Grammar.Calm
import TokenTemplate.Proofs.Run.Report
import TokenTemplate.Proofs.Run.Writing

/-!
# Runs write balanced items

What a run writes is balanced whichever bodies it enters, and however often, since the delimiters of a
template come in pairs in each of its routines. This takes a calm template and payloads that keep to
themselves (`TokenTemplate.Deed.KeepsCalm`): they do not write to the receiver, and what is spliced has
no brackets. It is shown along the instructions, `TokenTemplate.Grouped.exists_balanced`: a row of them
writes balanced items, so do two rows one after another, and so does a row between the delimiters of a
group.
-/

namespace TokenTemplate

/-! ### What is appended -/

/-- **Some items are appended to a receiver** from one store to another. -/
structure Store.Appends (target : Nat) (more : List Item) (s t : Store) : Prop where
  /-- The receiver is still there. -/
  size_lt : target < s.receivers.size → target < t.receivers.size
  /-- It has got the items. -/
  items_eq : target < s.receivers.size → t.items target = s.items target ++ more

section Appends

variable {α : Type} {target : Nat} {items more : List Item} {s t u : Store}

theorem Store.appends_nil_of_eq (h : t.receivers = s.receivers) : s.Appends target [] t := by
  refine ⟨fun hs => h ▸ hs, fun _ => ?_⟩
  rw [items, items, h, List.append_nil]

theorem Store.Appends.trans (h : s.Appends target items t) (h' : t.Appends target more u) :
    s.Appends target (items ++ more) u :=
  ⟨fun hs => h'.size_lt (h.size_lt hs), fun hs => by
    rw [h'.items_eq (h.size_lt hs), h.items_eq hs, List.append_assoc]⟩

theorem Action.Writes.appends {x : Action α} {a b : α} (h : x.Writes a target items)
    (hx : x.Gives s b t) : s.Appends target items t := by
  obtain rfl := hx.store_eq
  exact ⟨fun hs => (h.size_eq s).symm ▸ hs, h.items_eq s⟩

/-- **Only balanced items are appended to a receiver**, as long as nothing fails. -/
def Discipline.balanced (target : Nat) : Discipline where
  Allows s t := ∃ more, Item.Balanced more ∧ s.Appends target more t
  refl s := ⟨[], Item.balanced_nil, Store.appends_nil_of_eq rfl⟩
  trans := by
    rintro s t u ⟨items, hitems, h⟩ ⟨more, hmore, h'⟩
    exact ⟨items ++ more, hitems.append hmore, h.trans h'⟩
  Tolerates _ := True

end Appends

/-! ### Calm deeds -/

/-- **Something that is done keeps to itself** in a store: a payload does not write to the receiver,
what is spliced has only texts without brackets, and so has what is written into a text. -/
def Deed.KeepsCalm (ev : Evaluator) (target : Nat) (env : Environment) (filename : String)
    (s : Store) (deed : Deed) : Prop :=
  match deed with
  | .evaluate _ | .captures _ _ | .next _ =>
    ∀ t, (deed.run ev target env filename).Gives s () t → s.Appends target [] t
  | .value _ =>
    ∀ t, (deed.run ev target env filename).Gives s () t →
      ∃ texts : List String, (∀ text ∈ texts, BracketFree text) ∧
        s.Appends target (texts.map .text) t
  | .textOf v => ∀ text, s.textOf v = .ok text → BracketFree text
  | _ => True

section Calm

variable {ev : Evaluator} {target : Nat} {env : Environment} {filename : String} {s t : Store}

theorem Action.obeys_balanced {α : Type} {x : Action α}
    (h : ∀ a t, x.Gives s a t → ∃ more, Item.Balanced more ∧ s.Appends target more t) :
    x.Obeys (.balanced target) s :=
  ⟨fun hx => h _ _ hx, fun _ => trivial⟩

/-- An item is written, unless it is an empty text. -/
theorem appends_of_item (ev : Evaluator) (env : Environment) (filename : String) (item : Item)
    (h : (item.instruction.execute ev target env filename).Gives s () t) :
    s.Appends target (if item = .text "" then [] else [item]) t := by
  split
  · next heq =>
    subst heq
    refine Store.appends_nil_of_eq ?_
    rw [← h.store_eq]
    rfl
  · next hne => exact (Instruction.writes_item ev target env filename hne).appends h

/-- Iterators are made without writing. -/
theorem Evaluator.receivers_of_gives_loopItems {source : Expression} {v : Value} {it : Nat}
    (h : (loopItems source filename v).Gives s it t) : t.receivers = s.receivers := by
  obtain ⟨found, u, hlook, h⟩ := Action.gives_bind_iff.1 (Action.gives_reword_iff.1 h)
  obtain ⟨-, rfl⟩ := Action.gives_look_iff.1 hlook
  cases found with
  | none => exact absurd h Action.not_gives_fail
  | some i =>
    cases i with
    | inl id =>
      obtain ⟨-, rfl⟩ := Action.gives_pure_iff.1 h
      rfl
    | inr i =>
      rw [← h.store_eq]
      rfl

/-- **What keeps calm writes balanced items**, if its own texts and marks do. -/
theorem Deed.obeys_balanced {deed : Deed} (h : deed.KeepsCalm ev target env filename s)
    (htext : ∀ text, deed = .text text → BracketFree text)
    (hspace : ∀ w, deed = .space w → w ≠ .indent ∧ w ≠ .unindent) :
    (deed.run ev target env filename).Obeys (.balanced target) s := by
  refine Action.obeys_balanced fun _ t hgives => ?_
  cases deed with
  | text text =>
    refine ⟨_, ?_, appends_of_item ev env filename (.text text) hgives⟩
    split
    · exact Item.balanced_nil
    · exact Item.balanced_text (htext text rfl)
  | space w =>
    refine ⟨_, ?_, appends_of_item ev env filename (.space w) hgives⟩
    rw [if_neg nofun]
    exact Item.balanced_space (hspace w rfl)
  | value v =>
    obtain ⟨texts, hfree, happends⟩ := h t hgives
    exact ⟨_, Item.balanced_texts hfree, happends⟩
  | evaluate | captures | next => exact ⟨[], Item.balanced_nil, h t hgives⟩
  | textOf v =>
    obtain ⟨text, hgives⟩ := Action.gives_discard_iff.1 hgives
    obtain ⟨-, rfl⟩ := Action.gives_ofStore_iff.1 hgives
    exact ⟨[], Item.balanced_nil, Store.appends_nil_of_eq rfl⟩
  | items source v =>
    obtain ⟨it, hgives⟩ := Action.gives_discard_iff.1 hgives
    exact ⟨[], Item.balanced_nil,
      Store.appends_nil_of_eq (Evaluator.receivers_of_gives_loopItems hgives)⟩
  | unknown | giveUp | unsupported => exact absurd hgives Action.not_gives_fail
  | mismatch c v =>
    obtain ⟨_, _, -, hfail⟩ := Action.gives_bind_iff.1 hgives
    exact absurd hfail Action.not_gives_fail

/-- What is known of each value on its own is known of the values of a list. -/
theorem Action.forall_mem_of_mapM {α β : Type} {f : α → Action β} {row : List α} {bs : List β}
    {Q : β → Prop} (hrow : (row.mapM f).Gives s bs t)
    (h : ∀ before a after bs u b w, row = before ++ a :: after → (before.mapM f).Gives s bs u →
      (f a).Gives u b w → Q b) : ∀ b ∈ bs, Q b := by
  induction row generalizing s bs with
  | nil =>
    obtain ⟨rfl, -⟩ := gives_pure_iff.1 hrow
    exact List.forall_mem_nil _
  | cons a rest ih =>
    rw [List.mapM_cons] at hrow
    obtain ⟨b, u, hb, hrow⟩ := gives_bind_iff.1 hrow
    obtain ⟨bs', w, hrest, hpure⟩ := gives_bind_iff.1 hrow
    obtain ⟨rfl, rfl⟩ := gives_pure_iff.1 hpure
    refine List.forall_mem_cons.2 ⟨h [] a rest [] s b u rfl (gives_pure_iff.2 ⟨rfl, rfl⟩) hb, ?_⟩
    refine ih hrest fun before a' after bs x b' y hsplit hbefore hb' => ?_
    refine h (a :: before) a' after (b :: bs) x b' y (by rw [hsplit, List.cons_append]) ?_ hb'
    rw [List.mapM_cons]
    exact gives_bind_iff.2 ⟨b, u, hb, gives_bind_iff.2 ⟨bs, x, hbefore, gives_pure_iff.2 ⟨rfl, rfl⟩⟩⟩

/-- The parts of an interpolated text have no brackets. -/
theorem Moment.free_of_interpolate {segments : List Segment} {texts : List String}
    (hsegments : Segment.AreCalm segments)
    (h : (segments.mapM (Segment.text ev env filename)).Gives s texts t)
    (hdeeds : ∀ deed u, Does ev target ⟨.interpolate segments, env, filename, s⟩ deed u →
      deed.KeepsCalm ev target env filename u) : ∀ text ∈ texts, BracketFree text := by
  refine Action.forall_mem_of_mapM h fun before segment after texts u text w hsplit hbefore htext => ?_
  subst hsplit
  cases segment with
  | literal text' =>
    obtain ⟨rfl, -⟩ := Action.gives_pure_iff.1 htext
    exact hsegments _ (List.mem_append_right _ List.mem_cons_self)
  | site x =>
    obtain ⟨v, y, hv, htext⟩ := Action.gives_bind_iff.1 htext
    by_cases hnone : v = .none
    · subst hnone
      obtain ⟨rfl, -⟩ := Action.gives_pure_iff.1 htext
      exact bracketFree_empty
    · have hcalm := hdeeds _ y (.sited hbefore hv hnone)
      have htext : (Action.ofStore (·.textOf v)).Gives y text w := by
        cases v <;> first | exact htext | exact absurd rfl hnone
      exact hcalm text (Action.gives_ofStore_iff.1 htext).1

/-- **A calm instruction writes balanced items itself.** -/
theorem Moment.Does.obeys_balanced {m : Moment} (hm : m.instruction.IsCalm)
    (hdeeds : ∀ deed u, m.Does ev target deed u → deed.KeepsCalm ev target m.env m.filename u)
    {deed : Deed} {u : Store} (h : m.Does ev target deed u) :
    (deed.run ev target m.env m.filename).Obeys (.balanced target) u := by
  refine Deed.obeys_balanced (hdeeds deed u h) (fun text heq => ?_) fun w heq => ?_
  · subst heq
    cases h with
    | append => exact hm
    | interpolated h => exact bracketFree_join (Moment.free_of_interpolate hm h hdeeds)
  · subst heq
    cases h
    exact hm

end Calm

/-! ### Rows of instructions -/

section Rows

variable {ev : Evaluator} {target : Nat} {P : Instruction → Prop} {filename : String}

/-- Everything that happens from a row of instructions on keeps calm. -/
def Stretch.KeepsCalm (ev : Evaluator) (target : Nat) (st : Stretch) : Prop :=
  ∀ layers m, Moment.Reached ev target st layers m → ∀ deed t, m.Does ev target deed t →
    deed.KeepsCalm ev target m.env m.filename t

theorem Delimiter.ne_empty_of_mem {d : Delimiter} :
    .text "" ∉ d.openingItems ∧ .text "" ∉ d.closingItems := by
  cases d <;> decide

/-- **A row of instructions writes balanced items**, if its delimiters come in pairs and everything
else keeps calm. -/
theorem Grouped.exists_balanced {is : List Instruction} (h : Grouped filename P is)
    (hP : ∀ i, P i → i.IsCalm) {env : Environment} {name : String} {s u : Store}
    (hcalm : Stretch.KeepsCalm ev target ⟨is, env, name, s⟩)
    (hrun : (executeAll ev target env name is).Gives s () u) :
    ∃ more, Item.Balanced more ∧ s.Appends target more u := by
  -- on how the row is put together; the bodies of an instruction are rows again, however often they
  -- are run
  induction h generalizing env name s u with
  | nil =>
    obtain ⟨-, rfl⟩ := Action.gives_pure_iff.1 hrun
    exact ⟨[], Item.balanced_nil, Store.appends_nil_of_eq rfl⟩
  | @single i hi _ _ ih =>
    obtain ⟨_, t, hexecute, hpure⟩ := Action.gives_bind_iff.1 hrun
    obtain ⟨-, rfl⟩ := Action.gives_pure_iff.1 hpure
    have hmeets : Stretch.Meets ev target ⟨[i], env, name, s⟩ ⟨i, env, name, s⟩ :=
      Stretch.meets_head ..
    have hobeys : (Moment.run ev target ⟨i, env, name, s⟩).Obeys (.balanced target) s := by
      refine Moment.obeys
        (fun deed t hdeed => hdeed.obeys_balanced (hP i hi) fun deed t hdeed =>
          hcalm [] _ (.first hmeets) deed t hdeed) fun layer st hst => ?_
      obtain ⟨r, hr, env', t, rfl⟩ := hst.mem_bodies
      exact Action.obeys_balanced fun _ w hw => ih r hr
        (fun layers m hm => hcalm _ m (.of_enters hmeets hst hm)) hw
    exact hobeys.allows hexecute
  | append _ _ ih ih' =>
    obtain ⟨t, his, hjs⟩ := gives_executeAll_append_iff.1 hrun
    obtain ⟨items, hitems, happends⟩ := ih
      (fun layers m hm => hcalm layers m (hm.of_meets fun m h => h.append_right)) his
    obtain ⟨more, hmore, happends'⟩ := ih'
      (fun layers m hm => hcalm layers m (hm.of_meets fun m h => h.append_left his)) hjs
    exact ⟨items ++ more, hitems.append hmore, happends.trans happends'⟩
  | group d _ ih =>
    obtain ⟨hopening, hclosing⟩ := Delimiter.ne_empty_of_mem (d := d)
    obtain ⟨w, hbefore, hlast⟩ := gives_executeAll_append_iff.1 hrun
    obtain ⟨t, hfirst, his⟩ := gives_executeAll_append_iff.1 hbefore
    obtain ⟨items, hitems, happends⟩ := ih (fun layers m hm => hcalm layers m
      (hm.of_meets fun m h => (h.append_left hfirst).append_right)) his
    have hfirst' := (executeAll_items ev target env name hopening).appends hfirst
    have hlast' := (executeAll_items ev target env name hclosing).appends hlast
    exact ⟨_, hitems.group d, (hfirst'.trans happends).trans hlast'⟩

end Rows

/-! ### Whole runs -/

/-- **A run writes balanced items.** If the texts of a template have no brackets, and it has no
directives to indent or to unindent, and if its payloads do not write to the receiver and what they give
has no brackets, then a run that is completed has appended items in which the brackets are well nested
and the level of indentation is kept; so what is laid out after them is indented as it would be without
them. -/
theorem Routine.balanced_of_gives {settings : Settings} {receiver source : String} {r : Routine}
    {region : Region} {ev : Evaluator} {target : Nat} {b : Bindings} {s u : Store}
    (hr : Routine.ofSource settings receiver source = .ok r)
    (hregion : Region.ofSource settings source.toList = .ok region)
    (htemplate : ∀ c, region.Contains c → c.IsCalm) (htarget : target < s.receivers.size)
    (hpayloads : ∀ layers m, Moment.Reached ev target (r.start target b s) layers m →
      ∀ deed t, m.Does ev target deed t → deed.KeepsCalm ev target m.env m.filename t)
    (hrun : (r.run ev target b).Gives s () u) :
    ∃ more, u.items target = s.items target ++ more ∧ WellNested (Item.brackets more) ∧
      (∀ before, before <+: more →
        (Item.marks before).count .unindent ≤ (Item.marks before).count .indent) ∧
      (Item.marks more).count .unindent = (Item.marks more).count .indent ∧
      ∀ indentation l, (more.foldl (Layout.step indentation) l).level = l.level := by
  obtain ⟨region', hregion', -, hgrouped⟩ := Routine.grouped_of_ofSource hr
  obtain rfl := Except.ok.inj (hregion.symm.trans hregion')
  have hcalm : ∀ i, region.Yields i → i.IsCalm := fun i hi => hi.isCalm hregion htemplate
  have hspacing (w : Whitespace) (hw : w.IsSpacing) : (Instruction.layout w).IsCalm := by
    rcases hw with rfl | rfl | rfl <;> exact ⟨nofun, nofun⟩
  rw [← Routine.run_start r b s] at hrun
  obtain ⟨more, hmore, happends⟩ := (hgrouped Instruction.IsCalm hspacing hcalm).exists_balanced
    (fun _ hi => hi) hpayloads hrun
  exact ⟨more, happends.items_eq htarget, hmore.nested, hmore.above, hmore.total,
    fun indentation l => hmore.level_foldl indentation l⟩

/-! ### Instructions that keep calm wherever they are -/

/-- **An instruction keeps calm** wherever it is executed. -/
def Instruction.KeepsCalm (ev : Evaluator) (target : Nat) (i : Instruction) : Prop :=
  ∀ env filename s deed t, Moment.Does ev target ⟨i, env, filename, s⟩ deed t →
    deed.KeepsCalm ev target env filename t

section KeepsCalm

variable {ev : Evaluator} {target : Nat}

theorem Instruction.keepsCalm_item (item : Item) : item.instruction.KeepsCalm ev target := by
  intro env filename s deed t h
  cases item <;> cases h <;> trivial

/-- To look up a name is not to write. -/
theorem Instruction.keepsCalm_branch {x : Expression} {n : String} (hx : x.tree = .name n)
    (yes : Routine) (no : Option Routine) :
    (Instruction.branch x yes no).KeepsCalm .standard target := by
  intro env filename s deed t h
  cases h
  intro u hgives
  obtain ⟨v, hgives⟩ := Action.gives_discard_iff.1 hgives
  obtain ⟨sc, w, hscope, hlookup⟩ := Action.gives_bind_iff.1 (Action.gives_reword_iff.1 hgives)
  have hlookup : (Action.ofStore (sc.lookup n)).Gives w v u := by
    rw [hx] at hlookup
    exact hlookup
  obtain ⟨-, rfl⟩ := Action.gives_ofStore_iff.1 hlookup
  refine Store.appends_nil_of_eq ?_
  rw [← hscope.store_eq]
  rfl

/-- If all instructions of a routine keep calm, at all depths, a run does. -/
theorem Stretch.keepsCalm_of_grouped {st : Stretch}
    (h : Grouped st.filename (Instruction.KeepsCalm ev target) st.instructions) :
    st.KeepsCalm ev target := by
  intro layers m hm deed t hdeed
  obtain ⟨-, hi | ⟨item, hitem⟩, -⟩ := hm.grouped rfl h
  · exact hi _ _ _ _ _ hdeed
  · have hcalm : m.instruction.KeepsCalm ev target := hitem ▸ Instruction.keepsCalm_item item
    exact hcalm _ _ _ _ _ hdeed

theorem Grouped.keepsCalm_items (filename : String) (items : List Item) :
    Grouped filename (Instruction.KeepsCalm ev target) (items.map Item.instruction) := by
  induction items with
  | nil => exact .nil
  | cons item items ih =>
    have hbodies : item.instruction.bodies = [] := by cases item <;> rfl
    refine Grouped.append (.single (Instruction.keepsCalm_item item) ?_ ?_) ih
    · exact fun r hr => absurd (hbodies ▸ hr) List.not_mem_nil
    · exact fun r hr => absurd (hbodies ▸ hr) List.not_mem_nil

end KeepsCalm

/-- A group in a branch in another group is balanced. -/
theorem Routine.balanced_of_gives_branch :
    ∃ r region u, Routine.ofSource {} "t" "\x7b #(if x => [a]) \x7d" = .ok r ∧
      Region.ofSource {} "\x7b #(if x => [a]) \x7d".toList = .ok region ∧
      (∀ c, region.Contains c → c.IsCalm) ∧
      Stretch.KeepsCalm .standard 0 (r.start 0 [("x", .bool true)] { receivers := #[#[]] }) ∧
      (r.run .standard 0 [("x", .bool true)]).Gives { receivers := #[#[]] } () u ∧
      ∃ more, u.items 0 = more ∧ WellNested (Item.brackets more) ∧
        (∀ before, before <+: more →
          (Item.marks before).count .unindent ≤ (Item.marks before).count .indent) ∧
        (Item.marks more).count .unindent = (Item.marks more).count .indent ∧
        ∀ indentation l, (more.foldl (Layout.step indentation) l).level = l.level := by
  obtain ⟨r, region, u, hr, hregion, hcalm, hkeeps, hrun⟩ :
      ∃ r region u, Routine.ofSource {} "t" "\x7b #(if x => [a]) \x7d" = .ok r ∧
        Region.ofSource {} "\x7b #(if x => [a]) \x7d".toList = .ok region ∧
        (∀ c, region.Contains c → c.IsCalm) ∧
        Stretch.KeepsCalm .standard 0 (r.start 0 [("x", .bool true)] { receivers := #[#[]] }) ∧
        (r.run .standard 0 [("x", .bool true)]).Gives { receivers := #[#[]] } () u := by
    refine ⟨_, _, _, by cbv, by cbv, fun c => ?_, ?_, by decide +kernel, rfl⟩
    · exact Region.isCalm_of_tokens (by simp [Tree.allParts, Tree.parts])
        (by simp [Tree.allParts, Tree.parts, Tree.isPunct]) (by simp [Tree.allParts, Tree.parts])
    · refine Stretch.keepsCalm_of_grouped ?_
      have hitems (items : List Item) : Grouped "<template>"
          (Instruction.KeepsCalm .standard 0) (items.map Item.instruction) :=
        Grouped.keepsCalm_items "<template>" items
      refine (hitems [.text "\x7b", .space .indent, .space .space]).append
        (.append (.single (Instruction.keepsCalm_branch rfl _ none) ?_ ?_)
          (hitems [.space .space, .space .unindent, .text "\x7d"]))
      · exact fun r hr => List.mem_singleton.1 hr ▸ rfl
      · exact fun r hr => List.mem_singleton.1 hr ▸ hitems [.text "[", .text "a", .text "]"]
  exact ⟨r, region, u, hr, hregion, hcalm, hkeeps, hrun,
    Routine.balanced_of_gives hr hregion hcalm (by decide) hkeeps hrun⟩

end TokenTemplate
