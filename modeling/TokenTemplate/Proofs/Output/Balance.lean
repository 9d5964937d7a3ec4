import TokenTemplate.Proofs.Output.Lines
import TokenTemplate.Proofs.Routine.Encoder
import TokenTemplate.Proofs.Token.Nesting

/-!
# Balanced items

Items are balanced, `TokenTemplate.Item.Balanced`, if the brackets in their texts are well nested and
their marks keep the level of indentation: it never falls below what it was, and in the end it is the
same. Balanced items can be put one after another, and between the delimiters of a group
(`TokenTemplate.Item.Balanced.append`, `TokenTemplate.Item.Balanced.group`). What is laid out after them
has the level of indentation that it would have without them
(`TokenTemplate.Item.KeepsLevel.level_foldl`).
-/

namespace TokenTemplate

/-! ### Brackets -/

/-- What a character is among brackets, if it is one of them. -/
def bracketOf? (c : Char) : Option LexemeKind :=
  ((Delimiter.ofOpen? c).map .opening).or ((Delimiter.ofClose? c).map .closing)

/-- A text without brackets. -/
def BracketFree (s : String) : Prop :=
  ∀ c ∈ s.toList, bracketOf? c = none

instance (s : String) : Decidable (BracketFree s) :=
  inferInstanceAs (Decidable (∀ c ∈ s.toList, bracketOf? c = none))

theorem bracketFree_append {s t : String} (hs : BracketFree s) (ht : BracketFree t) :
    BracketFree (s ++ t) := by
  intro c hc
  rw [String.toList_append, List.mem_append] at hc
  exact hc.elim (hs c) (ht c)

theorem bracketFree_join {ss : List String} (h : ∀ s ∈ ss, BracketFree s) :
    BracketFree (String.join ss) := by
  induction ss with
  | nil => exact fun c hc => absurd hc (by simp)
  | cons s ss ih =>
    rw [String.join_cons]
    obtain ⟨hs, hss⟩ := List.forall_mem_cons.1 h
    exact bracketFree_append hs (ih hss)

namespace Item

/-- **The brackets in the texts** of some items. -/
def brackets (items : List Item) : List LexemeKind :=
  (texts items).flatMap fun s => s.toList.filterMap bracketOf?

theorem brackets_append (items more : List Item) :
    brackets (items ++ more) = brackets items ++ brackets more := by
  rw [brackets, texts, List.filterMap_append, List.flatMap_append]
  rfl

theorem brackets_text {s : String} (h : BracketFree s) : brackets [.text s] = [] := by
  have hnone : s.toList.filterMap bracketOf? = [] := List.filterMap_eq_nil_iff.2 h
  simp [brackets, texts, text?, hnone]

/-! ### Levels -/

/-- **Marks that keep the level of indentation**: it never falls below what it was before them, and it
is the same after them. -/
structure KeepsLevel (items : List Item) : Prop where
  /-- Up to no item there are more steps out than steps in. -/
  above : ∀ before, before <+: items →
    (marks before).count .unindent ≤ (marks before).count .indent
  /-- There are as many steps out as steps in. -/
  total : (marks items).count .unindent = (marks items).count .indent

/-- **Balanced items.** -/
structure Balanced (items : List Item) : Prop extends KeepsLevel items where
  /-- The brackets are well nested. -/
  nested : WellNested (brackets items)

variable {items more : List Item}

theorem keepsLevel_of_forall (h : ∀ item ∈ items, item ≠ .space .indent ∧ item ≠ .space .unindent) :
    KeepsLevel items := by
  have hcount : ∀ before, before <+: items →
      (marks before).count .unindent = 0 ∧ (marks before).count .indent = 0 := by
    intro before hbefore
    have hmem : ∀ w ∈ marks before, w ≠ .indent ∧ w ≠ .unindent := by
      intro w hw
      obtain ⟨item, hitem, hmark⟩ := List.mem_filterMap.1 hw
      have hnot := h item (hbefore.subset hitem)
      cases item with
      | text s => exact absurd hmark nofun
      | space w' =>
        obtain rfl := Option.some.inj hmark
        exact ⟨fun heq => hnot.1 (congrArg space heq), fun heq => hnot.2 (congrArg space heq)⟩
    exact ⟨List.count_eq_zero.2 fun hw => (hmem _ hw).2 rfl,
      List.count_eq_zero.2 fun hw => (hmem _ hw).1 rfl⟩
  refine ⟨fun before hbefore => ?_, ?_⟩
  · rw [(hcount before hbefore).1]
    exact Nat.zero_le _
  · rw [(hcount items (List.prefix_refl _)).1, (hcount items (List.prefix_refl _)).2]

theorem KeepsLevel.append (h : KeepsLevel items) (h' : KeepsLevel more) :
    KeepsLevel (items ++ more) := by
  refine ⟨fun before hbefore => ?_, ?_⟩
  · rw [List.prefix_iff_eq_take.1 hbefore, List.take_append, marks_append, List.count_append,
      List.count_append]
    exact Nat.add_le_add (h.above _ (List.take_prefix ..)) (h'.above _ (List.take_prefix ..))
  · rw [marks_append, List.count_append, List.count_append, h.total, h'.total]

theorem count_marks_cons (w v : Whitespace) (items : List Item) :
    (marks (.space w :: items)).count v = (marks items).count v + if w = v then 1 else 0 := by
  have hmarks : marks (.space w :: items) = w :: marks items := rfl
  rw [hmarks, List.count_cons]
  by_cases h : w = v <;> simp [h]

theorem count_marks_text (s : String) (v : Whitespace) (items : List Item) :
    (marks (.text s :: items)).count v = (marks items).count v := rfl

/-- One level further in, the level is kept. -/
theorem KeepsLevel.indented (h : KeepsLevel items) :
    KeepsLevel (.space .indent :: (items ++ [.space .unindent])) := by
  refine ⟨fun before hbefore => ?_, ?_⟩
  · rcases before with _ | ⟨item, before⟩
    · exact Nat.le_refl _
    · obtain ⟨rfl, hinside⟩ := List.cons_prefix_cons.1 hbefore
      -- the items inside are above their own level, and the last step out comes after all of them
      have hlast (n : Nat) : (marks ([.space .unindent].take n)).count .unindent ≤ 1 := by
        cases n <;> simp [marks, mark?]
      have hitems := h.above _ (List.take_prefix before.length items)
      have hstep := hlast (before.length - items.length)
      rw [List.prefix_iff_eq_take.1 hinside, List.take_append, count_marks_cons, count_marks_cons,
        marks_append, List.count_append, List.count_append, if_neg (by decide), if_pos rfl]
      omega
  · rw [count_marks_cons, count_marks_cons, marks_append, List.count_append, List.count_append,
      count_marks_cons, count_marks_cons, h.total]
    simp [marks]

/-! ### Levels of a layout -/

theorem level_step (indentation : String) (l : Layout) (item : Item) :
    (Layout.step indentation l item).level =
      (item.mark?.map (Layout.levelAfterMark l.level)).getD l.level := by
  have hbreak : l.breakLine.level = l.level := by
    rw [Layout.breakLine]
    split <;> rfl
  cases item with
  | text s => rfl
  | space w => cases w <;> first | rfl | exact hbreak

/-- The level of indentation counts the steps in and out, as long as it has not come to nothing. -/
theorem level_foldl_add {indentation : String} {l : Layout}
    (h : ∀ before, before <+: items →
      (marks before).count .unindent ≤ (marks before).count .indent + l.level) :
    (items.foldl (Layout.step indentation) l).level + (marks items).count .unindent =
      l.level + (marks items).count .indent := by
  induction items generalizing l with
  | nil => rfl
  | cons item items ih =>
    have hrest (before : List Item) (hbefore : before <+: items) :=
      h (item :: before) (List.cons_prefix_cons.2 ⟨rfl, hbefore⟩)
    have hlevel := level_step indentation l item
    rw [List.foldl_cons]
    cases item with
    | text s =>
      have hnext := ih (l := Layout.step indentation l (.text s)) fun before hbefore => by
        have := hrest before hbefore
        simp only [count_marks_text] at this
        rw [hlevel]
        exact this
      rw [hlevel] at hnext
      exact hnext
    | space w =>
      have hfirst := hrest [] List.nil_prefix
      have hnext := ih (l := Layout.step indentation l (.space w)) fun before hbefore => by
        have := hrest before hbefore
        rw [count_marks_cons, count_marks_cons] at this
        rw [hlevel]
        cases w <;> simp [mark?, Layout.levelAfterMark, marks] at this hfirst ⊢ <;> omega
      rw [hlevel] at hnext
      rw [count_marks_cons, count_marks_cons]
      cases w <;> simp [mark?, Layout.levelAfterMark, marks] at hnext hfirst ⊢ <;> omega

/-- **What is laid out after items that keep the level** has the level that it would have without
them. -/
theorem KeepsLevel.level_foldl (h : KeepsLevel items) (indentation : String) (l : Layout) :
    (items.foldl (Layout.step indentation) l).level = l.level := by
  have hadd : (items.foldl (Layout.step indentation) l).level + (marks items).count .unindent =
      l.level + (marks items).count .indent :=
    level_foldl_add fun before hbefore => Nat.le_add_right_of_le (h.above before hbefore)
  rw [h.total] at hadd
  exact Nat.add_right_cancel hadd

/-! ### Balanced items -/

theorem balanced_nil : Balanced [] where
  above before hbefore := by
    rw [List.prefix_nil.1 hbefore]
    exact Nat.le_refl _
  total := rfl
  nested := .nil

theorem balanced_text {s : String} (h : BracketFree s) : Balanced [.text s] where
  toKeepsLevel := keepsLevel_of_forall fun item hitem => by
    rw [List.mem_singleton.1 hitem]
    exact ⟨nofun, nofun⟩
  nested := by
    rw [brackets_text h]
    exact .nil

theorem balanced_space {w : Whitespace} (h : w ≠ .indent ∧ w ≠ .unindent) :
    Balanced [.space w] where
  toKeepsLevel := keepsLevel_of_forall fun item hitem => by
    rw [List.mem_singleton.1 hitem]
    exact ⟨fun heq => h.1 (space.inj heq), fun heq => h.2 (space.inj heq)⟩
  nested := .nil

/-- **Balanced items, one after another.** -/
theorem Balanced.append (h : Balanced items) (h' : Balanced more) : Balanced (items ++ more) where
  toKeepsLevel := h.toKeepsLevel.append h'.toKeepsLevel
  nested := by
    rw [brackets_append]
    exact h.nested.append h'.nested

theorem balanced_texts {ss : List String} (h : ∀ s ∈ ss, BracketFree s) :
    Balanced (ss.map .text) := by
  induction ss with
  | nil => exact balanced_nil
  | cons s ss ih =>
    obtain ⟨hs, hss⟩ := List.forall_mem_cons.1 h
    exact (balanced_text hs).append (ih hss)

/-- **Balanced items in a group.** -/
theorem Balanced.group (h : Balanced items) (d : Delimiter) :
    Balanced (d.openingItems ++ items ++ d.closingItems) := by
  have htext (s : String) : KeepsLevel [.text s] := keepsLevel_of_forall fun item hitem => by
    rw [List.mem_singleton.1 hitem]
    exact ⟨nofun, nofun⟩
  have hopening : brackets d.openingItems = [.opening d] := by cases d <;> decide
  have hclosing : brackets d.closingItems = [.closing d] := by cases d <;> decide
  refine ⟨?_, ?_⟩
  · cases d with
    | brace =>
      have hlevel := ((htext "\x7b").append h.toKeepsLevel.indented).append (htext "\x7d")
      simpa [Delimiter.openingItems, Delimiter.closingItems, Delimiter.opening, Delimiter.closing,
        Delimiter.openChar, Delimiter.closeChar] using hlevel
    | parenthesis | bracket => exact ((htext _).append h.toKeepsLevel).append (htext _)
  · rw [brackets_append, brackets_append, hopening, hclosing, List.singleton_append,
      List.cons_append]
    exact .group d h.nested .nil

end Item

end TokenTemplate
