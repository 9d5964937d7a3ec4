import TokenTemplate.Evaluation.Receiver
import TokenTemplate.Proofs.Output.Balance
import TokenTemplate.Proofs.Run.Ending
import TokenTemplate.Proofs.Run.Writing

/-!
# Items on lines of their own

Items can be written to a receiver on lines of their own, one level further in
(`TokenTemplate.Item.nested`). Two things have to be arranged for their lines to be the lines that they
have by themselves, only further in. A level that never falls below what it was is the sum of what was
before and what the items add to it (`TokenTemplate.Layout.levelAfterMarks_add`), so every entry is raised
by the same number of levels, `TokenTemplate.Layout.entriesAfter_raise`. And the mark before the items ends
the line that has been begun, so no blank that is still due is written to it
(`TokenTemplate.Layout.linesOf_append`). The lines are raised as the entries are,
`TokenTemplate.Layout.linesOf_raise`, since only empty lines have no text.
-/

namespace TokenTemplate

/-! ### Items one after another -/

namespace Item

/-- **Items on lines of their own**, one level further in, after other ones. -/
def nested (items more : List Item) : List Item :=
  items ++ [.space .indent, .space .push] ++ more ++ [.space .unindent, .space .push]

variable {items more : List Item}

theorem texts_append (items more : List Item) : texts (items ++ more) = texts items ++ texts more :=
  List.filterMap_append

/-- The first text of some items, and the marks before it. -/
theorem exists_marks_text (h : texts items ≠ []) :
    ∃ (ws : List Whitespace) (s : String) (rest : List Item),
      items = ws.map space ++ text s :: rest := by
  induction items with
  | nil => exact absurd rfl h
  | cons i items ih =>
    cases i with
    | text s => exact ⟨[], s, items, rfl⟩
    | space w =>
      obtain ⟨ws, s, rest, rfl⟩ := ih h
      exact ⟨w :: ws, s, rest, rfl⟩

theorem takeWhile_marks (ws : List Whitespace) (s : String) (rest : List Item) :
    (ws.map space ++ text s :: rest).takeWhile (!·.isText) = ws.map space := by
  have hmarks : ∀ i ∈ ws.map space, (!i.isText) = true := by
    intro i hi
    obtain ⟨w, -, rfl⟩ := List.mem_map.1 hi
    rfl
  rw [List.takeWhile_append_of_pos hmarks, List.takeWhile_cons_of_neg (by simp [isText]),
    List.append_nil]

/-- The marks that items end with are those of the last items, if these have a text. -/
theorem rtakeWhile_append_of_texts (h : texts more ≠ []) :
    (items ++ more).rtakeWhile (!·.isText) = more.rtakeWhile (!·.isText) := by
  induction more using List.reverseRecOn with
  | nil => exact absurd rfl h
  | append_singleton more i ih =>
    rw [← List.append_assoc]
    cases i with
    | text s =>
      rw [List.rtakeWhile_concat_neg _ _ _ (by simp [isText]),
        List.rtakeWhile_concat_neg _ _ _ (by simp [isText])]
    | space w =>
      rw [texts_append] at h
      rw [List.rtakeWhile_concat_pos _ _ _ rfl, List.rtakeWhile_concat_pos _ _ _ rfl,
        ih (by simpa [texts, text?] using h)]

/-- Otherwise the marks before these count too. -/
theorem rtakeWhile_append_of_marks (h : texts more = []) :
    (items ++ more).rtakeWhile (!·.isText) = items.rtakeWhile (!·.isText) ++ more := by
  induction more using List.reverseRecOn with
  | nil => rw [List.append_nil, List.append_nil]
  | append_singleton more i ih =>
    rw [texts_append, List.append_eq_nil_iff] at h
    rw [← List.append_assoc]
    cases i with
    | text s => cases h.2
    | space w => rw [List.rtakeWhile_concat_pos _ _ _ rfl, ih h.1, List.append_assoc]

theorem mem_marks_iff {w : Whitespace} : w ∈ marks items ↔ space w ∈ items := by
  rw [marks, List.mem_filterMap]
  constructor
  · rintro ⟨i, hi, hw⟩
    cases i with
    | text s => cases hw
    | space w' =>
      obtain rfl := Option.some.inj hw
      exact hi
  · exact fun h => ⟨_, h, rfl⟩

end Item

namespace Layout

open Item

/-! ### Levels -/

theorem level_foldl (indentation : String) (l : Layout) (items : List Item) :
    (items.foldl (step indentation) l).level = levelAfterMarks l.level (marks items) := by
  induction items generalizing l with
  | nil => rfl
  | cons i items ih =>
    rw [List.foldl_cons, ih, level_step]
    cases i <;> rfl

/-- **A level that never falls below what it was** is the sum of that and of what the items add to it. -/
theorem levelAfterMarks_add {items : List Item}
    (h : ∀ before, before <+: items → (marks before).count .unindent ≤ (marks before).count .indent)
    (n : Nat) :
    levelAfterMarks n (marks items) + (marks items).count .unindent =
      n + (marks items).count .indent := by
  have hadd : (items.foldl (Layout.step "") { level := n }).level + (marks items).count .unindent =
      n + (marks items).count .indent :=
    level_foldl_add fun before hbefore => Nat.le_add_right_of_le (h before hbefore)
  rwa [level_foldl] at hadd

theorem levelAfterMarks_append (n : Nat) (ws vs : List Whitespace) :
    levelAfterMarks n (ws ++ vs) = levelAfterMarks (levelAfterMarks n ws) vs :=
  List.foldl_append

/-! ### Entries further in -/

/-- An entry some levels further in. -/
def Entry.raise (n : Nat) (e : Entry) : Entry :=
  { e with level := n + e.level }

/-- **A line some levels further in**; an empty line stays empty. -/
def indentLine (indentation : String) (n : Nat) (line : String) : String :=
  if line = "" then "" else copies indentation n ++ line

theorem copies_add (s : String) (m n : Nat) : copies s (m + n) = copies s m ++ copies s n := by
  rw [copies, List.replicate_add, String.join_append]
  rfl

variable {indentation : String} {es : List Entry} {e : Entry}

theorem Entry.opening_raise (n : Nat) (e : Entry) :
    (e.raise n).opening indentation = copies indentation n ++ e.opening indentation := by
  rw [opening, opening, raise, copies_add, String.append_assoc]

/-- A line that begins with an entry is not empty. -/
theorem indentLine_opening (h : e.text ≠ "") (n : Nat) (more : String) :
    indentLine indentation n (e.opening indentation ++ more) =
      (e.raise n).opening indentation ++ more := by
  have hne : e.opening indentation ++ more ≠ "" := by
    rw [Entry.opening]
    simp [String.append_eq_empty_iff, h]
  rw [indentLine, if_neg hne, Entry.opening_raise, String.append_assoc]

/-- What entries add to a line that has been begun does not depend on the level, but the lines after it
do. -/
theorem continued_raise (h : ∀ e ∈ es, e.text ≠ "") (n : Nat) :
    continued indentation (es.map (Entry.raise n)) =
      ((continued indentation es).1, (continued indentation es).2.map (indentLine indentation n)) := by
  induction es with
  | nil => rfl
  | cons e es ih =>
    obtain ⟨he, hes⟩ := List.forall_mem_cons.1 h
    have hmarks : (e.raise n).marks = e.marks := rfl
    have htext : (e.raise n).text = e.text := rfl
    rw [List.map_cons, continued, continued, ih hes, hmarks, htext]
    by_cases hline : Whitespace.line ∈ e.marks
    · simp only [hline, if_true, List.map_cons, indentLine_opening he]
      rw [indentLine, if_pos rfl]
    · by_cases hpush : Whitespace.push ∈ e.marks
      · simp only [hline, hpush, if_true, if_false, List.map_cons, indentLine_opening he]
      · simp only [hline, hpush, if_false]
        split <;> rfl

/-- **Entries further in have their lines further in.** -/
theorem linesOf_raise (h : ∀ e ∈ es, e.text ≠ "") (n : Nat) :
    linesOf indentation (es.map (Entry.raise n)) =
      (linesOf indentation es).map (indentLine indentation n) := by
  cases es with
  | nil => rfl
  | cons e es =>
    obtain ⟨he, hes⟩ := List.forall_mem_cons.1 h
    rw [List.map_cons, linesOf, linesOf, continued_raise hes, List.map_cons, indentLine_opening he]

/-! ### Entries on a line of their own -/

/-- An entry that opens a line, after an empty one if its marks say so. -/
theorem continued_append (h : .line ∈ e.marks ∨ .push ∈ e.marks) (es more : List Entry) :
    continued indentation (es ++ e :: more) =
      ((continued indentation es).1,
        (continued indentation es).2 ++ (if .line ∈ e.marks then [""] else []) ++
          linesOf indentation (e :: more)) := by
  induction es with
  | nil =>
    rw [List.nil_append, continued, continued, linesOf]
    by_cases hline : Whitespace.line ∈ e.marks
    · simp only [hline, if_true]
      rfl
    · simp only [hline, h.resolve_left hline, if_true, if_false]
      rfl
  | cons f es ih =>
    rw [List.cons_append, continued, continued, ih]
    by_cases hline : Whitespace.line ∈ f.marks
    · simp only [hline, if_true, List.cons_append, List.append_assoc]
    · by_cases hpush : Whitespace.push ∈ f.marks
      · simp only [hline, hpush, if_true, if_false, List.cons_append, List.append_assoc]
      · simp only [hline, hpush, if_false]
        split <;> rfl

/-- **The lines of entries that begin on a line of their own** come after the lines of those before
them. -/
theorem linesOf_append (h : .line ∈ e.marks ∨ .push ∈ e.marks) (es more : List Entry) :
    linesOf indentation (es ++ e :: more) =
      linesOf indentation es ++
        (if .line ∈ e.marks ∧ linesOf indentation es ≠ [] then [""] else []) ++
          linesOf indentation (e :: more) := by
  cases es with
  | nil => simp [linesOf]
  | cons f es =>
    rw [List.cons_append, linesOf, continued_append h]
    simp [linesOf]

/-! ### Entries of items on lines of their own -/

theorem entriesAfter_eq_nil_iff {before items : List Item} :
    entriesAfter before items = [] ↔ texts items = [] := by
  rw [← texts_entriesAfter before items, List.map_eq_nil_iff]

theorem text_of_mem_entriesAfter {before items : List Item} (h : e ∈ entriesAfter before items) :
    .text e.text ∈ items := by
  have hmem : e.text ∈ texts items := by
    rw [← texts_entriesAfter before items]
    exact List.mem_map_of_mem h
  obtain ⟨i, hi, htext⟩ := List.mem_filterMap.1 hmem
  cases i with
  | text s => exact Option.some.inj htext ▸ hi
  | space w => cases htext

/-- **Entries after a first text are raised** by the level that comes before all of them. -/
theorem entriesAfter_raise (lead : List Item) {before items : List Item} (hbefore : texts before ≠ [])
    (h : ∀ some, some <+: before ++ items →
      (marks some).count .unindent ≤ (marks some).count .indent) :
    entriesAfter (lead ++ before) items =
      (entriesAfter before items).map (Entry.raise (levelAfterMarks 0 (marks lead))) := by
  induction items generalizing before with
  | nil => rfl
  | cons i items ih =>
    have hnext : entriesAfter (lead ++ (before ++ [i])) items =
        (entriesAfter (before ++ [i]) items).map (Entry.raise (levelAfterMarks 0 (marks lead))) :=
      ih (by rw [texts_append]; simp [hbefore])
        (by rwa [List.append_assoc, List.singleton_append])
    rw [← List.append_assoc] at hnext
    cases i with
    | space w => exact hnext
    | text s =>
      refine congrArg₂ List.cons ?_ hnext
      have hlevels : ∀ some, some <+: before →
          (marks some).count .unindent ≤ (marks some).count .indent :=
        fun some hsome => h some (hsome.trans (List.prefix_append ..))
      have hlead := levelAfterMarks_add hlevels (levelAfterMarks 0 (marks lead))
      have hzero := levelAfterMarks_add hlevels 0
      have hlevel : levelAfterMarks 0 (marks (lead ++ before)) =
          levelAfterMarks 0 (marks lead) + levelAfterMarks 0 (marks before) := by
        rw [marks_append, levelAfterMarks_append]
        omega
      rw [Entry.after, rtakeWhile_append_of_texts hbefore, hlevel]
      rfl

/-! ### Lines of items on lines of their own -/

theorem lines_eq (settings : Settings) (items : List Item) :
    lines settings items = linesOf settings.indentation (entries items) :=
  done_foldl_of_fresh settings.indentation items [] ⟨rfl, rfl⟩ rfl

theorem lines_eq_nil_iff {settings : Settings} {items : List Item} :
    lines settings items = [] ↔ texts items = [] := by
  rw [lines_eq, ← (entriesAfter_eq_nil_iff : entriesAfter [] items = [] ↔ _), ← entries]
  cases entries items <;> simp [linesOf]

theorem texts_marks (ws : List Whitespace) : texts (ws.map .space) = [] := by
  induction ws with
  | nil => rfl
  | cons w ws ih => exact ih

theorem entries_nested (items more : List Item) :
    entries (nested items more) =
      entries items ++ entriesAfter (items ++ [.space .indent, .space .push]) more := by
  have hmarks (before : List Item) (w v : Whitespace) :
      entriesAfter before [.space w, .space v] = [] := rfl
  rw [entries, nested, entriesAfter_append, entriesAfter_append, entriesAfter_append, hmarks, hmarks,
    List.append_nil, List.append_nil, List.nil_append]
  rfl

/-- **An entry after other items** opens as it does by itself, with the level of these added, unless its
marks go further out than it has begun. -/
theorem opening_after_append (lead : List Item) {ws : List Whitespace}
    (hlevels : ∀ before, before <+: ws.map Item.space →
      (marks before).count .unindent ≤ (marks before).count .indent) (s indentation : String) :
    (Entry.after (lead ++ ws.map .space) s).opening indentation =
      ((Entry.after (ws.map .space) s).raise (levelAfterMarks 0 (marks lead))).opening
        indentation := by
  have hlead := levelAfterMarks_add hlevels (levelAfterMarks 0 (marks lead))
  have hzero := levelAfterMarks_add hlevels 0
  have hlevel : levelAfterMarks 0 (marks (lead ++ ws.map .space)) =
      levelAfterMarks 0 (marks lead) + levelAfterMarks 0 (marks (ws.map .space)) := by
    rw [marks_append, levelAfterMarks_append]
    omega
  rw [Entry.opening, Entry.opening, Entry.after, hlevel]
  rfl

section Nested

variable {settings : Settings} {items more : List Item}

/-- **Items on lines of their own** have the lines that they have by themselves, one level further in
than what is before them. -/
theorem lines_nested (htexts : .text "" ∉ more)
    (hlevels : ∀ before, before <+: more →
      (marks before).count .unindent ≤ (marks before).count .indent)
    (hleading : texts more ≠ [] → .space .line ∉ more.takeWhile (!·.isText))
    (htrailing : texts items ≠ [] → .space .line ∉ items.rtakeWhile (!·.isText)) :
    lines settings (nested items more) =
      lines settings items ++ (lines settings more).map
        (indentLine settings.indentation (levelAfterMarks 0 (marks items) + 1)) := by
  let lead := items ++ [.space .indent, .space .push]
  have hlevel : levelAfterMarks 0 (marks lead) = levelAfterMarks 0 (marks items) + 1 := by
    rw [marks_append, levelAfterMarks_append]
    rfl
  rw [lines_eq, lines_eq, lines_eq, entries_nested, ← hlevel]
  by_cases hmore : texts more = []
  · have hentries (before : List Item) : entriesAfter before more = [] :=
      entriesAfter_eq_nil_iff.2 hmore
    rw [hentries, List.append_nil, entries, entries, hentries, linesOf.eq_1, List.map_nil,
      List.append_nil]
  · obtain ⟨ws, s, rest, rfl⟩ := exists_marks_text hmore
    -- the entries by themselves, and after the others: the first ones have different marks
    let before := ws.map Item.space ++ [.text s]
    have halone : entries (ws.map .space ++ .text s :: rest) =
        .after (ws.map .space) s :: entriesAfter before rest := by
      rw [entries, entriesAfter_append, entriesAfter_eq_nil_iff.2 (texts_marks ws)]
      rfl
    have hafter : entriesAfter lead (ws.map .space ++ .text s :: rest) =
        .after (lead ++ ws.map .space) s ::
          (entriesAfter before rest).map (Entry.raise (levelAfterMarks 0 (marks lead))) := by
      rw [entriesAfter_append, entriesAfter_eq_nil_iff.2 (texts_marks ws), ← entriesAfter_raise lead]
      · exact congrArg (fun b => _ :: entriesAfter b rest) (List.append_assoc ..)
      · simp [before, texts, text?]
      · rwa [List.append_assoc, List.singleton_append]
    have hmarks : (Entry.after (lead ++ ws.map .space) s).marks =
        marks (items.rtakeWhile (!·.isText)) ++ [.indent, .push] ++ ws := by
      rw [Entry.after, rtakeWhile_append_of_marks (texts_marks ws), rtakeWhile_append_of_marks rfl,
        marks_append, marks_append, marks_map_space]
      rfl
    have hblank : ¬ (.line ∈ (Entry.after (lead ++ ws.map .space) s).marks ∧
        linesOf settings.indentation (entries items) ≠ []) := by
      rintro ⟨hline, hne⟩
      have hitems : texts items ≠ [] := by
        rwa [← lines_eq, Ne, lines_eq_nil_iff] at hne
      have htrailing := mem_marks_iff.not.2 (htrailing hitems)
      have hleading := hleading hmore
      rw [takeWhile_marks, ← mem_marks_iff, marks_map_space] at hleading
      simp [hmarks, htrailing, hleading] at hline
    have hopening := opening_after_append lead (fun before hbefore =>
      hlevels before (hbefore.trans (List.prefix_append ..))) s settings.indentation
    have hne : ∀ e ∈ entries (ws.map .space ++ .text s :: rest), e.text ≠ "" := fun e he heq =>
      htexts (heq ▸ text_of_mem_entriesAfter he)
    rw [hafter, linesOf_append (.inr (by simp [hmarks])), if_neg hblank, List.append_nil,
      ← linesOf_raise hne, halone, List.map_cons, linesOf, linesOf, hopening]

/-- **What comes after items on lines of their own** begins a new line, at the level of what is before
them if they keep it. -/
theorem lines_nested_text
    (hlevels : ∀ before, before <+: more →
      (marks before).count .unindent ≤ (marks before).count .indent)
    (htotal : (marks more).count .indent = (marks more).count .unindent)
    (htrailing : texts items ≠ [] → .space .line ∉ items.rtakeWhile (!·.isText)) (s : String) :
    lines settings (nested items more ++ [.text s]) =
      lines settings (nested items more) ++
        (if .space .line ∈ more.rtakeWhile (!·.isText) ∧ lines settings (nested items more) ≠ []
          then [""] else []) ++
        [copies settings.indentation (levelAfterMarks 0 (marks items)) ++ s] := by
  have hlevel : levelAfterMarks 0 (marks (nested items more)) = levelAfterMarks 0 (marks items) := by
    have hmore := levelAfterMarks_add hlevels (levelAfterMarks 0 (marks items) + 1)
    rw [htotal] at hmore
    rw [nested, marks_append, marks_append, marks_append, levelAfterMarks_append,
      levelAfterMarks_append, levelAfterMarks_append]
    change levelAfterMarks (levelAfterMarks 0 (marks items) + 1) (marks more) - 1 = _
    omega
  have hmarks : (Entry.after (nested items more) s).marks =
      marks ((items ++ [Item.space .indent, .space .push] ++ more).rtakeWhile (!·.isText)) ++
        [.unindent, .push] := by
    rw [Entry.after, nested, rtakeWhile_append_of_marks rfl, marks_append]
    rfl
  have hline : .line ∈ (Entry.after (nested items more) s).marks ∧
      lines settings (nested items more) ≠ [] ↔
      Item.space .line ∈ more.rtakeWhile (!·.isText) ∧ lines settings (nested items more) ≠ [] := by
    refine and_congr_left fun hne => ?_
    rw [hmarks, List.mem_append, or_iff_left (by decide), mem_marks_iff]
    by_cases hmore : texts more = []
    · have hitems : texts items ≠ [] := fun hitems => hne <| lines_eq_nil_iff.2 <| by
        rw [nested, texts_append, texts_append, texts_append, hitems, hmore]
        rfl
      -- without a text among them, all that is in between are marks
      have hall : more.rtakeWhile (!·.isText) = more := by
        have hnil : ([] ++ more).rtakeWhile (!·.isText) = List.rtakeWhile (!·.isText) [] ++ more :=
          rtakeWhile_append_of_marks hmore
        rwa [List.rtakeWhile_nil] at hnil
      rw [rtakeWhile_append_of_marks hmore, rtakeWhile_append_of_marks rfl, hall]
      simp [htrailing hitems]
    · rw [rtakeWhile_append_of_texts hmore]
  have hentries : entries (nested items more ++ [.text s]) =
      entries (nested items more) ++ [.after (nested items more) s] :=
    entriesAfter_append [] (nested items more) [.text s]
  have hopening : linesOf settings.indentation [.after (nested items more) s] =
      [copies settings.indentation (levelAfterMarks 0 (marks items)) ++ s] := by
    rw [linesOf, continued, String.append_empty, Entry.opening, Entry.after, hlevel]
  rw [lines_eq, hentries, linesOf_append (.inr (by simp [hmarks])), hopening, ← lines_eq]
  simp only [hline]

end Nested

end Layout

/-! ### Writing a receiver on lines of its own -/

section Write

variable {s : Store} {id source : Nat}

theorem Store.items_extend_self (h : id < s.receivers.size) (more : List Item) :
    (s.extend id more).items id = s.items id ++ more := by
  rw [items_extend, if_pos ⟨rfl, h⟩]

theorem Store.items_extend_of_ne (h : source ≠ id) (more : List Item) :
    (s.extend id more).items source = s.items source := by
  rw [items_extend, if_neg fun hid => h hid.1.symm]

/-- Another receiver is written on lines of its own. -/
theorem Evaluator.gives_writeNested (ev : Evaluator) (hid : id < s.receivers.size)
    (hne : source ≠ id) :
    ∃ t, (ev.writeNested id (.receiver source)).Gives s () t ∧
      t.items id = Item.nested (s.items id) (s.items source) ∧
      t.receivers.size = s.receivers.size := by
  let opened := (s.extend id [.space .indent]).extend id [.space .push]
  let copied := opened.extend id (opened.items source)
  have hopened : opened.items id = s.items id ++ [.space .indent, .space .push] := by
    rw [Store.items_extend_self (by rwa [Store.size_extend]), Store.items_extend_self hid,
      List.append_assoc]
    rfl
  have hsource : opened.items source = s.items source := by
    rw [Store.items_extend_of_ne hne, Store.items_extend_of_ne hne]
  have hcopied : copied.receivers.size = s.receivers.size := by
    rw [Store.size_extend, Store.size_extend, Store.size_extend]
  refine ⟨(copied.extend id [.space .unindent]).extend id [.space .push], ⟨rfl, rfl⟩, ?_, ?_⟩
  · rw [Store.items_extend_self (by rwa [Store.size_extend, hcopied]),
      Store.items_extend_self (by rwa [hcopied]),
      Store.items_extend_self (by rwa [Store.size_extend, Store.size_extend]), hopened, hsource,
      List.append_assoc _ [Item.space .unindent]]
    rfl
  · rw [Store.size_extend, Store.size_extend, hcopied]

open Layout in
/-- **A receiver that is written on lines of its own** keeps its lines, one level further in than the
receiver that it is written to has got to, after whose lines they come. Empty lines stay empty. If it
keeps the level, the next text begins a new line at the level from before. -/
theorem Evaluator.lines_writeNested (ev : Evaluator) (settings : Settings)
    (hid : id < s.receivers.size) (hne : source ≠ id) (htexts : .text "" ∉ s.items source)
    (hlevels : ∀ before, before <+: s.items source →
      (Item.marks before).count .unindent ≤ (Item.marks before).count .indent)
    (hleading : Item.texts (s.items source) ≠ [] →
      .space .line ∉ (s.items source).takeWhile (!·.isText))
    (htrailing : Item.texts (s.items id) ≠ [] →
      .space .line ∉ (s.items id).rtakeWhile (!·.isText)) :
    let level := levelAfterMarks 0 (Item.marks (s.items id))
    ∃ t, (ev.writeNested id (.receiver source)).Gives s () t ∧
      lines settings (t.items id) =
        lines settings (s.items id) ++
          (lines settings (s.items source)).map (indentLine settings.indentation (level + 1)) ∧
      ((Item.marks (s.items source)).count .indent = (Item.marks (s.items source)).count .unindent →
        ∀ text, text ≠ "" → ∃ u, (Action.writeText id text).Gives t () u ∧
          lines settings (u.items id) =
            lines settings (t.items id) ++
              (if .space .line ∈ (s.items source).rtakeWhile (!·.isText) ∧
                  lines settings (t.items id) ≠ [] then [""] else []) ++
              [copies settings.indentation level ++ text]) := by
  intro level
  obtain ⟨t, ht, hitems, hsize⟩ := ev.gives_writeNested hid hne
  refine ⟨t, ht, ?_, fun htotal text htext => ?_⟩
  · rw [hitems]
    exact lines_nested htexts hlevels hleading htrailing
  · have hwrite : (Action.writeText id text).Gives t () (t.extend id [.text text]) := by
      unfold Action.writeText
      constructor
      · simp [htext]
      · simp [htext]
    refine ⟨_, hwrite, ?_⟩
    rw [Store.items_extend_self (by rwa [hsize]), hitems]
    exact lines_nested_text hlevels htotal htrailing text

open Layout in
/-- Two lines with an empty one between them, written after a line that is still open, two levels in. -/
theorem Evaluator.lines_writeNested_two_levels :
    let s : Store := { receivers := #[#[.space .indent, .text "a", .space .indent, .space .space],
      #[.text "b", .space .indent, .space .line, .text "c", .space .unindent, .space .push]] }
    ∃ t u, (Evaluator.standard.writeNested 0 (.receiver 1)).Gives s () t ∧
      lines { indentation := "-" } (t.items 0) = ["-a", "---b", "", "----c"] ∧
      (Action.writeText 0 "d").Gives t () u ∧
      lines { indentation := "-" } (u.items 0) = ["-a", "---b", "", "----c", "--d"] := by
  intro s
  have hid : 0 < s.receivers.size := by decide
  have hlevels : ∀ before ∈ (s.items 1).inits,
      (Item.marks before).count .unindent ≤ (Item.marks before).count .indent := by decide
  obtain ⟨t, ht, hlines, hnext⟩ := Evaluator.standard.lines_writeNested
    { indentation := "-" } hid one_ne_zero (by decide)
    (fun before h => hlevels before ((List.mem_inits _ _).2 h)) (by decide) (by decide)
  obtain ⟨u, hu, hlines'⟩ := hnext (by decide) "d" (by decide)
  refine ⟨t, u, ht, hlines.trans (by decide), hu, hlines'.trans ?_⟩
  rw [hlines]
  decide

end Write

end TokenTemplate
