import Mathlib.Data.List.Basic
import TokenTemplate.Proofs.Routine.Encoder
import TokenTemplate.Text.Line

/-!
# The line that an offset is on

Two ways to cut a source into lines meet in a message. Places count line feeds, so for them the
lines of a source are the pieces between its line feeds. An excerpt is cut out by
`TokenTemplate.Text.lines`, which knows more line boundaries and takes a carriage return with the
line feed after it.

An offset is on one of the pieces, `TokenTemplate.Text.OnLine`, and its place says which one and how
far in it is (`TokenTemplate.Text.OnLine.ofOffset_eq`). The excerpts know the same line under the same
number as long as only line feeds end the lines up to it, `TokenTemplate.Text.OnlyFeeds`
(`TokenTemplate.Text.OnLine.lines_getElem`).
-/

namespace TokenTemplate

namespace Text

/-! ### Lines between line feeds -/

/-- The text of some lines, each with the line feed that ends it. -/
def ended (lines : List (List Char)) : List Char :=
  lines.flatMap (· ++ ['\n'])

@[simp]
theorem ended_nil : ended [] = [] := rfl

@[simp]
theorem ended_cons (line : List Char) (lines : List (List Char)) :
    ended (line :: lines) = line ++ '\n' :: ended lines := by
  rw [ended, List.flatMap_cons, List.append_assoc, List.singleton_append, ended]

/-- Lines are put together by ending all that have a line after them. -/
theorem intercalate_append (before : List (List Char)) {lines : List (List Char)}
    (h : lines ≠ []) :
    ['\n'].intercalate (before ++ lines) = ended before ++ ['\n'].intercalate lines := by
  induction before with
  | nil => rfl
  | cons b before ih =>
    obtain ⟨l, ls, hls⟩ := List.exists_cons_of_ne_nil (List.append_ne_nil_of_right_ne_nil before h)
    rw [List.cons_append, hls, List.intercalate_cons_cons, ← hls, ih, ended_cons]
    simp only [List.append_assoc, List.cons_append, List.nil_append]

/-- A line between line feeds has none in it. -/
theorem not_mem_of_mem_splitOn {source line : List Char} (h : line ∈ source.splitOn '\n') :
    '\n' ∉ line := by
  induction source generalizing line with
  | nil =>
    obtain rfl : line = [] := by simpa using h
    exact List.not_mem_nil
  | cons c cs ih =>
    rw [List.splitOn_eq_splitOnP] at h ih
    rw [List.splitOnP_cons_eq_if_modifyHead] at h
    obtain ⟨l, ls, hls⟩ := List.exists_cons_of_ne_nil (List.splitOnP_ne_nil (· == '\n') cs)
    rw [hls] at h ih
    split_ifs at h with hc
    · rcases List.mem_cons.1 h with rfl | h
      · exact List.not_mem_nil
      · exact ih h
    · rcases List.mem_cons.1 h with rfl | h
      · rw [List.mem_cons, not_or]
        exact ⟨fun heq => hc (beq_iff_eq.2 heq.symm), ih List.mem_cons_self⟩
      · exact ih (List.mem_cons_of_mem l h)

/-- **An offset is on a line**: the source is cut at its line feeds, and the offset is neither
before the line nor after what ends it. -/
structure OnLine (source : List Char) (n : Nat) (before : List (List Char)) (line : List Char)
    (after : List (List Char)) : Prop where
  /-- The lines of the source. -/
  splitOn_eq : source.splitOn '\n' = before ++ line :: after
  /-- The line does not begin after the offset. -/
  length_le : (ended before).length ≤ n
  /-- The line does not end before the offset. -/
  le_length : n ≤ (ended before).length + line.length

/-- Lines that are put together are walked line by line. -/
theorem exists_line {lines : List (List Char)} {n : Nat} (hne : lines ≠ [])
    (h : n ≤ (['\n'].intercalate lines).length) :
    ∃ before line after, lines = before ++ line :: after ∧ (ended before).length ≤ n ∧
      n ≤ (ended before).length + line.length := by
  induction lines generalizing n with
  | nil => exact absurd rfl hne
  | cons line lines ih =>
    by_cases hline : n ≤ line.length
    · exact ⟨[], line, lines, rfl, Nat.zero_le n, by simpa using hline⟩
    -- beyond the line and its line feed there is another one
    have hmore : lines ≠ [] := by
      rintro rfl
      exact hline (by simpa using h)
    have hcut : ['\n'].intercalate (line :: lines) = line ++ '\n' :: ['\n'].intercalate lines := by
      simpa using intercalate_append [line] hmore
    rw [hcut, List.length_append, List.length_cons] at h
    have hrest : n - (line.length + 1) ≤ (['\n'].intercalate lines).length := by omega
    obtain ⟨before, l, after, rfl, hle, hle'⟩ := ih hmore hrest
    refine ⟨line :: before, l, after, rfl, ?_, ?_⟩
    all_goals
      simp only [ended_cons, List.length_append, List.length_cons]
      omega

/-- **Every offset is on a line.** -/
theorem exists_onLine {source : List Char} {n : Nat} (h : n ≤ source.length) :
    ∃ before line after, OnLine source n before line after := by
  have hlen : n ≤ (['\n'].intercalate (source.splitOn '\n')).length := by
    rwa [List.intercalate_splitOn]
  obtain ⟨before, line, after, hsplit, hle, hle'⟩ := exists_line (List.splitOn_ne_nil _ _) hlen
  exact ⟨before, line, after, hsplit, hle, hle'⟩

/-! ### The place of an offset on a line -/

/-- The place after some lines is the first one of the next line. -/
theorem advanceAll_ended (k : Int) {lines : List (List Char)} (h : ∀ l ∈ lines, '\n' ∉ l) :
    Position.advanceAll ⟨k, 1⟩ (ended lines) = ⟨k + lines.length, 1⟩ := by
  induction lines generalizing k with
  | nil => simp [Position.advanceAll_nil]
  | cons l ls ih =>
    rw [List.forall_mem_cons] at h
    have hline : (Position.advanceAll ⟨k, 1⟩ l).line = k := by
      rw [line_advanceAll, List.count_eq_zero.2 h.1]
      simp
    rw [ended_cons, Position.advanceAll_append, Position.advanceAll_cons, Position.advance,
      if_pos rfl, hline, ih _ h.2, List.length_cons]
    simp only [Position.mk.injEq, and_true]
    omega

namespace OnLine

variable {source : List Char} {n m : Nat} {before before' after after' : List (List Char)}
  {line line' : List Char}

/-- A source is the lines before a line and what is left. -/
theorem eq_append (h : OnLine source n before line after) :
    source = ended before ++ ['\n'].intercalate (line :: after) := by
  rw [← intercalate_append before (List.cons_ne_nil line after), ← h.splitOn_eq,
    List.intercalate_splitOn]

theorem not_mem (h : OnLine source n before line after) : '\n' ∉ line :=
  not_mem_of_mem_splitOn (by
    rw [h.splitOn_eq]
    exact List.mem_append_right before List.mem_cons_self)

theorem not_mem_before (h : OnLine source n before line after) : ∀ l ∈ before, '\n' ∉ l :=
  fun _ hl => not_mem_of_mem_splitOn (by
    rw [h.splitOn_eq]
    exact List.mem_append_left _ hl)

/-- What stands before an offset: the lines before its own, and the first part of that. -/
theorem take_eq (h : OnLine source n before line after) :
    source.take n = ended before ++ line.take (n - (ended before).length) := by
  have hle : n - (ended before).length ≤ line.length := by
    have := h.le_length
    omega
  have hline : line <+: ['\n'].intercalate (line :: after) := by
    cases after with
    | nil => simp
    | cons l ls =>
      rw [List.intercalate_cons_cons, List.append_assoc]
      exact List.prefix_append line _
  rw [h.eq_append, List.take_append, List.take_of_length_le h.length_le]
  obtain ⟨rest, hrest⟩ := hline
  rw [← hrest, List.take_append_of_le_length hle]

/-- **The place of an offset** names its line and how far in it is. -/
theorem ofOffset_eq (h : OnLine source n before line after) :
    Position.ofOffset source n =
      ⟨before.length + 1, (n - (ended before).length : Nat) + 1⟩ := by
  have hmem : '\n' ∉ line.take (n - (ended before).length) :=
    fun hin => h.not_mem (List.mem_of_mem_take hin)
  have hlen : (line.take (n - (ended before).length)).length = n - (ended before).length := by
    have := h.le_length
    rw [List.length_take]
    omega
  have hline := line_advanceAll ⟨1 + (before.length : Int), 1⟩ (line.take (n - (ended before).length))
  have hcolumn := column_advanceAll ⟨1 + (before.length : Int), 1⟩ hmem
  rw [List.count_eq_zero.2 hmem] at hline
  rw [hlen] at hcolumn
  rw [Position.ofOffset_eq_advanceAll, h.take_eq, Position.advanceAll_append, Position.origin,
    advanceAll_ended 1 h.not_mem_before]
  generalize Position.advanceAll _ _ = p at *
  obtain ⟨l, c⟩ := p
  simp only [Position.mk.injEq] at *
  omega

/-- Two offsets on lines of one number are on the same line. -/
theorem eq_of_length_eq (h : OnLine source n before line after)
    (h' : OnLine source m before' line' after') (hlen : before.length = before'.length) :
    before = before' ∧ line = line' := by
  have hsplit := h.splitOn_eq.symm.trans h'.splitOn_eq
  obtain ⟨hbefore, hrest⟩ := List.append_inj hsplit hlen
  exact ⟨hbefore, (List.cons.inj hrest).1⟩

/-- **A later offset is on the line too** unless it is behind its end. -/
theorem line_ofOffset_eq_iff (h : OnLine source n before line after) (hnm : n ≤ m)
    (hm : m ≤ source.length) :
    (Position.ofOffset source m).line = (Position.ofOffset source n).line ↔
      m ≤ (ended before).length + line.length := by
  refine ⟨fun heq => ?_, fun hle => ?_⟩
  · obtain ⟨before', line', after', h'⟩ := exists_onLine hm
    rw [h.ofOffset_eq, h'.ofOffset_eq] at heq
    obtain ⟨rfl, rfl⟩ := h.eq_of_length_eq h' (by simp only at heq; omega)
    exact h'.le_length
  · have h' : OnLine source m before line after := ⟨h.splitOn_eq, h.length_le.trans hnm, hle⟩
    rw [h.ofOffset_eq, h'.ofOffset_eq]

end OnLine

/-! ### The lines of an excerpt -/

/-- A line without the carriage return that its line feed takes with it. -/
def withoutReturn (line : List Char) : List Char :=
  if line.getLast? = some '\r' then line.dropLast else line

/-- What is to be shown of a line: a carriage return is left out where a line feed follows. -/
def shown (line : List Char) (after : List (List Char)) : List Char :=
  if after = [] then line else withoutReturn line

/-- **No character of a line ends it.** -/
def Unbroken (line : List Char) : Prop :=
  ∀ c ∈ line, isLineBreak c = false

instance (line : List Char) : Decidable (Unbroken line) :=
  List.decidableBAll (isLineBreak · = false) line

/-- **Only line feeds end the lines up to a line**, each with a carriage return before it or
without. -/
structure OnlyFeeds (before : List (List Char)) (line : List Char) (after : List (List Char)) :
    Prop where
  /-- No line before it is broken. -/
  before_unbroken : ∀ l ∈ before, Unbroken (withoutReturn l)
  /-- The line is not broken. -/
  line_unbroken : Unbroken (shown line after)

/-- Characters that end no line are collected. -/
theorem linesFrom_append {line : List Char} (h : Unbroken line) (read cs : List Char) :
    linesFrom read (line ++ cs) = linesFrom (line.reverse ++ read) cs := by
  induction line generalizing read with
  | nil => rfl
  | cons c line ih =>
    rw [Unbroken, List.forall_mem_cons] at h
    have hne : c ≠ '\r' := by
      rintro rfl
      exact absurd h.1 (by decide)
    have hstep : linesFrom read (c :: (line ++ cs)) = linesFrom (c :: read) (line ++ cs) := by
      rw [linesFrom]
      · rw [h.1, if_neg Bool.false_ne_true]
      · exact fun _ hc => absurd hc hne
    rw [List.cons_append, hstep, ih h.2, List.reverse_cons, List.append_assoc,
      List.singleton_append]

/-- A line feed ends a line, with a carriage return before it or without. -/
theorem linesFrom_feed {line : List Char} (h : Unbroken (withoutReturn line)) (cs : List Char) :
    linesFrom [] (line ++ '\n' :: cs) = withoutReturn line :: linesFrom [] cs := by
  rw [withoutReturn] at h ⊢
  split_ifs at h ⊢ with hlast
  · obtain ⟨rest, rfl⟩ := List.getLast?_eq_some_iff.1 hlast
    rw [List.dropLast_concat] at h ⊢
    rw [List.append_assoc, linesFrom_append h, List.append_nil, List.singleton_append, linesFrom,
      List.reverse_reverse]
  · rw [linesFrom_append h, List.append_nil, linesFrom]
    · rw [if_pos (by decide), List.reverse_reverse]
    · exact fun _ hc => absurd hc (by decide)

/-- The lines of an excerpt begin with those that line feeds end. -/
theorem linesFrom_ended {before : List (List Char)}
    (h : ∀ l ∈ before, Unbroken (withoutReturn l)) (cs : List Char) :
    linesFrom [] (ended before ++ cs) = before.map withoutReturn ++ linesFrom [] cs := by
  induction before with
  | nil => rfl
  | cons l before ih =>
    rw [List.forall_mem_cons] at h
    rw [ended_cons, List.append_assoc, List.cons_append, linesFrom_feed h.1, ih h.2, List.map_cons,
      List.cons_append]

/-- **The excerpts know the line of an offset** under its number, if only line feeds end the lines
up to it and it is not an empty last one. -/
theorem OnLine.lines_getElem {source : String} {n : Nat} {before after : List (List Char)}
    {line : List Char} (h : OnLine source.toList n before line after)
    (hfeeds : OnlyFeeds before line after) (hne : line ≠ []) :
    (lines source)[before.length]? = some (String.ofList (shown line after)) := by
  have hhead : (linesFrom [] (['\n'].intercalate (line :: after)))[0]? =
      some (shown line after) := by
    have hline := hfeeds.line_unbroken
    cases after with
    | nil =>
      rw [shown, if_pos rfl] at hline ⊢
      have hread := linesFrom_append hline [] []
      rw [List.append_nil, List.append_nil] at hread
      rw [List.intercalate_singleton, hread, linesFrom, List.isEmpty_reverse,
        if_neg (by simpa using hne), List.reverse_reverse]
      rfl
    | cons l ls =>
      rw [shown, if_neg (List.cons_ne_nil l ls)] at hline ⊢
      rw [List.intercalate_cons_cons, List.append_assoc, List.singleton_append,
        linesFrom_feed hline]
      rfl
  have hlines : linesFrom [] source.toList =
      before.map withoutReturn ++ linesFrom [] (['\n'].intercalate (line :: after)) := by
    rw [h.eq_append]
    exact linesFrom_ended hfeeds.before_unbroken _
  rw [lines, hlines, List.getElem?_map, List.getElem?_append_right (by simp), List.length_map,
    Nat.sub_self, hhead, Option.map_some]

end Text

end TokenTemplate
