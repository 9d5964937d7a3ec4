import Mathlib.Data.List.Induction
import Mathlib.Order.Nat
import TokenTemplate.Token.Lexeme

/-!
# Offsets and the places that they stand for

A span carries each of its ends twice: as an offset into the source and as a place on the page. Here
the place is worked out from the offset, `TokenTemplate.Position.ofOffset`, by counting the line
feeds before it, and this is what a scan arrives at by taking one character after another
(`TokenTemplate.Position.ofOffset_slice`).

A span whose two readings agree is said to lie in the source, `TokenTemplate.Span.LiesIn`. Such a
span is given by its offsets alone, `TokenTemplate.Span.between`, and the joins of spans, which
compare places, then compare offsets (`TokenTemplate.Span.LiesIn.join`). The load-bearing fact is
that a later offset is a later place, `TokenTemplate.Position.before_ofOffset`.
-/

namespace TokenTemplate

/-! ### Pieces of a source -/

/-- The piece of a source between two offsets. -/
def slice (source : List Char) (start stop : Nat) : List Char :=
  (source.take stop).drop start

section Slice

variable {source : List Char} {a b c : Nat}

theorem slice_eq_take_drop : slice source a b = (source.drop a).take (b - a) := by
  rw [slice, List.drop_take]

theorem slice_self : slice source a a = [] := by
  rw [slice_eq_take_drop, Nat.sub_self, List.take_zero]

theorem length_slice (h : b ≤ source.length) : (slice source a b).length = b - a := by
  rw [slice, List.length_drop, List.length_take, Nat.min_eq_left h]

/-- Two pieces that meet are one. -/
theorem slice_append (h : a ≤ b) (h' : b ≤ c) :
    slice source a b ++ slice source b c = slice source a c := by
  have hdrop : source.drop b = (source.drop a).drop (b - a) := by
    rw [List.drop_drop, Nat.add_sub_cancel' h]
  have hsum : c - a = (b - a) + (c - b) := by omega
  rw [slice_eq_take_drop, slice_eq_take_drop, slice_eq_take_drop, hdrop, hsum, List.take_add]

/-- A piece and all that follows it. -/
theorem slice_append_drop (h : a ≤ b) : slice source a b ++ source.drop b = source.drop a := by
  have hdrop : source.drop b = (source.drop a).drop (b - a) := by
    rw [List.drop_drop, Nat.add_sub_cancel' h]
  rw [slice_eq_take_drop, hdrop, List.take_append_drop]

/-- The first character of a piece. -/
theorem slice_cons {ch : Char} (hc : source[a]? = some ch) (h : a < b) :
    slice source a b = ch :: slice source (a + 1) b := by
  obtain ⟨ha, rfl⟩ := List.getElem?_eq_some_iff.1 hc
  have hsub : b - a = (b - (a + 1)) + 1 := by omega
  rw [slice_eq_take_drop, slice_eq_take_drop, List.drop_eq_getElem_cons ha, hsub,
    List.take_succ_cons]

theorem slice_succ {ch : Char} (hc : source[a]? = some ch) : slice source a (a + 1) = [ch] := by
  rw [slice_cons hc (Nat.lt_succ_self a), slice_self]

/-- A text that the rest of the source begins with is a piece of it. -/
theorem slice_of_isPrefix {text : List Char} (h : text <+: source.drop a) :
    slice source a (a + text.length) = text := by
  rw [slice_eq_take_drop, Nat.add_sub_cancel_left]
  exact (List.prefix_iff_eq_take.1 h).symm

theorem add_length_le_of_isPrefix {text : List Char} (h : text <+: source.drop a)
    (ha : a ≤ source.length) : a + text.length ≤ source.length := by
  have hle := h.length_le
  rw [List.length_drop] at hle
  omega

end Slice

namespace Position

/-! ### The place of an offset -/

/-- **The place of an offset**: one line for each line feed before it, and one column for each
character after the last of these. -/
def ofOffset (source : List Char) (n : Nat) : Position :=
  ⟨(source.take n).count '\n' + 1, ((source.take n).reverse.takeWhile (· ≠ '\n')).length + 1⟩

theorem ofOffset_zero (source : List Char) : ofOffset source 0 = origin := rfl

theorem advanceAll_nil (p : Position) : p.advanceAll [] = p := rfl

theorem advanceAll_cons (p : Position) (c : Char) (cs : List Char) :
    p.advanceAll (c :: cs) = (p.advance c).advanceAll cs := rfl

theorem advanceAll_append (p : Position) (cs ds : List Char) :
    p.advanceAll (cs ++ ds) = (p.advanceAll cs).advanceAll ds := by
  rw [advanceAll, advanceAll, advanceAll, List.foldl_append]

/-- Counting line feeds is what a scan does that starts at the first place. -/
theorem advanceAll_origin (cs : List Char) :
    origin.advanceAll cs =
      ⟨cs.count '\n' + 1, (cs.reverse.takeWhile (· ≠ '\n')).length + 1⟩ := by
  induction cs using List.reverseRecOn with
  | nil => rfl
  | append_singleton cs c ih =>
    rw [advanceAll_append, ih, advanceAll_cons, advanceAll_nil, advance]
    by_cases hc : c = '\n'
    · subst hc
      simp
    · simp [hc, right]

theorem ofOffset_eq_advanceAll (source : List Char) (n : Nat) :
    ofOffset source n = origin.advanceAll (source.take n) :=
  (advanceAll_origin _).symm

/-- **The place of a later offset** is reached by the characters in between. -/
theorem ofOffset_slice {source : List Char} {a b : Nat} (h : a ≤ b) :
    ofOffset source b = (ofOffset source a).advanceAll (slice source a b) := by
  have hsplit : source.take b = source.take a ++ slice source a b := by
    have hsplice : slice source 0 a ++ slice source a b = slice source 0 b :=
      slice_append (Nat.zero_le a) h
    simpa [slice] using hsplice.symm
  rw [ofOffset_eq_advanceAll, ofOffset_eq_advanceAll, hsplit, advanceAll_append]

theorem ofOffset_succ {source : List Char} {a : Nat} {c : Char} (hc : source[a]? = some c) :
    ofOffset source (a + 1) = (ofOffset source a).advance c := by
  rw [ofOffset_slice (Nat.le_succ a), slice_succ hc, advanceAll_cons, advanceAll_nil]

theorem ofOffset_add_length {source text : List Char} {a : Nat} (h : text <+: source.drop a) :
    ofOffset source (a + text.length) = (ofOffset source a).advanceAll text := by
  rw [ofOffset_slice (Nat.le_add_right a _), slice_of_isPrefix h]

theorem one_le_column_ofOffset (source : List Char) (n : Nat) : 1 ≤ (ofOffset source n).column := by
  simp only [ofOffset]
  omega

/-! ### Later offsets are later places -/

theorem before_advance (p : Position) (c : Char) : p.before (p.advance c) = true := by
  rw [before_iff, advance]
  split
  · exact Or.inl (Int.lt_succ _)
  · exact Or.inr ⟨rfl, Int.lt_succ _⟩

theorem before_advanceAll (p : Position) {cs : List Char} (h : cs ≠ []) :
    p.before (p.advanceAll cs) = true := by
  induction cs generalizing p with
  | nil => exact absurd rfl h
  | cons c cs ih =>
    rw [advanceAll_cons]
    rcases eq_or_ne cs [] with rfl | hne
    · exact before_advance p c
    · exact before_trans (before_advance p c) (ih _ hne)

variable {source : List Char} {a b : Nat}

/-- **A later offset is a later place.** -/
theorem before_ofOffset (h : a < b) (hb : b ≤ source.length) :
    (ofOffset source a).before (ofOffset source b) = true := by
  rw [ofOffset_slice h.le]
  refine before_advanceAll _ fun hnil => ?_
  have hlen := length_slice (a := a) hb
  rw [hnil, List.length_nil] at hlen
  omega

theorem upTo_ofOffset (h : a ≤ b) : (ofOffset source a).upTo (ofOffset source b) = true := by
  rw [ofOffset_slice h, upTo, Bool.or_eq_true, beq_iff_eq]
  rcases eq_or_ne (slice source a b) [] with hnil | hne
  · rw [hnil, advanceAll_nil]
    exact .inr rfl
  · exact .inl (before_advanceAll _ hne)

theorem before_ofOffset_iff (ha : a ≤ source.length) (hb : b ≤ source.length) :
    (ofOffset source a).before (ofOffset source b) = true ↔ a < b := by
  refine ⟨fun h => ?_, fun h => before_ofOffset h hb⟩
  rcases Nat.lt_trichotomy a b with hlt | rfl | hgt
  · exact hlt
  · rw [before_irrefl] at h
    exact absurd h Bool.false_ne_true
  · have hself := before_trans h (before_ofOffset hgt ha)
    rw [before_irrefl] at hself
    exact absurd hself Bool.false_ne_true

/-- Different offsets are different places. -/
theorem ofOffset_inj (ha : a ≤ source.length) (hb : b ≤ source.length) :
    ofOffset source a = ofOffset source b ↔ a = b := by
  refine ⟨fun h => ?_, fun h => by rw [h]⟩
  by_contra hne
  rcases Nat.lt_or_gt_of_ne hne with hlt | hgt
  · have hbefore := before_ofOffset hlt hb
    rw [h, before_irrefl] at hbefore
    exact Bool.false_ne_true hbefore
  · have hbefore := before_ofOffset hgt ha
    rw [h, before_irrefl] at hbefore
    exact Bool.false_ne_true hbefore

theorem upTo_ofOffset_iff (ha : a ≤ source.length) (hb : b ≤ source.length) :
    (ofOffset source a).upTo (ofOffset source b) = true ↔ a ≤ b := by
  rw [upTo, Bool.or_eq_true, before_ofOffset_iff ha hb, beq_iff_eq, ofOffset_inj ha hb]
  omega

/-- One column to the left of the place after a character that is no line feed. -/
theorem left_ofOffset_succ {c : Char} (hc : source[a]? = some c) (hne : c ≠ '\n') :
    (ofOffset source (a + 1)).left = ofOffset source a := by
  have hcol := one_le_column_ofOffset source a
  rw [ofOffset_succ hc, advance, if_neg hne, right, left]
  simp only [Int.add_sub_cancel]
  rw [Int.max_eq_left hcol]

theorem right_ofOffset {c : Char} (hc : source[a]? = some c) (hne : c ≠ '\n') :
    (ofOffset source a).right = ofOffset source (a + 1) := by
  rw [ofOffset_succ hc, advance, if_neg hne]

end Position

namespace Span

/-! ### Spans of a source -/

/-- The span between two offsets. -/
def between (source : List Char) (start stop : Nat) : Span :=
  ⟨.ofOffset source start, .ofOffset source stop, start, stop⟩

/-- **A span lies in a source**: its offsets are in order and in the source, and its places are
those of its offsets. -/
structure LiesIn (source : List Char) (s : Span) : Prop where
  /-- The end is not before the start. -/
  startPos_le : s.startPos ≤ s.stopPos
  /-- The end is in the source. -/
  stopPos_le : s.stopPos ≤ source.length
  /-- The first place is that of the first offset. -/
  start_eq : s.start = .ofOffset source s.startPos
  /-- The second place is that of the second offset. -/
  stop_eq : s.stop = .ofOffset source s.stopPos

variable {source : List Char} {a b c d : Nat} {s t : Span}

theorem liesIn_between (h : a ≤ b) (hb : b ≤ source.length) : (between source a b).LiesIn source :=
  ⟨h, hb, rfl, rfl⟩

theorem LiesIn.eq_between (h : s.LiesIn source) : s = between source s.startPos s.stopPos := by
  obtain ⟨start, stop, startPos, stopPos⟩ := s
  simp only [between, Span.mk.injEq, and_self, and_true]
  exact ⟨h.start_eq, h.stop_eq⟩

/-- Joining spans of a source takes the smaller of the first offsets and the larger of the second.
-/
theorem join_between (ha : a ≤ source.length) (hb : b ≤ source.length) (hc : c ≤ source.length)
    (hd : d ≤ source.length) :
    (between source a b).join (between source c d) =
      between source (min a c) (max b d) := by
  simp only [join, between, Position.upTo_ofOffset_iff ha hc, Position.upTo_ofOffset_iff hd hb]
  rcases le_or_gt a c with hac | hac <;> rcases le_or_gt d b with hdb | hdb
  · rw [if_pos hac, if_pos hdb, Nat.min_eq_left hac, Nat.max_eq_left hdb]
  · rw [if_pos hac, if_neg hdb.not_ge, Nat.min_eq_left hac, Nat.max_eq_right hdb.le]
  · rw [if_neg hac.not_ge, if_pos hdb, Nat.min_eq_right hac.le, Nat.max_eq_left hdb]
  · rw [if_neg hac.not_ge, if_neg hdb.not_ge, Nat.min_eq_right hac.le, Nat.max_eq_right hdb.le]

/-- Spans in order join to the span from the first start to the second end. -/
theorem join_between_of_le (hac : a ≤ c) (hbd : b ≤ d) (hcd : c ≤ d)
    (hd : d ≤ source.length) :
    (between source a b).join (between source c d) = between source a d := by
  rw [join_between (by omega) (by omega) (by omega) hd, Nat.min_eq_left hac, Nat.max_eq_right hbd]

/-- **The join of two spans of a source is a span of the source.** -/
theorem LiesIn.join (hs : s.LiesIn source) (ht : t.LiesIn source) : (s.join t).LiesIn source := by
  have hs₁ := hs.startPos_le
  have hs₂ := hs.stopPos_le
  have ht₁ := ht.startPos_le
  have ht₂ := ht.stopPos_le
  rw [hs.eq_between, ht.eq_between,
    join_between (by omega) hs₂ (by omega) ht₂]
  exact liesIn_between (by omega) (by omega)

theorem LiesIn.point (h : a ≤ source.length) :
    (Span.point (.ofOffset source a) a).LiesIn source :=
  ⟨le_rfl, h, rfl, rfl⟩

/-- The span of a text is that between its offsets. -/
theorem ofText_eq_between {text : List Char} (h : text <+: source.drop a) :
    Span.ofText (.ofOffset source a) a text = between source a (a + text.length) := by
  rw [Span.ofText, between, Position.ofOffset_add_length h]

/-! ### Cursors -/

/-- The cursors of two pieces, of which the second ends no earlier. -/
theorem cursor_join_between (hac : a ≤ c) (hbd : b ≤ d) (hc : c ≤ source.length)
    (hd : d ≤ source.length) :
    (between source a b).cursor.join (between source c d).cursor = (between source a d).cursor := by
  have hstart : ¬ (Position.ofOffset source c).before (.ofOffset source a) = true := by
    rw [Position.before_ofOffset_iff hc (hac.trans hc)]
    omega
  have hstop : (Position.ofOffset source b).later (.ofOffset source d) = .ofOffset source d := by
    rw [Position.later, ite_eq_left_iff, Position.before_ofOffset_iff (hbd.trans hd) hd]
    intro hlt
    rw [Nat.le_antisymm hbd (Nat.le_of_not_lt hlt)]
  rw [Cursor.join, cursor, cursor, cursor, between, between, between, Position.earlier,
    if_neg hstart, hstop]

theorem firstCharacter_between {ch : Char} (hc : source[a]? = some ch) (hne : ch ≠ '\n') :
    (between source a b).cursor.firstCharacter = (between source a (a + 1)).cursor := by
  simp only [Cursor.firstCharacter, cursor, between, Position.right_ofOffset hc hne]

theorem lastCharacter_between {ch : Char} (hc : source[b]? = some ch) (hne : ch ≠ '\n') :
    (between source a (b + 1)).cursor.lastCharacter = (between source b (b + 1)).cursor := by
  simp only [Cursor.lastCharacter, cursor, between, Position.left_ofOffset_succ hc hne]

end Span

end TokenTemplate
