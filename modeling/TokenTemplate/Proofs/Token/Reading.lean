import Mathlib.Data.List.Infix
import Mathlib.Tactic.FinCases
import TokenTemplate.Proofs.Source.Offset
import TokenTemplate.Proofs.Token.Rule

/-!
# Reading a source from left to right

What a scan is to find, said without one: `TokenTemplate.Reads` goes through a source by offsets,
skips gaps, takes at each other offset the token that the rules give there, and stops at the end or
where they give none. What it takes is kept as a row of `TokenTemplate.Mark`s, which know their
offsets but not their places.

A reading exists from every offset and there is only one; `TokenTemplate.scanFrom` gives its marks
with their places (`TokenTemplate.Reads.scanFrom_eq`). The marks of a reading tile the piece of
source that was read, `TokenTemplate.Tiles`: they follow each other, each is the piece of source
between its offsets, and only gaps are left out.
-/

namespace TokenTemplate

/-! ### Gaps -/

theorem isGap_iff {c : Char} : isGap c = true ↔ c ∈ [' ', '\t', '\x0c', '\r', '\n'] := by
  simp [isGap, or_assoc]

theorem isWord_of_isGap {c : Char} (h : isGap c = true) : Unicode.isWord c = false := by
  have hmem := isGap_iff.1 h
  fin_cases hmem <;> decide

theorem isBlank_of_isGap {c : Char} (h : isGap c = true) : Unicode.isBlank c = true := by
  have hmem := isGap_iff.1 h
  fin_cases hmem <;> decide

theorem isGap_of_isWord {c : Char} (h : Unicode.isWord c = true) : isGap c = false := by
  by_contra hgap
  rw [Bool.not_eq_false] at hgap
  rw [isWord_of_isGap hgap] at h
  exact Bool.noConfusion h

/-- A token begins with no gap. -/
theorem Spells.isGap_head {k : LexemeKind} {c : Char} {cs : List Char} (h : Spells k (c :: cs)) :
    isGap c = false := by
  cases h with
  | string | character | escaped => rfl
  | number hd | decimal hd => exact isGap_of_isWord (Unicode.isWord_of_isDecimal hd)
  | name hc => exact isGap_of_isWord hc
  | punct _ hb =>
    by_contra hgap
    rw [Bool.not_eq_false] at hgap
    rw [isBlank_of_isGap hgap] at hb
    exact Bool.noConfusion hb
  | opening d | closing d => cases d <;> rfl

/-- A text between tokens. -/
def IsGapRun (cs : List Char) : Prop :=
  ∀ c ∈ cs, isGap c = true

/-- There is nothing between two tokens that touch. -/
theorem isGapRun_slice_self {source : List Char} {n : Nat} : IsGapRun (slice source n n) := by
  rw [slice_self]
  exact List.forall_mem_nil _

theorem IsGapRun.isGap_of_slice {source : List Char} {a b n : Nat} {c : Char}
    (h : IsGapRun (slice source a b)) (hc : source[n]? = some c) (ha : a ≤ n) (hb : n < b) :
    isGap c = true := by
  refine h c ?_
  rw [← slice_append ha hb.le, slice_cons hc hb]
  exact List.mem_append_right _ List.mem_cons_self

/-- A token of a row, by its offsets. -/
structure Mark where
  /-- What it is. -/
  kind : LexemeKind
  /-- Its characters. -/
  text : List Char
  /-- The offset of its first character. -/
  start : Nat
  /-- The offset after its last character. -/
  stop : Nat
  deriving DecidableEq

/-- A mark with its places. -/
def Mark.lexeme (source : List Char) (m : Mark) : Lexeme :=
  ⟨m.kind, String.ofList m.text, .between source m.start m.stop⟩

theorem Mark.lexeme_injective (source : List Char) : Function.Injective (Mark.lexeme source) := by
  rintro ⟨k, text, a, b⟩ ⟨k', text', a', b'⟩ h
  obtain ⟨hk, htext, -, -, ha, hb⟩ := by
    simpa [Mark.lexeme, Span.between, String.ofList_inj] using h
  rw [hk, htext, ha, hb]

/-- The character at an offset where no token begins. -/
def Stray.ofOffset (source : List Char) (p : Nat) : Stray :=
  ⟨source[p]?.getD default, .ofOffset source p, p⟩

/-! ### Readings -/

/-- **The tokens of a source from an offset on**, and where no token begins, if there is such a
place. -/
inductive Reads (source : List Char) : Nat → List Mark → Option Nat → Prop
  /-- The source is at its end. -/
  | done : Reads source source.length [] none
  /-- Gaps are skipped. -/
  | gap {i : Nat} {c : Char} {marks : List Mark} {stop : Option Nat} (hc : source[i]? = some c)
      (hgap : isGap c = true) (h : Reads source (i + 1) marks stop) : Reads source i marks stop
  /-- A token begins. -/
  | token {i : Nat} {c : Char} {k : LexemeKind} {text : List Char} {marks : List Mark}
      {stop : Option Nat} (hc : source[i]? = some c) (hgap : isGap c = false)
      (hbegins : Begins (source.drop i) k text) (h : Reads source (i + text.length) marks stop) :
      Reads source i (⟨k, text, i, i + text.length⟩ :: marks) stop
  /-- No token begins. -/
  | stray {i : Nat} {c : Char} (hc : source[i]? = some c) (hgap : isGap c = false)
      (hnone : ∀ k text, ¬Begins (source.drop i) k text) : Reads source i [] (some i)

section Reads

variable {source : List Char} {i : Nat} {marks : List Mark} {stop : Option Nat}

theorem drop_eq_cons {c : Char} (hc : source[i]? = some c) :
    source.drop i = c :: source.drop (i + 1) := by
  obtain ⟨hi, rfl⟩ := List.getElem?_eq_some_iff.1 hc
  exact List.drop_eq_getElem_cons hi

/-- **There is a reading** from every offset. -/
theorem exists_reads (hi : i ≤ source.length) : ∃ marks stop, Reads source i marks stop := by
  -- by induction on what is left of the source, since every token takes a character
  induction hn : source.length - i using Nat.strongRecOn generalizing i with
  | ind n ih =>
    rcases hi.eq_or_lt with rfl | hlt
    · exact ⟨[], none, .done⟩
    have hc : source[i]? = some source[i] := List.getElem?_eq_getElem hlt
    by_cases hgap : isGap source[i] = true
    · obtain ⟨marks, stop, h⟩ := ih _ (by omega) (i := i + 1) hlt rfl
      exact ⟨marks, stop, .gap hc hgap h⟩
    · rw [Bool.not_eq_true] at hgap
      by_cases hsome : ∃ k text, Begins (source.drop i) k text
      · obtain ⟨k, text, hbegins⟩ := hsome
        have hle := add_length_le_of_isPrefix hbegins.isPrefix hi
        have hpos := List.length_pos_iff.2 hbegins.ne_nil
        obtain ⟨marks, stop, h⟩ := ih _ (by omega) (i := i + text.length) hle rfl
        exact ⟨_, stop, .token hc hgap hbegins h⟩
      · simp only [not_exists] at hsome
        exact ⟨[], some i, .stray hc hgap hsome⟩

/-- **A scan gives the reading** with its places. -/
theorem Reads.scanFrom_eq (h : Reads source i marks stop) :
    scanFrom (.ofOffset source i) i (source.drop i) =
      (marks.map (Mark.lexeme source), stop.map (Stray.ofOffset source)) := by
  induction h with
  | done =>
    rw [List.drop_length, scanFrom]
    rfl
  | gap hc hgap _ ih =>
    rw [drop_eq_cons hc, scanFrom, if_pos hgap, ← Position.ofOffset_succ hc, ih]
  | @token i c k text marks stop hc hgap hbegins _ ih =>
    have hmunch := hbegins.munch_eq
    rw [List.drop_drop, drop_eq_cons hc] at hmunch
    rw [drop_eq_cons hc, scanFrom, if_neg (by rw [hgap]; exact Bool.noConfusion)]
    split
    · next hnone =>
      rw [hmunch] at hnone
      exact absurd hnone (Option.some_ne_none _)
    · next heq =>
      obtain ⟨rfl, rfl, rfl⟩ := by simpa using hmunch.symm.trans heq
      rw [← Position.ofOffset_add_length hbegins.isPrefix, ih,
        Span.ofText_eq_between hbegins.isPrefix]
      rfl
  | @stray i c hc hgap hnone =>
    have hmunch := munch_eq_none_iff.2 hnone
    rw [drop_eq_cons hc] at hmunch
    rw [drop_eq_cons hc, scanFrom, if_neg (by rw [hgap]; exact Bool.noConfusion)]
    split
    · simp [Stray.ofOffset, hc]
    · next heq =>
      rw [hmunch] at heq
      exact absurd heq (Option.some_ne_none _).symm

/-- **There is only one reading.** -/
theorem Reads.unique {marks' : List Mark} {stop' : Option Nat} (h : Reads source i marks stop)
    (h' : Reads source i marks' stop') : marks = marks' ∧ stop = stop' := by
  have heq := Prod.mk.inj (h.scanFrom_eq.symm.trans h'.scanFrom_eq)
  refine ⟨List.map_injective_iff.2 (Mark.lexeme_injective source) heq.1, ?_⟩
  have hpos := congrArg (Option.map Stray.pos) heq.2
  simpa [Option.map_map, Function.comp_def, Stray.ofOffset] using hpos

theorem scan_eq (h : Reads source 0 marks stop) :
    scan source = (marks.map (Mark.lexeme source), stop.map (Stray.ofOffset source)) :=
  h.scanFrom_eq

/-- Where no token begins there is a character that is no gap. -/
theorem Reads.getElem?_stop (h : Reads source i marks stop) {p : Nat} (hp : stop = some p) :
    ∃ c, source[p]? = some c ∧ isGap c = false := by
  induction h with
  | done => exact absurd hp (Option.some_ne_none p).symm
  | gap _ _ _ ih => exact ih hp
  | token _ _ _ _ ih => exact ih hp
  | stray hc hgap =>
    obtain rfl := Option.some.inj hp
    exact ⟨_, hc, hgap⟩

/-! ### The first token -/

/-- A token and what follows it. -/
theorem drop_eq_append {j : Nat} {text : List Char} (h : text <+: source.drop i)
    (hj : j = i + text.length) : source.drop i = text ++ source.drop j := by
  rw [hj, ← List.drop_drop]
  exact (List.prefix_append_drop h)

/-- **The first token of a reading.** -/
theorem Reads.head {m : Mark} (h : Reads source i (m :: marks) stop) :
    i ≤ m.start ∧ m.start ≤ source.length ∧ IsGapRun (slice source i m.start) ∧
      m.stop = m.start + m.text.length ∧ Begins (source.drop m.start) m.kind m.text ∧
      Reads source m.stop marks stop := by
  generalize hrow : m :: marks = row at h
  induction h with
  | done => exact absurd hrow (List.cons_ne_nil _ _)
  | @gap i c row stop hc hgap _ ih =>
    obtain ⟨hi, hlen, hrun, hrest⟩ := ih hrow
    refine ⟨by omega, hlen, ?_, hrest⟩
    rw [slice_cons hc (by omega)]
    exact List.forall_mem_cons.2 ⟨hgap, hrun⟩
  | @token i c k text row stop hc _ hbegins h _ =>
    obtain ⟨rfl, rfl⟩ := List.cons.inj hrow
    obtain ⟨hi, -⟩ := List.getElem?_eq_some_iff.1 hc
    exact ⟨le_rfl, hi.le, isGapRun_slice_self, rfl, hbegins, h⟩
  | stray => exact absurd hrow (List.cons_ne_nil _ _)

/-- **Each token of a reading** is the one that the rules give where it begins. -/
theorem Reads.begins (h : Reads source i marks stop) :
    ∀ m ∈ marks, Begins (source.drop m.start) m.kind m.text := by
  induction h with
  | done | stray => exact List.forall_mem_nil _
  | gap _ _ _ ih => exact ih
  | token _ _ hbegins _ ih => exact List.forall_mem_cons.2 ⟨hbegins, ih⟩

/-- A run of gaps before a reading. -/
theorem Reads.of_gapRun {j : Nat} (hij : i ≤ j) (hj : j ≤ source.length)
    (hrun : IsGapRun (slice source i j)) (h : Reads source j marks stop) :
    Reads source i marks stop := by
  induction hn : j - i generalizing i with
  | zero =>
    obtain rfl : i = j := by omega
    exact h
  | succ n ih =>
    have hi : i < source.length := by omega
    have hc : source[i]? = some source[i] := List.getElem?_eq_getElem hi
    rw [slice_cons hc (by omega)] at hrun
    obtain ⟨hgap, hrest⟩ := List.forall_mem_cons.1 hrun
    exact .gap hc hgap (ih (by omega) hrest (by omega))

/-- A token before a reading. -/
theorem Reads.cons {k : LexemeKind} {text : List Char} (hi : i < source.length)
    (hbegins : Begins (source.drop i) k text) (h : Reads source (i + text.length) marks stop) :
    Reads source i (⟨k, text, i, i + text.length⟩ :: marks) stop := by
  have hc : source[i]? = some source[i] := List.getElem?_eq_getElem hi
  refine .token hc ?_ hbegins h
  -- the first character is one of the token
  obtain ⟨rest, hrest⟩ := hbegins.isPrefix
  obtain ⟨c, cs, rfl⟩ := List.exists_cons_of_ne_nil hbegins.ne_nil
  have hhead : c = source[i] := by
    rw [drop_eq_cons hc, List.cons_append] at hrest
    exact (List.cons.inj hrest).1
  rw [← hhead]
  exact hbegins.spells.isGap_head

end Reads

/-! ### What a reading covers -/

/-- **Marks that tile a piece of source**: one after another from one offset to another, with gaps
between them only. -/
inductive Tiles (source : List Char) : Nat → List Mark → Nat → Prop
  /-- A gap. -/
  | nil {i j : Nat} (hij : i ≤ j) (hj : j ≤ source.length) (hgap : IsGapRun (slice source i j)) :
      Tiles source i [] j
  /-- A gap, and a token. -/
  | cons {i j : Nat} {m : Mark} {marks : List Mark} (hi : i ≤ m.start)
      (hgap : IsGapRun (slice source i m.start)) (hspells : Spells m.kind m.text)
      (hpre : m.text <+: source.drop m.start) (hstop : m.stop = m.start + m.text.length)
      (h : Tiles source m.stop marks j) : Tiles source i (m :: marks) j

namespace Tiles

variable {source : List Char} {i j : Nat} {m : Mark} {marks : List Mark}

theorem stop_le (h : Tiles source i marks j) : j ≤ source.length := by
  induction h with
  | nil _ hj => exact hj
  | cons _ _ _ _ _ _ ih => exact ih

theorem le (h : Tiles source i marks j) : i ≤ j := by
  induction h with
  | nil hij => exact hij
  | cons => omega

/-- A gap before a tiling. -/
theorem gap {c : Char} (hc : source[i]? = some c) (hgap : isGap c = true)
    (h : Tiles source (i + 1) marks j) : Tiles source i marks j := by
  cases h with
  | nil hij hj hrun =>
    refine .nil (by omega) hj ?_
    rw [slice_cons hc (by omega)]
    exact List.forall_mem_cons.2 ⟨hgap, hrun⟩
  | cons hi hrun hspells hpre hstop h =>
    refine .cons (by omega) ?_ hspells hpre hstop h
    rw [slice_cons hc (by omega)]
    exact List.forall_mem_cons.2 ⟨hgap, hrun⟩

end Tiles

/-- **A reading tiles what it reads.** -/
theorem Reads.tiles {source : List Char} {i : Nat} {marks : List Mark} {stop : Option Nat}
    (h : Reads source i marks stop) : Tiles source i marks (stop.getD source.length) := by
  induction h with
  | done => exact .nil le_rfl le_rfl isGapRun_slice_self
  | gap hc hgap _ ih => exact ih.gap hc hgap
  | @token i c k text marks stop _ _ hbegins _ ih =>
    exact .cons le_rfl isGapRun_slice_self hbegins.spells hbegins.isPrefix rfl ih
  | @stray i c hc _ _ =>
    obtain ⟨hi, -⟩ := List.getElem?_eq_some_iff.1 hc
    exact .nil le_rfl hi.le isGapRun_slice_self

end TokenTemplate
