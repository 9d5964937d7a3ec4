import Mathlib
import TokenTemplate.Proofs.Token.Filling

/-!
# Nothing is lost

A token tree is the source that it was read from, up to the gaps: its pieces are pieces of the
source, in order and apart from each other, and what stands between them is white space
(`TokenTemplate.Tree.ofSource_lossless`). Each of its tokens, at any depth, carries the span that it
was cut out with, so two tokens touch on the page exactly when nothing stands between them in the
source.

Both readings of the tree are used: the flat one for the order of the pieces, `TokenTemplate.Tiles`,
and the nested one for the spans, `TokenTemplate.Fills`.
-/

namespace TokenTemplate

/-! ### All tokens of a tree -/

namespace Tree

mutual

/-- A token and all tokens inside it. -/
def parts : Tree → List Tree
  | leaf l => [leaf l]
  | group d children s => group d children s :: allParts children

/-- The tokens of a row, and all tokens inside them. -/
def allParts : List Tree → List Tree
  | [] => []
  | t :: ts => parts t ++ allParts ts

end

variable {t u : Tree} {ts : List Tree}

theorem mem_allParts_iff : u ∈ allParts ts ↔ ∃ t ∈ ts, u ∈ parts t := by
  induction ts with
  | nil => simp [allParts]
  | cons t ts ih => rw [allParts, List.mem_append, ih, List.exists_mem_cons_iff]

theorem self_mem_parts (t : Tree) : t ∈ parts t := by
  cases t with
  | leaf l => exact List.mem_singleton_self _
  | group d children s => exact List.mem_cons_self

theorem mem_allParts_of_mem (h : t ∈ ts) : t ∈ allParts ts :=
  mem_allParts_iff.2 ⟨t, h, self_mem_parts t⟩

/-- **A token is what its span cuts out**: its text, or the two delimiters of a group with its
children between them. -/
def IsCutOut (source : List Char) : Tree → Prop
  | leaf l => slice source l.span.startPos l.span.stopPos = l.text.toList ∧ l.text ≠ ""
  | group d children s =>
    s.startPos + 1 < s.stopPos ∧
      slice source s.startPos (s.startPos + 1) = [d.openChar] ∧
      slice source (s.stopPos - 1) s.stopPos = [d.closeChar] ∧
      ∀ t ∈ children, s.startPos + 1 ≤ t.span.startPos ∧ t.span.stopPos ≤ s.stopPos - 1

end Tree

section Spans

variable {source : List Char} {i j : Nat} {ts : List Tree}

theorem length_pos_of_spells {k : LexemeKind} {text : List Char} (h : Spells k text) :
    0 < text.length := by
  cases h <;> simp

/-- The tokens of a filling, at all depths, stand between its ends. -/
theorem Fills.mem_allParts_span (h : Fills source i ts j) :
    ∀ t ∈ Tree.allParts ts, i ≤ t.span.startPos ∧ t.span.stopPos ≤ j := by
  induction h with
  | nil => exact List.forall_mem_nil _
  | @leaf i j a b l ts hi _ _ _ hb hspan h ih =>
    have hle := h.le
    rw [Tree.allParts, Tree.parts, List.singleton_append]
    refine List.forall_mem_cons.2 ⟨?_, fun t ht => ?_⟩
    · rw [Tree.span, hspan]
      exact ⟨hi, hle⟩
    · have hin := ih t ht
      omega
  | @group i j a b d children ts span hi _ _ _ hspan hchildren h ihc ih =>
    have hle := h.le
    have hinner := hchildren.le
    rw [Tree.allParts, Tree.parts, List.cons_append]
    refine List.forall_mem_cons.2 ⟨?_, List.forall_mem_append.2 ⟨fun t ht => ?_, fun t ht => ?_⟩⟩
    · rw [Tree.span, hspan]
      exact ⟨hi, hle⟩
    · have hin := ihc t ht
      omega
    · have hin := ih t ht
      omega

/-- **Every token of a filling**, at any depth, is what its span cuts out. -/
theorem Fills.mem_allParts (h : Fills source i ts j) :
    ∀ t ∈ Tree.allParts ts, t.span.LiesIn source ∧ t.IsCutOut source ∧
      t.span.startPos < t.span.stopPos := by
  induction h with
  | nil => exact List.forall_mem_nil _
  | @leaf i j a b l ts hi _ hspells hpre hb hspan h ih =>
    have hlen := length_pos_of_spells hspells
    have hlast := h.le.trans h.stop_le
    rw [Tree.allParts, Tree.parts, List.singleton_append]
    refine List.forall_mem_cons.2 ⟨?_, ih⟩
    rw [Tree.span, Tree.IsCutOut, hspan]
    refine ⟨Span.liesIn_between (by omega) hlast, ⟨?_, ?_⟩, ?_⟩
    · subst hb
      exact slice_of_isPrefix hpre
    · rintro hempty
      rw [hempty] at hlen
      exact absurd hlen (lt_irrefl 0)
    · change a < b
      omega
  | @group i j a b d children ts span hi _ hopen hclose hspan hchildren h ihc ih =>
    have hinner := hchildren.le
    have hlast := h.le.trans h.stop_le
    rw [Tree.allParts, Tree.parts, List.cons_append]
    refine List.forall_mem_cons.2 ⟨?_, List.forall_mem_append.2 ⟨ihc, ih⟩⟩
    rw [Tree.span, Tree.IsCutOut, hspan]
    refine ⟨Span.liesIn_between (by omega) hlast, ⟨?_, ?_, ?_, ?_⟩, ?_⟩
    · change a + 1 < b + 1
      omega
    · exact slice_succ hopen
    · exact slice_succ hclose
    · exact fun t ht => hchildren.mem_allParts_span t (Tree.mem_allParts_of_mem ht)
    · change a < b + 1
      omega

end Spans

/-! ### The flat reading -/

namespace Tiles

variable {source : List Char} {i j : Nat} {marks : List Mark}

/-- A mark of a tiling is a piece of the source. -/
theorem mem (h : Tiles source i marks j) :
    ∀ m ∈ marks, i ≤ m.start ∧ m.start < m.stop ∧ m.stop ≤ j ∧ m.stop = m.start + m.text.length ∧
      slice source m.start m.stop = m.text := by
  induction h with
  | nil => exact List.forall_mem_nil _
  | @cons i j m marks hi _ hspells hpre hstop h ih =>
    have hlen := length_pos_of_spells hspells
    have hle := h.le
    refine List.forall_mem_cons.2 ⟨⟨hi, by omega, hle, hstop, ?_⟩, fun n hn => ?_⟩
    · rw [hstop]
      exact slice_of_isPrefix hpre
    · obtain ⟨h₁, h₂, h₃, h₄, h₅⟩ := ih n hn
      exact ⟨by omega, h₂, h₃, h₄, h₅⟩

/-- A mark of a tiling is spelt as its kind is. -/
theorem spells (h : Tiles source i marks j) : ∀ m ∈ marks, Spells m.kind m.text := by
  induction h with
  | nil => exact List.forall_mem_nil _
  | cons _ _ hspells _ _ _ ih => exact List.forall_mem_cons.2 ⟨hspells, ih⟩

/-- A mark of a tiling stands where it is said to. -/
theorem isPrefix (h : Tiles source i marks j) : ∀ m ∈ marks, m.text <+: source.drop m.start := by
  induction h with
  | nil => exact List.forall_mem_nil _
  | cons _ _ _ hpre _ _ ih => exact List.forall_mem_cons.2 ⟨hpre, ih⟩

/-- The marks of a tiling are in order. -/
theorem pairwise (h : Tiles source i marks j) : marks.Pairwise fun m n => m.stop ≤ n.start := by
  induction h with
  | nil => exact List.Pairwise.nil
  | cons _ _ _ _ _ h ih => exact List.Pairwise.cons (fun n hn => (h.mem n hn).1) ih

/-- **What a tiling leaves out is white space.** -/
theorem isGap_of_outside (h : Tiles source i marks j) {n : Nat} {c : Char}
    (hc : source[n]? = some c) (hi : i ≤ n) (hj : n < j)
    (hout : ∀ m ∈ marks, n < m.start ∨ m.stop ≤ n) : isGap c = true := by
  induction h with
  | nil _ _ hgap => exact hgap.isGap_of_slice hc hi hj
  | @cons i j m marks _ hgap _ _ _ h ih =>
    -- it stands in the gap before the first mark, or after this mark
    rcases hout m List.mem_cons_self with hlt | hge
    · exact hgap.isGap_of_slice hc hi hlt
    · exact ih hge hj fun m' hm' => hout m' (List.mem_cons_of_mem _ hm')

end Tiles

/-! ### The tree of a source -/

/-- **Reading a source loses nothing.** The pieces of the tree are pieces of the source, in order
and apart; every other character is a space, a tab, a form feed, a carriage return or a line feed.
Every token at any depth has a span with the places of its offsets and is what this span cuts out,
and two tokens touch exactly when one begins at the offset where the other ends. -/
theorem Tree.ofSource_lossless {settings : Settings} {source : List Char} {ts : List Tree}
    (h : Tree.ofSource settings source = .ok ts) :
    (∀ p ∈ allPieces ts, p.1 ≠ "" ∧ p.1.toList = slice source p.2 (p.2 + p.1.length)) ∧
      ((allPieces ts).Pairwise fun p q => p.2 + p.1.length ≤ q.2) ∧
      (∀ n c, source[n]? = some c → (∀ p ∈ allPieces ts, n < p.2 ∨ p.2 + p.1.length ≤ n) →
        c ∈ [' ', '\t', '\x0c', '\r', '\n']) ∧
      (∀ t ∈ allParts ts, t.span.LiesIn source ∧ t.IsCutOut source) ∧
      ∀ t ∈ allParts ts, ∀ u ∈ allParts ts,
        (t.touches u = true ↔ t.span.stopPos = u.span.startPos) := by
  obtain ⟨hfills, hreads, -⟩ := fills_of_ofSource h
  have htiles := hreads.tiles
  have hparts := hfills.mem_allParts
  have hend {m : Mark} (hm : m ∈ allMarks ts) :
      (pieceOf m).2 + (pieceOf m).1.length = m.stop := by
    obtain ⟨-, -, -, hstop, -⟩ := htiles.mem m hm
    rw [hstop, pieceOf, String.length_ofList]
  -- the marks of the tree tile the source; pieces are marks, and parts have their places
  refine ⟨?_, ?_, ?_, fun t ht => ⟨(hparts t ht).1, (hparts t ht).2.1⟩, ?_⟩
  · rw [allPieces_eq_map]
    refine List.forall_mem_map.2 fun m hm => ?_
    obtain ⟨-, hlt, -, hstop, hslice⟩ := htiles.mem m hm
    rw [hend hm]
    refine ⟨fun hempty => ?_, ?_⟩
    · have hnil : m.text = [] := by simpa [pieceOf] using hempty
      rw [hnil, List.length_nil] at hstop
      omega
    · rw [pieceOf, String.toList_ofList]
      exact hslice.symm
  · rw [allPieces_eq_map, List.pairwise_map]
    refine htiles.pairwise.imp_of_mem fun hm _ hle => ?_
    rw [hend hm]
    exact hle
  · intro n c hc hout
    rw [allPieces_eq_map] at hout
    obtain ⟨hn, -⟩ := List.getElem?_eq_some_iff.1 hc
    refine isGap_iff.1 (htiles.isGap_of_outside hc (Nat.zero_le n) hn fun m hm => ?_)
    have hpiece := hout _ (List.mem_map_of_mem hm)
    rw [hend hm] at hpiece
    exact hpiece
  · intro t ht u hu
    obtain ⟨hlt, -, -⟩ := hparts t ht
    obtain ⟨hlu, -, -⟩ := hparts u hu
    rw [touches, beq_iff_eq, hlt.stop_eq, hlu.start_eq]
    exact Position.ofOffset_inj hlt.stopPos_le (hlu.startPos_le.trans hlu.stopPos_le)

/-- A word, a group and a character literal on the next line. -/
theorem Tree.ofSource_lossless_two_lines :
    ∃ ts, Tree.ofSource {} "f \x7bx\x7d\n\t'c'".toList = .ok ts ∧
      allPieces ts = [("f", 0), ("\x7b", 2), ("x", 3), ("\x7d", 4), ("'c'", 7)] ∧
      (∀ p ∈ allPieces ts, p.1.toList = slice "f \x7bx\x7d\n\t'c'".toList p.2 (p.2 + p.1.length)) ∧
      ∀ t ∈ allParts ts, t.span.LiesIn "f \x7bx\x7d\n\t'c'".toList := by
  have h : Tree.ofSource {} "f \x7bx\x7d\n\t'c'".toList =
      .ok [.leaf ⟨.name, "f", ⟨⟨1, 1⟩, ⟨1, 2⟩, 0, 1⟩⟩,
        .group .brace [.leaf ⟨.name, "x", ⟨⟨1, 4⟩, ⟨1, 5⟩, 3, 4⟩⟩] ⟨⟨1, 3⟩, ⟨1, 6⟩, 2, 5⟩,
        .leaf ⟨.char, "'c'", ⟨⟨2, 2⟩, ⟨2, 5⟩, 7, 10⟩⟩] := by
    cbv
  obtain ⟨hpieces, -, -, hparts, -⟩ := Tree.ofSource_lossless h
  exact ⟨_, h, by cbv, fun p hp => (hpieces p hp).2, fun t ht => (hparts t ht).1⟩

end TokenTemplate
