import TokenTemplate.Proofs.Token.Lossless
import TokenTemplate.Proofs.Token.Shape

/-!
# Rows of tokens after a change of white space

Two texts may have the same tokens, and between them gaps that come to the same. Such a pair is a
`TokenTemplate.Respacing`, together with the gaps that have been left as they were. Its rows of
tokens, `TokenTemplate.Respacing.Row`, are related from an offset of either text to another one:
token by token they have the same kinds, texts and groups, and the gap before each token comes to
the same.

What is read off such a pair is the same on both sides as long as it concerns the shape of the
tokens (`TokenTemplate.Respacing.Row.allShapes_eq`), whether they touch
(`TokenTemplate.Respacing.Token.touches_eq`), or text without any changed gap in it
(`TokenTemplate.Respacing.Row.slice_eq`).
-/

namespace TokenTemplate

/-! ### Where tokens begin and end -/

/-- **Tokens run** from the offset at which the first of them begins to that at which the last one
ends. -/
def Runs (source : List Char) (ts : List Tree) (a k : Nat) : Prop :=
  ∃ t u b p, ts.head? = some t ∧ ts.getLast? = some u ∧ t.span = .between source a b ∧
    u.span = .between source p k ∧ a ≤ p ∧ b ≤ k ∧ p ≤ k ∧ k ≤ source.length

namespace Runs

variable {source : List Char} {t : Tree} {ts us : List Tree} {a k c m : Nat}

theorem single (hspan : t.span = .between source a k) (hle : a ≤ k) (hk : k ≤ source.length) :
    Runs source [t] a k :=
  ⟨t, t, k, a, rfl, rfl, hspan, hspan, le_rfl, le_rfl, hle, hk⟩

theorem append (h : Runs source ts a k) (h' : Runs source us c m) (hkc : k ≤ c) :
    Runs source (ts ++ us) a m := by
  obtain ⟨t, -, b, p, ht, -, hspan, -, hap, hbk, hpk, -⟩ := h
  obtain ⟨-, u, d, q, -, hu, -, hspan', hcq, -, hqm, hm⟩ := h'
  refine ⟨t, u, b, q, ?_, ?_, hspan, hspan', by omega, by omega, hqm, hm⟩
  · rw [List.head?_append, ht, Option.some_or]
  · rw [List.getLast?_append, hu, Option.some_or]

theorem spanOf_eq (h : Runs source ts a k) (fallback : Span) :
    Region.spanOf ts fallback = .between source a k := by
  obtain ⟨t, u, b, p, ht, hu, hspan, hspan', hap, hbk, hpk, hk⟩ := h
  rw [Region.spanOf, ht, hu]
  simp only [hspan, hspan']
  exact Span.join_between_of_le hap hbk hpk hk

theorem textOf_eq {r : Region} (h : Runs source ts a k) (hsource : r.source = source) :
    r.textOf ts = String.ofList (slice source a k) := by
  obtain ⟨t, u, b, p, ht, hu, hspan, hspan', -⟩ := h
  rw [Region.textOf, ht, hu, hsource]
  simp only [hspan, hspan']
  rfl

end Runs

theorem Tree.span_leaf (l : Leaf) : (leaf l).span = l.span := rfl

/-! ### The gaps of a row -/

/-- The marks of a group stand around those of its children, before those that follow. -/
theorem Tree.allMarks_group_append (d : Delimiter) (children ts : List Tree) (s : Span)
    (ms : List Mark) :
    allMarks (.group d children s :: ts) ++ ms =
      ⟨.opening d, [d.openChar], s.startPos, s.startPos + 1⟩ ::
        (allMarks children ++ ⟨.closing d, [d.closeChar], s.stopPos - 1, s.stopPos⟩ ::
          (allMarks ts ++ ms)) := by
  rw [allMarks, marks, List.cons_append, List.cons_append, List.append_assoc, List.append_assoc]
  rfl

/-- The end of the last of some marks, or an offset before them if there are none. -/
def lastStop (p : Nat) (ms : List Mark) : Nat :=
  ms.foldl (fun _ m => m.stop) p

theorem gapsFrom_concat (p : Nat) (ms : List Mark) (m : Mark) :
    gapsFrom (some p) (ms ++ [m]) = gapsFrom (some p) ms ++ [(lastStop p ms, m.start)] := by
  induction ms generalizing p with
  | nil => rfl
  | cons n ms ih =>
    rw [List.cons_append, gapsFrom, gapsFrom, ih]
    rfl

/-- The gap before the first token, and those between the tokens. -/
theorem gapsFrom_allMarks_cons (p : Nat) (t : Tree) (ts : List Tree) :
    gapsFrom (some p) (Tree.allMarks (t :: ts)) = (p, t.span.startPos) :: Tree.gaps (t :: ts) := by
  cases t <;> rfl

namespace Fills

variable {source : List Char} {i j : Nat} {t : Tree} {ts : List Tree}

/-- Tokens fill a piece of source up to where the last of them ends. -/
theorem to_lastStop (h : Fills source i ts j) :
    Fills source i ts (lastStop i (Tree.allMarks ts)) := by
  induction h with
  | nil hij hj _ => exact .nil le_rfl (hij.trans hj) isGapRun_slice_self
  | leaf hi hgap hspells hpre hb hspan _ ih =>
    rw [Tree.allMarks, Tree.marks, lastStop, List.foldl_append, List.foldl_cons, List.foldl_nil,
      hspan]
    exact .leaf hi hgap hspells hpre hb hspan ih
  | group hi hgap hopen hclose hspan hchildren _ _ ih =>
    rw [Tree.allMarks, Tree.marks, lastStop, List.foldl_append, List.foldl_cons, List.foldl_append,
      List.foldl_cons, List.foldl_nil]
    subst hspan
    exact .group hi hgap hopen hclose rfl hchildren ih

/-- Tokens fill a piece of source from where the first of them begins. -/
theorem from_head (h : Fills source i (t :: ts) j) :
    Fills source t.span.startPos (t :: ts) j := by
  cases h with
  | leaf _ _ hspells hpre hb hspan h =>
    rw [Tree.span, hspan]
    exact .leaf le_rfl isGapRun_slice_self hspells hpre hb hspan h
  | group _ _ hopen hclose hspan hchildren h =>
    subst hspan
    exact .group le_rfl isGapRun_slice_self hopen hclose rfl hchildren h

end Fills

/-! ### Changed texts -/

/-- **A text whose white space has been changed**, and which of its gaps have been left as they
were. -/
structure Respacing where
  /-- The text. -/
  source : List Char
  /-- The changed text. -/
  source' : List Char
  /-- Whether the gap of the text between two offsets has been left as it was. -/
  kept : Nat → Nat → Prop

namespace Respacing

variable (ρ : Respacing)

/-- A gap, and what it has been changed to. -/
structure Gap (i i' j j' : Nat) : Prop where
  /-- The gap has two ends. -/
  le : i ≤ j
  /-- So has the changed gap. -/
  le' : i' ≤ j'
  /-- Between them is white space. -/
  isGapRun : IsGapRun (slice ρ.source i j)
  /-- So there is after the change. -/
  isGapRun' : IsGapRun (slice ρ.source' i' j')
  /-- Both gaps come to the same. -/
  ofGap?_eq :
    Whitespace.ofGap? (slice ρ.source' i' j') = Whitespace.ofGap? (slice ρ.source i j)
  /-- They are the same if the gap has been left as it was. -/
  slice_eq : ρ.kept i j → slice ρ.source' i' j' = slice ρ.source i j

/-- **A row of tokens in both texts**, from one offset to another, with gaps that come to the
same. -/
inductive Row : Nat → Nat → List Tree → List Tree → Nat → Nat → Prop
  /-- A gap. -/
  | nil {i i' j j' : Nat} (hgap : ρ.Gap i i' j j') (hj : j ≤ ρ.source.length)
      (hj' : j' ≤ ρ.source'.length) : Row i i' [] [] j j'
  /-- A gap, and a token without parts. -/
  | leaf {i i' j j' a a' b b' : Nat} {k : LeafKind} {text : String} {span span' : Span}
      {ts ts' : List Tree} (hgap : ρ.Gap i i' a a') (hspells : Spells (.leaf k) text.toList)
      (hpre : text.toList <+: ρ.source.drop a) (hpre' : text.toList <+: ρ.source'.drop a')
      (hb : b = a + text.toList.length) (hb' : b' = a' + text.toList.length)
      (hspan : span = .between ρ.source a b) (hspan' : span' = .between ρ.source' a' b')
      (h : Row b b' ts ts' j j') :
      Row i i' (.leaf ⟨k, text, span⟩ :: ts) (.leaf ⟨k, text, span'⟩ :: ts') j j'
  /-- A gap, and a group. -/
  | group {i i' j j' a a' b b' : Nat} {d : Delimiter} {children children' ts ts' : List Tree}
      {span span' : Span} (hgap : ρ.Gap i i' a a') (hopen : ρ.source[a]? = some d.openChar)
      (hopen' : ρ.source'[a']? = some d.openChar) (hclose : ρ.source[b]? = some d.closeChar)
      (hclose' : ρ.source'[b']? = some d.closeChar) (hspan : span = .between ρ.source a (b + 1))
      (hspan' : span' = .between ρ.source' a' (b' + 1))
      (hchildren : Row (a + 1) (a' + 1) children children' b b')
      (h : Row (b + 1) (b' + 1) ts ts' j j') :
      Row i i' (.group d children span :: ts) (.group d children' span' :: ts') j j'

/-- **A token in both texts**, from one offset to another. -/
inductive Token : Nat → Nat → Tree → Tree → Nat → Nat → Prop
  /-- A token without parts. -/
  | leaf {a a' b b' : Nat} {k : LeafKind} {text : String} {span span' : Span}
      (hspells : Spells (.leaf k) text.toList) (hpre : text.toList <+: ρ.source.drop a)
      (hpre' : text.toList <+: ρ.source'.drop a') (hb : b = a + text.toList.length)
      (hb' : b' = a' + text.toList.length) (hspan : span = .between ρ.source a b)
      (hspan' : span' = .between ρ.source' a' b') :
      Token a a' (.leaf ⟨k, text, span⟩) (.leaf ⟨k, text, span'⟩) b b'
  /-- A group. -/
  | group {a a' b b' : Nat} {d : Delimiter} {children children' : List Tree} {span span' : Span}
      (hopen : ρ.source[a]? = some d.openChar) (hopen' : ρ.source'[a']? = some d.openChar)
      (hclose : ρ.source[b]? = some d.closeChar) (hclose' : ρ.source'[b']? = some d.closeChar)
      (hspan : span = .between ρ.source a (b + 1)) (hspan' : span' = .between ρ.source' a' (b' + 1))
      (hchildren : ρ.Row (a + 1) (a' + 1) children children' b b') :
      Token a a' (.group d children span) (.group d children' span') (b + 1) (b' + 1)

variable {ρ} {i i' j j' k k' a a' b b' c c' : Nat} {t t' u u' : Tree}
  {ts ts' us us' row : List Tree}

/-! ### Gaps -/

theorem Gap.refl (i i' : Nat) : ρ.Gap i i' i i' := by
  have hempty (source : List Char) (n : Nat) : slice source n n = [] := slice_self
  refine ⟨le_rfl, le_rfl, isGapRun_slice_self, isGapRun_slice_self, ?_, fun _ => ?_⟩
  · rw [hempty, hempty]
  · rw [hempty, hempty]

/-- A gap is empty if what it has been changed to is. -/
theorem Gap.eq_iff (h : ρ.Gap i i' j j') (hj : j ≤ ρ.source.length)
    (hj' : j' ≤ ρ.source'.length) : i' = j' ↔ i = j := by
  have hle := h.le
  have hle' := h.le'
  have hempty {source : List Char} {m n : Nat} (hmn : m ≤ n) (hn : n ≤ source.length) :
      Whitespace.ofGap? (slice source m n) = none ↔ m = n := by
    rw [Whitespace.ofGap?_eq_none_iff, ← List.length_eq_zero_iff, length_slice hn]
    omega
  rw [← hempty hle hj, ← hempty hle' hj', h.ofGap?_eq]

/-! ### Tokens one by one -/

theorem Row.cons (hgap : ρ.Gap i i' a a') (ht : ρ.Token a a' t t' b b')
    (h : ρ.Row b b' ts ts' j j') : ρ.Row i i' (t :: ts) (t' :: ts') j j' := by
  cases ht with
  | leaf hspells hpre hpre' hb hb' hspan hspan' =>
    exact .leaf hgap hspells hpre hpre' hb hb' hspan hspan' h
  | group hopen hopen' hclose hclose' hspan hspan' hchildren =>
    exact .group hgap hopen hopen' hclose hclose' hspan hspan' hchildren h

/-- **The first token of a row.** -/
theorem Row.head (h : ρ.Row i i' (t :: ts) row j j') :
    ∃ t' ts' a a' b b', row = t' :: ts' ∧ ρ.Gap i i' a a' ∧ ρ.Token a a' t t' b b' ∧
      ρ.Row b b' ts ts' j j' := by
  cases h with
  | leaf hgap hspells hpre hpre' hb hb' hspan hspan' h =>
    exact ⟨_, _, _, _, _, _, rfl, hgap, .leaf hspells hpre hpre' hb hb' hspan hspan', h⟩
  | group hgap hopen hopen' hclose hclose' hspan hspan' hchildren h =>
    exact ⟨_, _, _, _, _, _, rfl, hgap,
      .group hopen hopen' hclose hclose' hspan hspan' hchildren, h⟩

theorem Row.nil_inv (h : ρ.Row i i' [] row j j') : row = [] ∧ ρ.Gap i i' j j' := by
  cases h with
  | nil hgap => exact ⟨rfl, hgap⟩

/-! ### Either text -/

/-- A row fills its text. -/
theorem Row.fills (h : ρ.Row i i' ts ts' j j') : Fills ρ.source i ts j := by
  induction h with
  | nil hgap hj _ => exact .nil hgap.le hj hgap.isGapRun
  | leaf hgap hspells hpre _ hb _ hspan _ _ ih =>
    exact .leaf hgap.le hgap.isGapRun hspells hpre hb hspan ih
  | group hgap hopen _ hclose _ hspan _ _ _ ihc ih =>
    exact .group hgap.le hgap.isGapRun hopen hclose hspan ihc ih

theorem Row.fills' (h : ρ.Row i i' ts ts' j j') : Fills ρ.source' i' ts' j' := by
  induction h with
  | nil hgap _ hj' => exact .nil hgap.le' hj' hgap.isGapRun'
  | leaf hgap hspells _ hpre' _ hb' _ hspan' _ ih =>
    exact .leaf hgap.le' hgap.isGapRun' hspells hpre' hb' hspan' ih
  | group hgap _ hopen' _ hclose' _ hspan' _ _ ihc ih =>
    exact .group hgap.le' hgap.isGapRun' hopen' hclose' hspan' ihc ih

/-- A row begins inside of its texts. -/
theorem Row.start_le (h : ρ.Row i i' ts ts' j j') :
    i ≤ ρ.source.length ∧ i' ≤ ρ.source'.length :=
  ⟨h.fills.le.trans h.fills.stop_le, h.fills'.le.trans h.fills'.stop_le⟩

theorem Token.span_eq (h : ρ.Token a a' t t' b b') :
    t.span = .between ρ.source a b ∧ t'.span = .between ρ.source' a' b' := by
  cases h with
  | leaf _ _ _ _ _ hspan hspan' => exact ⟨hspan, hspan'⟩
  | group _ _ _ _ hspan hspan' _ => exact ⟨hspan, hspan'⟩

/-- **A token without parts in both texts.** -/
theorem Token.leaf_inv {l : Leaf} (h : ρ.Token a a' (.leaf l) u b b') :
    ∃ l', u = .leaf l' ∧ l'.kind = l.kind ∧ l'.text = l.text := by
  cases h with
  | leaf => exact ⟨_, rfl, rfl, rfl⟩

/-- **A group in both texts**, with its delimiters and what stands between them. -/
theorem Token.group_inv {d : Delimiter} {span : Span} (h : ρ.Token a a' (.group d ts span) u b b') :
    ∃ us span' c c', u = .group d us span' ∧ b = c + 1 ∧ b' = c' + 1 ∧
      span = .between ρ.source a (c + 1) ∧ span' = .between ρ.source' a' (c' + 1) ∧
      ρ.source[a]? = some d.openChar ∧ ρ.source'[a']? = some d.openChar ∧
      ρ.source[c]? = some d.closeChar ∧ ρ.source'[c']? = some d.closeChar ∧
      ρ.Row (a + 1) (a' + 1) ts us c c' := by
  cases h with
  | group hopen hopen' hclose hclose' hspan hspan' hchildren =>
    exact ⟨_, _, _, _, rfl, rfl, rfl, hspan, hspan', hopen, hopen', hclose, hclose', hchildren⟩

theorem Token.lt (h : ρ.Token a a' t t' b b') : a < b ∧ a' < b' := by
  cases h with
  | leaf hspells _ _ hb hb' _ _ =>
    have hpos := length_pos_of_spells hspells
    omega
  | group _ _ _ _ _ _ hchildren =>
    have hle := hchildren.fills.le
    have hle' := hchildren.fills'.le
    omega

/-! ### What is the same -/

theorem Row.allShapes_eq (h : ρ.Row i i' ts ts' j j') :
    Tree.allShapes ts' = Tree.allShapes ts := by
  induction h with
  | nil => rfl
  | leaf _ _ _ _ _ _ _ _ _ ih => rw [Tree.allShapes, Tree.allShapes, ih]; rfl
  | group _ _ _ _ _ _ _ _ _ ihc ih =>
    rw [Tree.allShapes, Tree.allShapes, ih, Tree.shape, Tree.shape, ihc]

theorem Token.shape_eq (h : ρ.Token a a' t t' b b') : t'.shape = t.shape := by
  cases h with
  | leaf => rfl
  | group _ _ _ _ _ _ hchildren => rw [Tree.shape, Tree.shape, hchildren.allShapes_eq]

theorem Row.length_eq (h : ρ.Row i i' ts ts' j j') : ts'.length = ts.length := by
  have hshapes := congrArg List.length h.allShapes_eq
  rwa [Tree.allShapes_eq_map, Tree.allShapes_eq_map, List.length_map, List.length_map] at hshapes

theorem Row.ne_nil (h : ρ.Row i i' ts ts' j j') (hne : ts ≠ []) : ts' ≠ [] := by
  rw [ne_eq, ← List.length_eq_zero_iff] at hne ⊢
  rwa [h.length_eq]

/-- **Tokens touch** in both texts or in none. -/
theorem Token.touches_eq (ht : ρ.Token a a' t t' b b') (hgap : ρ.Gap b b' c c')
    (hu : ρ.Token c c' u u' k k') (hrow : ρ.Row k k' ts ts' j j') :
    t'.touches u' = t.touches u := by
  obtain ⟨hk, hk'⟩ := hrow.start_le
  obtain ⟨hspan, hspan'⟩ := ht.span_eq
  obtain ⟨huspan, huspan'⟩ := hu.span_eq
  obtain ⟨hlt, hlt'⟩ := hu.lt
  have hle := hgap.le
  have hle' := hgap.le'
  have htouches {source : List Char} {x y : Tree} {m n p q : Nat}
      (hx : x.span = .between source m n) (hy : y.span = .between source p q)
      (hn : n ≤ source.length) (hp : p ≤ source.length) : x.touches y = decide (n = p) := by
    rw [Tree.touches, hx, hy]
    exact (Bool.beq_eq_decide_eq _ _).trans
      (decide_eq_decide.2 (Position.ofOffset_inj hn hp))
  rw [htouches hspan huspan (by omega) (by omega), htouches hspan' huspan' (by omega) (by omega)]
  exact decide_eq_decide.2 (hgap.eq_iff (by omega) (by omega))

/-- The cursor from one token to a later one. -/
theorem Token.cursor_join (ht : ρ.Token a a' t t' b b') (hu : ρ.Token c c' u u' k k') (hbc : b ≤ c)
    (hbc' : b' ≤ c') (hrow : ρ.Row k k' ts ts' j j') :
    t.span.cursor.join u.span.cursor = (Span.between ρ.source a k).cursor ∧
      t'.span.cursor.join u'.span.cursor = (Span.between ρ.source' a' k').cursor := by
  obtain ⟨hk, hk'⟩ := hrow.start_le
  obtain ⟨hspan, hspan'⟩ := ht.span_eq
  obtain ⟨huspan, huspan'⟩ := hu.span_eq
  have hlt := ht.lt
  have hult := hu.lt
  rw [hspan, huspan, hspan', huspan']
  exact ⟨Span.cursor_join_between (by omega) (by omega) (by omega) hk,
    Span.cursor_join_between (by omega) (by omega) (by omega) hk'⟩

/-- Pieces that meet are the same if their parts are. -/
theorem slice_eq_of_parts (hi : i ≤ k) (hk : k ≤ j) (hi' : i' ≤ k') (hk' : k' ≤ j')
    (hleft : slice ρ.source' i' k' = slice ρ.source i k)
    (hright : slice ρ.source' k' j' = slice ρ.source k j) :
    slice ρ.source' i' j' = slice ρ.source i j := by
  rw [← slice_append hi hk, ← slice_append hi' hk', hleft, hright]

/-- **A piece of text without changed gaps** is the same. -/
theorem Row.slice_eq (h : ρ.Row i i' ts ts' j j')
    (hkept : ∀ p q, i ≤ p → q ≤ j → ρ.kept p q) :
    slice ρ.source' i' j' = slice ρ.source i j := by
  induction h with
  | nil hgap _ _ => exact hgap.slice_eq (hkept _ _ le_rfl le_rfl)
  | @leaf i i' j j' a a' b b' k text span span' ts ts' hgap _ hpre hpre' hb hb' _ _ h ih =>
    have hle := h.fills.le
    have hle' := h.fills'.le
    have hi := hgap.le
    have hi' := hgap.le'
    have htext : slice ρ.source' a' b' = slice ρ.source a b := by
      rw [hb, hb', slice_of_isPrefix hpre, slice_of_isPrefix hpre']
    have hrest := ih fun p q hp hq => hkept p q (by omega) hq
    have hfirst := hgap.slice_eq (hkept i a le_rfl (by omega))
    exact slice_eq_of_parts (by omega) hle (by omega) hle'
      (slice_eq_of_parts hi (by omega) hi' (by omega) hfirst htext) hrest
  | @group i i' j j' a a' b b' d children children' ts ts' span span' hgap hopen hopen' hclose
      hclose' _ _ hchildren h ihc ih =>
    have hle := h.fills.le
    have hle' := h.fills'.le
    have hin := hchildren.fills.le
    have hin' := hchildren.fills'.le
    have hi := hgap.le
    have hi' := hgap.le'
    have hfirst := hgap.slice_eq (hkept i a le_rfl (by omega))
    have hopened : slice ρ.source' a' (a' + 1) = slice ρ.source a (a + 1) := by
      rw [slice_succ hopen, slice_succ hopen']
    have hinside := ihc fun p q hp hq => hkept p q (by omega) (by omega)
    have hclosed : slice ρ.source' b' (b' + 1) = slice ρ.source b (b + 1) := by
      rw [slice_succ hclose, slice_succ hclose']
    have hrest := ih fun p q hp hq => hkept p q (by omega) hq
    -- the gap, the group from its first delimiter to its second, and the rest of the row
    have hgroup : slice ρ.source' a' (b' + 1) = slice ρ.source a (b + 1) :=
      slice_eq_of_parts (by omega) (by omega) (by omega) (by omega)
        (slice_eq_of_parts (by omega) hin (by omega) hin' hopened hinside) hclosed
    exact slice_eq_of_parts (by omega) hle (by omega) hle'
      (slice_eq_of_parts hi (by omega) hi' (by omega) hfirst hgroup) hrest

/-! ### Parts of a row -/

/-- **A row that is cut** where one of its texts is cut. A part that is not empty is a row by itself
from its first token to its last. -/
theorem Row.append (h : ρ.Row i i' (ts ++ us) row j j') :
    ∃ ts' us' k k', row = ts' ++ us' ∧ ρ.Row i i' ts ts' k k' ∧ ρ.Row k k' us us' j j' ∧
      (ts ≠ [] → ∃ a a', i ≤ a ∧ i' ≤ a' ∧ ρ.Row a a' ts ts' k k' ∧ Runs ρ.source ts a k ∧
        Runs ρ.source' ts' a' k') := by
  induction ts generalizing i i' row with
  | nil =>
    obtain ⟨hi, hi'⟩ := h.start_le
    exact ⟨[], row, i, i', rfl, .nil (.refl i i') hi hi', h, fun hne => absurd rfl hne⟩
  | cons t ts ih =>
    obtain ⟨t', row', a, a', b, b', rfl, hgap, ht, hrest⟩ := Row.head h
    obtain ⟨hspan, hspan'⟩ := ht.span_eq
    obtain ⟨hb, hb'⟩ := hrest.start_le
    have hfirst := Runs.single hspan ht.lt.1.le hb
    have hfirst' := Runs.single hspan' ht.lt.2.le hb'
    cases ts with
    | nil =>
      -- the first token is the last one, and the rest is cut where it ends
      have hempty : ρ.Row b b' [] [] b b' := .nil (.refl b b') hb hb'
      exact ⟨[t'], row', b, b', rfl, .cons hgap ht hempty, hrest, fun _ =>
        ⟨a, a', hgap.le, hgap.le', .cons (.refl a a') ht hempty, hfirst, hfirst'⟩⟩
    | cons u ts =>
      obtain ⟨ts', us', k, k', rfl, hts, hus, hruns⟩ := ih hrest
      obtain ⟨c, c', hc, hc', -, hruns, hruns'⟩ := hruns (List.cons_ne_nil u ts)
      exact ⟨t' :: ts', us', k, k', rfl, .cons hgap ht hts, hus, fun _ =>
        ⟨a, a', hgap.le, hgap.le', .cons (.refl a a') ht hts, hfirst.append hruns hc,
          hfirst'.append hruns' hc'⟩⟩

/-- A row that is not empty, from its first token to its last. -/
theorem Row.exists_runs (h : ρ.Row i i' ts ts' j j') (hne : ts ≠ []) :
    ∃ a a' k k', i ≤ a ∧ k ≤ j ∧ ρ.Row a a' ts ts' k k' ∧ Runs ρ.source ts a k ∧
      Runs ρ.source' ts' a' k' := by
  rw [← List.append_nil ts] at h
  obtain ⟨us, vs, k, k', rfl, -, hvs, hruns⟩ := h.append
  obtain ⟨rfl, -⟩ := hvs.nil_inv
  obtain ⟨a, a', hi, -, hrow, hruns, hruns'⟩ := hruns hne
  rw [List.append_nil]
  exact ⟨a, a', k, k', hi, hvs.fills.le, hrow, hruns, hruns'⟩

/-! ### Texts with the same tokens -/

/-- Gaps that come to the same, each by its offsets. -/
def Agree (ρ : Respacing) (g g' : Nat × Nat) : Prop :=
  Whitespace.ofGap? (slice ρ.source' g'.1 g'.2) = Whitespace.ofGap? (slice ρ.source g.1 g.2) ∧
    (ρ.kept g.1 g.2 → slice ρ.source' g'.1 g'.2 = slice ρ.source g.1 g.2)

/-- **Tokens of one shape make a row** if the gaps between them agree, up to a mark that follows;
and the gaps from there on agree as well. -/
theorem Row.of_fills (h : Fills ρ.source i ts j) (h' : Fills ρ.source' i' ts' j')
    (hshapes : Tree.allShapes ts' = Tree.allShapes ts) {m m' : Mark} {ms ms' : List Mark}
    (hm : m.start = j) (hm' : m'.start = j')
    (hgaps : List.Forall₂ ρ.Agree (gapsFrom (some i) (Tree.allMarks ts ++ m :: ms))
      (gapsFrom (some i') (Tree.allMarks ts' ++ m' :: ms'))) :
    ρ.Row i i' ts ts' j j' ∧
      List.Forall₂ ρ.Agree (gapsFrom (some m.stop) ms) (gapsFrom (some m'.stop) ms') := by
  induction h generalizing i' ts' j' m m' ms ms' with
  | nil hij hj hgap =>
    cases h' with
    | nil hij' hj' hgap' =>
      obtain ⟨⟨hcome, hsame⟩, hgaps⟩ := List.forall₂_cons.1 hgaps
      subst hm hm'
      exact ⟨.nil ⟨hij, hij', hgap, hgap', hcome, hsame⟩ hj hj', hgaps⟩
    | leaf | group => exact absurd hshapes nofun
  | @leaf i j a b l ts hi hgap hspells hpre hb hspan h ih =>
    cases h' with
    | nil => exact absurd hshapes nofun
    | group => exact absurd (List.cons.inj hshapes).1 nofun
    | @leaf _ _ a' b' l' ts' hi' hgap' hspells' hpre' hb' hspan' h' =>
      obtain ⟨hleaf, hrest⟩ := List.cons.inj hshapes
      obtain ⟨hkind, htext, -⟩ := Leaf.mk.inj (Tree.leaf.inj hleaf)
      obtain ⟨k, text, span⟩ := l
      obtain ⟨k', text', span'⟩ := l'
      subst hkind htext hspan hspan'
      obtain ⟨⟨hcome, hsame⟩, hgaps⟩ := List.forall₂_cons.1 hgaps
      obtain ⟨hrow, hgaps⟩ := ih h' hrest hm hm' hgaps
      exact ⟨.leaf ⟨hi, hi', hgap, hgap', hcome, hsame⟩ hspells hpre hpre' hb hb' rfl rfl hrow,
        hgaps⟩
  | @group i j a b d children ts span hi hgap hopen hclose hspan hchildren h ihc ih =>
    cases h' with
    | nil => exact absurd hshapes nofun
    | leaf => exact absurd (List.cons.inj hshapes).1 nofun
    | @group _ _ a' b' d' children' ts' span' hi' hgap' hopen' hclose' hspan' hchildren' h' =>
      obtain ⟨hgroup, hrest⟩ := List.cons.inj hshapes
      obtain ⟨rfl, hinside, -⟩ := Tree.group.inj hgroup
      subst hspan hspan'
      rw [Tree.allMarks_group_append, Tree.allMarks_group_append] at hgaps
      obtain ⟨⟨hcome, hsame⟩, hgaps⟩ := List.forall₂_cons.1 hgaps
      -- first to the closing delimiter, and from there to the mark that follows
      obtain ⟨hrowc, hgaps⟩ := ihc hchildren' hinside rfl rfl hgaps
      obtain ⟨hrow, hgaps⟩ := ih h' hrest hm hm' hgaps
      exact ⟨.group ⟨hi, hi', hgap, hgap', hcome, hsame⟩ hopen hopen' hclose hclose' rfl rfl hrowc
        hrow, hgaps⟩

/-- **Texts with the same tokens** are a row from the first token to the last, if the gaps between
consecutive tokens agree: what stands before and after all tokens does not matter. -/
theorem Row.of_gaps (h : Fills ρ.source i ts j) (h' : Fills ρ.source' i' ts' j')
    (hshapes : Tree.allShapes ts' = Tree.allShapes ts)
    (hgaps : List.Forall₂ ρ.Agree (Tree.gaps ts) (Tree.gaps ts')) :
    ∃ a a' k k', ρ.Row a a' ts ts' k k' := by
  have hempty (p p' : Nat) : ρ.Agree (p, p) (p', p') := by
    refine ⟨?_, fun _ => ?_⟩ <;> rw [slice_self, slice_self]
  cases ts with
  | nil =>
    obtain rfl : ts' = [] := by
      cases ts' with
      | nil => rfl
      | cons t' ts' => exact absurd hshapes nofun
    exact ⟨i, i', i, i', .nil (.refl i i') (h.le.trans h.stop_le) (h'.le.trans h'.stop_le)⟩
  | cons t ts =>
    obtain ⟨t', ts', rfl⟩ : ∃ t' us, ts' = t' :: us := by
      cases ts' with
      | nil => exact absurd hshapes nofun
      | cons t' ts' => exact ⟨t', ts', rfl⟩
    -- a mark without text ends the row where its last token ends
    let last (u : Tree) (us : List Tree) : Mark :=
      let k := lastStop u.span.startPos (Tree.allMarks (u :: us))
      ⟨.leaf .punct, [], k, k⟩
    have hends : List.Forall₂ ρ.Agree
        (gapsFrom (some t.span.startPos) (Tree.allMarks (t :: ts) ++ [last t ts]))
        (gapsFrom (some t'.span.startPos) (Tree.allMarks (t' :: ts') ++ [last t' ts'])) := by
      rw [gapsFrom_concat, gapsFrom_concat, gapsFrom_allMarks_cons, gapsFrom_allMarks_cons]
      exact .cons (hempty _ _) (List.rel_append hgaps (.cons (hempty _ _) .nil))
    have hfills := h.from_head.to_lastStop
    have hfills' := h'.from_head.to_lastStop
    exact ⟨_, _, _, _, (Row.of_fills hfills hfills' hshapes rfl rfl hends).1⟩

end Respacing

end TokenTemplate
