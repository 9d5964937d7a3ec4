import TokenTemplate.Proofs.Token.Reading
import TokenTemplate.Token.Assembly

/-!
# How a token tree fills its source

Where the tokens of a tree stand, said of the tree as a whole: `TokenTemplate.Fills` goes from one
offset to another through a row of tokens, and for a group through its delimiters and its children.
So it gives the place of every token, which `TokenTemplate.Tree` itself leaves open, and inductions
over trees can go along it.

A tree has a flat reading, `TokenTemplate.Tree.allMarks`, in which the delimiters of a group stand
around the marks of its children. Folding a row of lexemes into a tree loses nothing of it: what has
been folded reads as the row did (`TokenTemplate.assemble_fills`). The invariant of the fold is
`TokenTemplate.Stacked`, which says of every open group that the tokens before it fill the source up
to its delimiter.
-/

namespace TokenTemplate

/-! ### The flat reading of a tree -/

namespace Tree

mutual

/-- The marks of a token: itself, or its delimiters around the marks of its children. -/
def marks : Tree → List Mark
  | leaf l => [⟨.leaf l.kind, l.text.toList, l.span.startPos, l.span.stopPos⟩]
  | group d children s =>
    ⟨.opening d, [d.openChar], s.startPos, s.startPos + 1⟩ ::
      (allMarks children ++ [⟨.closing d, [d.closeChar], s.stopPos - 1, s.stopPos⟩])

/-- The marks of a row of tokens. -/
def allMarks : List Tree → List Mark
  | [] => []
  | t :: ts => marks t ++ allMarks ts

end

theorem allMarks_append (ts us : List Tree) : allMarks (ts ++ us) = allMarks ts ++ allMarks us := by
  induction ts with
  | nil => rfl
  | cons t ts ih => rw [List.cons_append, allMarks, allMarks, ih, List.append_assoc]

theorem allMarks_concat (ts : List Tree) (t : Tree) :
    allMarks (ts ++ [t]) = allMarks ts ++ marks t := by
  rw [allMarks_append, allMarks, allMarks, List.append_nil]

/-- What a mark shows of a token: its text and where it begins. -/
def pieceOf (m : Mark) : String × Nat :=
  (String.ofList m.text, m.start)

mutual

theorem pieces_eq_map : (t : Tree) → pieces t = (marks t).map pieceOf
  | leaf l => by simp [pieces, marks, pieceOf]
  | group d children s => by
    have hopen : d.opening = String.ofList [d.openChar] := String.singleton_eq_ofList
    have hclose : d.closing = String.ofList [d.closeChar] := String.singleton_eq_ofList
    simp [pieces, marks, pieceOf, hopen, hclose, allPieces_eq_map children]

theorem allPieces_eq_map : (ts : List Tree) → allPieces ts = (allMarks ts).map pieceOf
  | [] => rfl
  | t :: ts => by
    rw [allPieces, allMarks, List.map_append, pieces_eq_map t, allPieces_eq_map ts]

end

end Tree

/-! ### Tokens that fill a piece of source -/

/-- **Tokens that fill a piece of source**: one after another from one offset to another, with gaps
between them only, and the children of a group from its first delimiter to its second. -/
inductive Fills (source : List Char) : Nat → List Tree → Nat → Prop
  /-- A gap. -/
  | nil {i j : Nat} (hij : i ≤ j) (hj : j ≤ source.length) (hgap : IsGapRun (slice source i j)) :
      Fills source i [] j
  /-- A gap, and a token without parts. -/
  | leaf {i j a b : Nat} {l : Leaf} {ts : List Tree} (hi : i ≤ a)
      (hgap : IsGapRun (slice source i a)) (hspells : Spells (.leaf l.kind) l.text.toList)
      (hpre : l.text.toList <+: source.drop a) (hb : b = a + l.text.toList.length)
      (hspan : l.span = .between source a b) (h : Fills source b ts j) :
      Fills source i (.leaf l :: ts) j
  /-- A gap, and a group. -/
  | group {i j a b : Nat} {d : Delimiter} {children ts : List Tree} {span : Span} (hi : i ≤ a)
      (hgap : IsGapRun (slice source i a)) (hopen : source[a]? = some d.openChar)
      (hclose : source[b]? = some d.closeChar) (hspan : span = .between source a (b + 1))
      (hchildren : Fills source (a + 1) children b) (h : Fills source (b + 1) ts j) :
      Fills source i (.group d children span :: ts) j

namespace Fills

variable {source : List Char} {i j k : Nat} {ts us : List Tree}

theorem stop_le (h : Fills source i ts j) : j ≤ source.length := by
  induction h with
  | nil _ hj => exact hj
  | leaf _ _ _ _ _ _ _ ih => exact ih
  | group _ _ _ _ _ _ _ _ ih => exact ih

theorem le (h : Fills source i ts j) : i ≤ j := by
  induction h with
  | nil hij => exact hij
  | leaf => omega
  | group => omega

/-- A gap before a filling. -/
theorem gap_left (hij : i ≤ j) (hgap : IsGapRun (slice source i j)) (h : Fills source j ts k) :
    Fills source i ts k := by
  have hrun {b : Nat} (hb : j ≤ b) (hgap' : IsGapRun (slice source j b)) :
      IsGapRun (slice source i b) := by
    rw [← slice_append hij hb]
    exact List.forall_mem_append.2 ⟨hgap, hgap'⟩
  cases h with
  | nil hjk hk hgap' => exact .nil (by omega) hk (hrun hjk hgap')
  | leaf hi hgap' hspells hpre hb hspan h =>
    exact .leaf (by omega) (hrun hi hgap') hspells hpre hb hspan h
  | group hi hgap' hopen hclose hspan hchildren h =>
    exact .group (by omega) (hrun hi hgap') hopen hclose hspan hchildren h

/-- **Fillings that meet make one.** -/
theorem append (h : Fills source i ts j) (h' : Fills source j us k) :
    Fills source i (ts ++ us) k := by
  induction h with
  | nil hij _ hgap => exact h'.gap_left hij hgap
  | leaf hi hgap hspells hpre hb hspan _ ih =>
    exact .leaf hi hgap hspells hpre hb hspan (ih h')
  | group hi hgap hopen hclose hspan hchildren _ _ ih =>
    exact .group hi hgap hopen hclose hspan hchildren (ih h')

end Fills

/-! ### The fold of lexemes -/

/-- **The invariant of the fold**: the tokens of the innermost level fill the source from its
delimiter, or from the beginning, up to an offset, and those of the levels around it up to that
delimiter. -/
def Stacked (source : List Char) : List OpenGroup → List Tree → Nat → Prop
  | [], level, j => Fills source 0 level.reverse j
  | g :: groups, level, j =>
    ∃ a, source[a]? = some g.delimiter.openChar ∧ g.opener = .between source a (a + 1) ∧
      Stacked source groups g.before a ∧ Fills source (a + 1) level.reverse j

/-- What has been folded so far, as a row of marks. -/
def foldedMarks : List OpenGroup → List Tree → List Mark
  | [], level => Tree.allMarks level.reverse
  | g :: groups, level =>
    foldedMarks groups g.before ++
      ⟨.opening g.delimiter, [g.delimiter.openChar], g.opener.startPos, g.opener.startPos + 1⟩ ::
        Tree.allMarks level.reverse

section Fold

variable {source : List Char} {i j : Nat} {groups groups' : List OpenGroup}
  {level level' : List Tree}

/-- Tokens that follow the innermost level. -/
theorem Stacked.push {t : Tree} (h : Stacked source groups level i) (ht : Fills source i [t] j) :
    Stacked source groups (t :: level) j := by
  cases groups with
  | nil =>
    rw [Stacked, List.reverse_cons]
    exact Fills.append h ht
  | cons g groups =>
    obtain ⟨a, hopen, hopener, hbefore, hlevel⟩ := h
    refine ⟨a, hopen, hopener, hbefore, ?_⟩
    rw [List.reverse_cons]
    exact hlevel.append ht

theorem foldedMarks_push (groups : List OpenGroup) (level : List Tree) (t : Tree) :
    foldedMarks groups (t :: level) = foldedMarks groups level ++ t.marks := by
  cases groups with
  | nil => rw [foldedMarks, foldedMarks, List.reverse_cons, Tree.allMarks_concat]
  | cons g groups =>
    rw [foldedMarks, foldedMarks, List.reverse_cons, Tree.allMarks_concat, List.append_assoc,
      List.cons_append]

/-- A gap after the innermost level. -/
theorem Stacked.gap (h : Stacked source groups level i) (hij : i ≤ j) (hj : j ≤ source.length)
    (hgap : IsGapRun (slice source i j)) : Stacked source groups level j := by
  have hnil : Fills source i [] j := .nil hij hj hgap
  cases groups with
  | nil =>
    rw [Stacked, ← List.append_nil level.reverse]
    exact Fills.append h hnil
  | cons g groups =>
    obtain ⟨a, hopen, hopener, hbefore, hlevel⟩ := h
    refine ⟨a, hopen, hopener, hbefore, ?_⟩
    rw [← List.append_nil level.reverse]
    exact hlevel.append hnil

/-- The character that a text of one character stands for. -/
theorem getElem?_of_singleton_isPrefix {c : Char} {a : Nat} (h : [c] <+: source.drop a) :
    source[a]? = some c := by
  obtain ⟨rest, hrest⟩ := h
  have hhead : (source.drop a)[0]? = source[a + 0]? := List.getElem?_drop
  rw [← hrest] at hhead
  simpa using hhead.symm

/-- A token without parts follows the innermost level. -/
theorem Stacked.leaf {k : LeafKind} {text : List Char} {a : Nat} (h : Stacked source groups level i)
    (hi : i ≤ a) (hgap : IsGapRun (slice source i a)) (hspells : Spells (.leaf k) text)
    (hpre : text <+: source.drop a) (hlast : a + text.length ≤ source.length) :
    Stacked source groups
      (.leaf ⟨k, String.ofList text, .between source a (a + text.length)⟩ :: level)
      (a + text.length) := by
  refine h.push (.leaf hi hgap ?_ ?_ ?_ rfl (.nil le_rfl hlast isGapRun_slice_self))
  · rwa [String.toList_ofList]
  · rwa [String.toList_ofList]
  · rw [String.toList_ofList]

/-- An opening delimiter begins an innermost level. -/
theorem Stacked.opening {d : Delimiter} {a : Nat} (h : Stacked source groups level i) (hi : i ≤ a)
    (hgap : IsGapRun (slice source i a)) (hopen : source[a]? = some d.openChar) :
    Stacked source (⟨d, .between source a (a + 1), level⟩ :: groups) [] (a + 1) := by
  obtain ⟨ha, -⟩ := List.getElem?_eq_some_iff.1 hopen
  exact ⟨a, hopen, rfl, h.gap hi ha.le hgap, .nil le_rfl ha isGapRun_slice_self⟩

/-- The closing delimiter of the innermost group makes a token of it. -/
theorem Stacked.closing {g : OpenGroup} {a : Nat} (h : Stacked source (g :: groups) level i)
    (hi : i ≤ a) (hgap : IsGapRun (slice source i a))
    (hclose : source[a]? = some g.delimiter.closeChar) :
    Stacked source groups
        (.group g.delimiter level.reverse (g.opener.join (.between source a (a + 1))) :: g.before)
        (a + 1) ∧
      foldedMarks groups
          (.group g.delimiter level.reverse (g.opener.join (.between source a (a + 1))) ::
            g.before) =
        foldedMarks (g :: groups) level ++
          [⟨.closing g.delimiter, [g.delimiter.closeChar], a, a + 1⟩] := by
  obtain ⟨ha, -⟩ := List.getElem?_eq_some_iff.1 hclose
  obtain ⟨o, hopen, hopener, hbefore, hlevel⟩ := h
  have hoi := hlevel.le
  have hfilled := hlevel.append (.nil hi ha.le hgap)
  rw [List.append_nil] at hfilled
  have hjoin : g.opener.join (.between source a (a + 1)) = .between source o (a + 1) := by
    rw [hopener]
    exact Span.join_between_of_le (by omega) (by omega) (by omega) ha
  rw [hjoin]
  refine ⟨hbefore.push (.group le_rfl isGapRun_slice_self hopen hclose rfl hfilled
    (.nil le_rfl ha isGapRun_slice_self)), ?_⟩
  rw [foldedMarks_push, foldedMarks]
  simp [Tree.marks, Span.between, hopener]

/-- **The fold keeps the marks, and the tree fills the source.** -/
theorem assemble_fills {marks : List Mark} (h : Tiles source i marks j)
    (hs : Stacked source groups level i)
    (hok : assemble groups level (marks.map (Mark.lexeme source)) = .ok (groups', level')) :
    Stacked source groups' level' j ∧
      foldedMarks groups' level' = foldedMarks groups level ++ marks := by
  induction h generalizing groups level with
  | nil hij hj hgap =>
    obtain ⟨rfl, rfl⟩ := Prod.mk.inj (Except.ok.inj hok)
    exact ⟨hs.gap hij hj hgap, (List.append_nil _).symm⟩
  | @cons i j m marks hi hgap hspells hpre hstop htail ih =>
    obtain ⟨kind, text, a, b⟩ := m
    obtain rfl : b = a + text.length := hstop
    have hlast := htail.le.trans htail.stop_le
    rw [List.map_cons, assemble] at hok
    cases kind with
    | leaf k =>
      obtain ⟨hs', hmarks⟩ := ih (hs.leaf hi hgap hspells hpre hlast) hok
      refine ⟨hs', ?_⟩
      rw [hmarks, foldedMarks_push, List.append_assoc, Tree.marks, String.toList_ofList]
      rfl
    | opening d =>
      obtain ⟨rfl⟩ : text = [d.openChar] := by cases hspells; rfl
      obtain ⟨hs', hmarks⟩ := ih (hs.opening hi hgap (getElem?_of_singleton_isPrefix hpre)) hok
      refine ⟨hs', ?_⟩
      rw [hmarks, foldedMarks, List.append_assoc]
      rfl
    | closing d =>
      obtain ⟨rfl⟩ : text = [d.closeChar] := by cases hspells; rfl
      cases groups with
      | nil => exact absurd hok (by simp [Mark.lexeme])
      | cons g groups =>
        simp only [Mark.lexeme] at hok
        split at hok
        · next hd =>
          subst hd
          obtain ⟨hclosed, hfolded⟩ := hs.closing hi hgap (getElem?_of_singleton_isPrefix hpre)
          obtain ⟨hs', hmarks⟩ := ih hclosed hok
          refine ⟨hs', ?_⟩
          rw [hmarks, hfolded, List.append_assoc]
          rfl
        · exact absurd hok (by simp)

end Fold

section Unfold

variable {source : List Char} {i j : Nat} {ts : List Tree}

/-- **The fold undoes the flat reading**: from the marks of some tokens it makes the tokens again.
-/
theorem assemble_allMarks (h : Fills source i ts j) (groups : List OpenGroup) (level : List Tree)
    (row : List Lexeme) :
    assemble groups level ((Tree.allMarks ts).map (Mark.lexeme source) ++ row) =
      assemble groups (ts.reverse ++ level) row := by
  induction h generalizing groups level row with
  | nil => rfl
  | @leaf i j a b l ts hi _ _ _ _ hspan _ ih =>
    have hlexeme :
        Mark.lexeme source ⟨.leaf l.kind, l.text.toList, l.span.startPos, l.span.stopPos⟩ =
          ⟨.leaf l.kind, l.text, l.span⟩ := by
      rw [Mark.lexeme, String.ofList_toList, hspan]
      rfl
    rw [Tree.allMarks, Tree.marks, List.singleton_append, List.map_cons, List.cons_append, hlexeme,
      assemble]
    simp only
    rw [ih, List.reverse_cons, List.append_assoc, List.singleton_append]
  | @group i j a b d children ts span hi _ _ _ hspan hchildren h ihc ih =>
    have hab := hchildren.le
    have hb := h.le.trans h.stop_le
    have hjoin : (Span.between source a (a + 1)).join (.between source b (b + 1)) = span := by
      rw [hspan]
      exact Span.join_between_of_le (by omega) (by omega) (by omega) hb
    obtain rfl : span.startPos = a := congrArg Span.startPos hspan
    have hstop : span.stopPos = b + 1 := congrArg Span.stopPos hspan
    rw [Tree.allMarks, Tree.marks, List.cons_append, List.map_cons, List.cons_append, assemble,
      List.append_assoc, List.map_append, List.append_assoc]
    simp only [Mark.lexeme]
    rw [ihc, List.append_nil, List.singleton_append, List.map_cons, List.cons_append, assemble]
    simp only [Mark.lexeme, if_true, List.reverse_reverse, hstop, Nat.add_sub_cancel, hjoin]
    rw [ih, List.reverse_cons, List.append_assoc, List.singleton_append]

end Unfold

/-! ### The tree of a source

What becomes of a source, in terms of its reading and of the fold of its marks. -/

section Source

variable {settings : Settings} {source : List Char} {marks : List Mark} {level : List Tree}

theorem ofSource_of_mismatch {stop : Option Nat} {d : Delimiter} {span : Span}
    (h : Reads source 0 marks stop)
    (hfold : assemble [] [] (marks.map (Mark.lexeme source)) = .error (d, span)) :
    Tree.ofSource settings source = .error ⟨.unbalancedClosing d, span, settings.filename⟩ := by
  rw [Tree.ofSource, scan_eq h]
  simp only [hfold]

theorem ofSource_of_stray {p : Nat} {folded : List OpenGroup × List Tree}
    (h : Reads source 0 marks (some p))
    (hfold : assemble [] [] (marks.map (Mark.lexeme source)) = .ok folded) :
    Tree.ofSource settings source =
      .error ⟨(Stray.ofOffset source p).problem, (Stray.ofOffset source p).span,
        settings.filename⟩ := by
  rw [Tree.ofSource, scan_eq h]
  simp only [hfold, Option.map_some]

theorem ofSource_of_open {g : OpenGroup} {groups : List OpenGroup} (h : Reads source 0 marks none)
    (hfold : assemble [] [] (marks.map (Mark.lexeme source)) = .ok (g :: groups, level)) :
    Tree.ofSource settings source =
      .error ⟨.unterminatedGroup, .between source source.length source.length,
        settings.filename⟩ := by
  have hend : (Span.ofSource source).stop = .ofOffset source source.length := by
    rw [Position.ofOffset_eq_advanceAll, List.take_length]
    rfl
  have hpoint : Span.point (Span.ofSource source).stop (Span.ofSource source).stopPos =
      .between source source.length source.length := by
    rw [hend, Span.ofSource, Span.ofText, Nat.zero_add]
    rfl
  rw [Tree.ofSource, scan_eq h]
  simp only [hfold, Option.map_none, hpoint]

theorem ofSource_of_closed (h : Reads source 0 marks none)
    (hfold : assemble [] [] (marks.map (Mark.lexeme source)) = .ok ([], level)) :
    Tree.ofSource settings source =
      (Tree.anyTooDeep? settings.maxDepth level.reverse).elim (.ok level.reverse) fun span =>
        .error ⟨.tooDeep settings.maxDepth, span, settings.filename⟩ := by
  rw [Tree.ofSource, scan_eq h]
  simp only [hfold, Option.map_none]
  cases Tree.anyTooDeep? settings.maxDepth level.reverse <;> rfl

theorem stacked_nil (source : List Char) : Stacked source [] [] 0 :=
  .nil le_rfl (Nat.zero_le _) isGapRun_slice_self

/-- **The tree of a source fills it and reads as the source does**, and no group of it is too deep.
-/
theorem Tree.fills_of_ofSource {ts : List Tree} (h : Tree.ofSource settings source = .ok ts) :
    Fills source 0 ts source.length ∧ Reads source 0 (Tree.allMarks ts) none ∧
      Tree.anyTooDeep? settings.maxDepth ts = none := by
  obtain ⟨marks, stop, hreads⟩ := exists_reads (Nat.zero_le source.length)
  rcases hfold : assemble [] [] (marks.map (Mark.lexeme source)) with ⟨d, span⟩ | ⟨groups, level⟩
  · rw [ofSource_of_mismatch hreads hfold] at h
    exact absurd h (by simp)
  obtain ⟨hfills, hmarks⟩ := assemble_fills hreads.tiles (stacked_nil source) hfold
  cases stop with
  | some p =>
    rw [ofSource_of_stray hreads hfold] at h
    exact absurd h (by simp)
  | none =>
    cases groups with
    | cons g groups =>
      rw [ofSource_of_open hreads hfold] at h
      exact absurd h (by simp)
    | nil =>
      rw [ofSource_of_closed hreads hfold] at h
      rcases hdepth : Tree.anyTooDeep? settings.maxDepth level.reverse with _ | span
      · rw [hdepth] at h
        obtain rfl := Except.ok.inj h
        have heq : Tree.allMarks level.reverse = marks := hmarks
        exact ⟨hfills, heq ▸ hreads, hdepth⟩
      · rw [hdepth] at h
        exact absurd h (by simp)

/-- **The tree of a source is known by this.** -/
theorem Tree.ofSource_of_fills {ts : List Tree} (hfills : Fills source 0 ts source.length)
    (hreads : Reads source 0 (Tree.allMarks ts) none)
    (hdepth : Tree.anyTooDeep? settings.maxDepth ts = none) :
    Tree.ofSource settings source = .ok ts := by
  have hfold := assemble_allMarks hfills [] [] []
  rw [List.append_nil, List.append_nil, assemble] at hfold
  rw [ofSource_of_closed hreads hfold, List.reverse_reverse, hdepth]
  rfl

end Source

end TokenTemplate
