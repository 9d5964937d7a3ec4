import TokenTemplate.Proofs.Grammar.Sibling
import TokenTemplate.Proofs.Respacing.Row
import TokenTemplate.Proofs.Template.Depth
import TokenTemplate.Proofs.Template.Inline

/-!
# A piece of a template is read as it was

What a payload or a body is cut out as, the piece of source from its first token to its last, can be
read by itself. It gives the tokens that it was cut out with, each of them as far from the beginning of the
piece as it was from the first of them in the source: `TokenTemplate.Region.ofSource_textOf`. The places
on the page are those of the new offsets, `TokenTemplate.Tree.recount`, since the first line of the piece
may begin in the middle of a line of the source.

That nothing is split in another way is due to the form of the rules. A token begins a text if it is the
longest of its kind there, and if no literal has a better claim. Both concern what begins the text, and
there is only less of that when the text ends earlier (`TokenTemplate.Begins.of_isPrefix`).
-/

namespace TokenTemplate

/-! ### Counting from another place -/

namespace Tree

mutual

/-- A token with its place counted anew, in a piece of source that begins at an offset. -/
def recount (piece : List Char) (n : Nat) : Tree → Tree
  | leaf l => leaf { l with span := .between piece (l.span.startPos - n) (l.span.stopPos - n) }
  | group d children s =>
    group d (recountAll piece n children) (.between piece (s.startPos - n) (s.stopPos - n))

/-- Some tokens with their places counted anew. -/
def recountAll (piece : List Char) (n : Nat) : List Tree → List Tree
  | [] => []
  | t :: ts => recount piece n t :: recountAll piece n ts

end

/-! ### Parts of a tree -/

variable {d : Delimiter} {ts children : List Tree} {span : Span} {room : Int}

mutual

/-- A token that has room has more than enough with more of it. -/
theorem tooDeep?_mono {room room' : Int} (hroom : room ≤ room') :
    (t : Tree) → tooDeep? room t = none → tooDeep? room' t = none
  | leaf _, _ => rfl
  | group d children s, h => by
    rw [tooDeep?_group_eq_none_iff] at h ⊢
    exact ⟨by omega, anyTooDeep?_mono (Int.sub_le_sub_right hroom 1) children h.2⟩

theorem anyTooDeep?_mono {room room' : Int} (hroom : room ≤ room') :
    (ts : List Tree) → anyTooDeep? room ts = none → anyTooDeep? room' ts = none
  | [], _ => rfl
  | t :: ts, h => by
    rw [anyTooDeep?, Option.or_eq_none_iff] at h ⊢
    exact ⟨tooDeep?_mono hroom t h.1, anyTooDeep?_mono hroom ts h.2⟩

end

mutual

/-- What is inside a token has its marks among those of the token, and room if the token has. -/
theorem inside_of_mem_parts : (t : Tree) → .group d children span ∈ parts t →
    allMarks children ⊆ marks t ∧ (tooDeep? room t = none → anyTooDeep? room children = none)
  | leaf _, h => absurd (List.mem_singleton.1 h) nofun
  | group d' cs s, h => by
    have hinner : cs = children ∨ .group d children span ∈ allParts cs := by
      rw [parts, List.mem_cons] at h
      exact h.imp (fun heq => (Tree.group.inj heq).2.1.symm) id
    have hmarks : allMarks cs ⊆ marks (.group d' cs s) := by
      rw [marks]
      exact List.subset_cons_of_subset _ (List.subset_append_left _ _)
    rw [tooDeep?_group_eq_none_iff]
    have hdepth (hroom : 1 ≤ room ∧ anyTooDeep? (room - 1) cs = none) :
        anyTooDeep? room cs = none := anyTooDeep?_mono (by omega) cs hroom.2
    rcases hinner with rfl | hmem
    · exact ⟨hmarks, hdepth⟩
    · obtain ⟨hsub, hroom⟩ := inside_of_mem_allParts cs hmem
      exact ⟨List.Subset.trans hsub hmarks, hroom ∘ hdepth⟩

theorem inside_of_mem_allParts : (ts : List Tree) → .group d children span ∈ allParts ts →
    allMarks children ⊆ allMarks ts ∧
      (anyTooDeep? room ts = none → anyTooDeep? room children = none)
  | [], h => absurd h List.not_mem_nil
  | t :: ts, h => by
    rw [allParts, List.mem_append] at h
    rw [allMarks, anyTooDeep?, Option.or_eq_none_iff]
    rcases h with h | h
    · obtain ⟨hsub, hroom⟩ := inside_of_mem_parts t h
      exact ⟨List.Subset.trans hsub (List.subset_append_left _ _), fun h => hroom h.1⟩
    · obtain ⟨hsub, hroom⟩ := inside_of_mem_allParts ts h
      exact ⟨List.Subset.trans hsub (List.subset_append_right _ _), fun h => hroom h.2⟩

end

mutual

/-- How deep a token is does not depend on where it is counted from. -/
theorem tooDeep?_recount {room : Int} (piece : List Char) (n : Nat) :
    (t : Tree) → tooDeep? room (recount piece n t) = none ↔ tooDeep? room t = none
  | leaf _ => Iff.rfl
  | group d children s => by
    rw [recount, tooDeep?_group_eq_none_iff, tooDeep?_group_eq_none_iff,
      anyTooDeep?_recountAll piece n children]

theorem anyTooDeep?_recountAll {room : Int} (piece : List Char) (n : Nat) :
    (ts : List Tree) → anyTooDeep? room (recountAll piece n ts) = none ↔ anyTooDeep? room ts = none
  | [] => Iff.rfl
  | t :: ts => by
    rw [recountAll, anyTooDeep?, anyTooDeep?, Option.or_eq_none_iff, Option.or_eq_none_iff,
      tooDeep?_recount piece n t, anyTooDeep?_recountAll piece n ts]

end

end Tree

/-! ### Rules in a shorter text -/

/-- **The token that begins a text** begins every text that ends earlier, as long as the token is still
in it. -/
theorem Begins.of_isPrefix {cs cs' text : List Char} {k : LexemeKind} (h : Begins cs k text)
    (hcs : cs' <+: cs) (htext : text <+: cs') : Begins cs' k text where
  isPrefix := htext
  spells := h.spells
  longest more hmore := h.longest more (hmore.trans hcs)
  unquoted hk more hmore := h.unquoted hk more (hmore.trans hcs)

/-! ### A piece of source -/

section Piece

variable {source : List Char} {n m i j a b : Nat}

theorem drop_slice (hn : n ≤ a) : (slice source n m).drop (a - n) = slice source a m := by
  rw [slice, List.drop_drop, Nat.add_sub_cancel' hn]
  rfl

theorem slice_slice (hn : n ≤ i) (hj : j ≤ m) :
    slice (slice source n m) (i - n) (j - n) = slice source i j := by
  rw [slice_eq_take_drop, drop_slice hn, slice_eq_take_drop, slice_eq_take_drop, List.take_take]
  congr 1
  omega

theorem getElem?_slice (hn : n ≤ a) (ha : a < m) : (slice source n m)[a - n]? = source[a]? := by
  rw [slice, List.getElem?_drop, Nat.add_sub_cancel' hn, List.getElem?_take_of_lt ha]

/-- A text that ends within a piece of source begins what is left of the piece. -/
theorem isPrefix_slice {text : List Char} (h : text <+: source.drop a) (hm : a + text.length ≤ m) :
    text <+: slice source a m := by
  rw [slice_eq_take_drop]
  exact List.prefix_take_iff.2 ⟨h, by omega⟩

/-- **The token at an offset** is the same one in a piece of source that holds all of it. -/
theorem Begins.of_slice {k : LexemeKind} {text : List Char} (h : Begins (source.drop a) k text)
    (hn : n ≤ a) (hm : a + text.length ≤ m) : Begins ((slice source n m).drop (a - n)) k text := by
  rw [drop_slice hn]
  refine h.of_isPrefix ?_ (isPrefix_slice h.isPrefix hm)
  rw [slice_eq_take_drop]
  exact List.take_prefix _ _

namespace Fills

variable {ts : List Tree}

/-- **Tokens of a piece of source** fill it as they fill the source. -/
theorem recount (h : Fills source i ts j) (hn : n ≤ i) (hj : j ≤ m) (hm : m ≤ source.length) :
    Fills (slice source n m) (i - n) (Tree.recountAll (slice source n m) n ts) (j - n) := by
  have hlength : (slice source n m).length = m - n := length_slice hm
  induction h with
  | nil hij _ hgap =>
    refine .nil (by omega) (by omega) ?_
    rwa [slice_slice hn hj]
  | @leaf i j a b l ts hi hgap hspells hpre hb hspan h ih =>
    have hle := h.le
    have hb' : b - n = a - n + l.text.toList.length := by omega
    have hpre' : l.text.toList <+: (slice source n m).drop (a - n) := by
      rw [drop_slice (by omega)]
      exact isPrefix_slice hpre (by omega)
    refine .leaf (Nat.sub_le_sub_right hi n) ?_ hspells hpre' hb' ?_ (ih (by omega) hj)
    · rwa [slice_slice hn (by omega)]
    · rw [hspan]
      rfl
  | @group i j a b d children ts span hi hgap hopen hclose hspan hchildren h ihc ih =>
    have hle := h.le
    have hinner := hchildren.le
    have ha : a + 1 - n = a - n + 1 := by omega
    have hb : b + 1 - n = b - n + 1 := by omega
    refine .group (a := a - n) (b := b - n) (by omega) ?_ ?_ ?_ ?_ ?_ ?_
    · rwa [slice_slice hn (by omega)]
    · rwa [getElem?_slice (by omega) (by omega)]
    · rwa [getElem?_slice (by omega) (by omega)]
    · rw [hspan, ← hb]
      rfl
    · rw [← ha]
      exact ihc (by omega) (by omega)
    · rw [← hb]
      exact ih (by omega) hj

/-- **A piece of source reads as the source does there.** -/
theorem reads_recount (h : Fills source i ts j) (hn : n ≤ i) (hj : j ≤ m) (hm : m ≤ source.length)
    (hbegins : ∀ k ∈ Tree.allMarks ts, Begins (source.drop k.start) k.kind k.text)
    {marks : List Mark} (hrest : Reads (slice source n m) (j - n) marks none) :
    Reads (slice source n m) (i - n)
      (Tree.allMarks (Tree.recountAll (slice source n m) n ts) ++ marks) none := by
  have hlength : (slice source n m).length = m - n := length_slice hm
  -- by induction on the filling: a token is put before what is read after it, then the gap before it
  induction h generalizing marks with
  | nil hij _ hgap =>
    refine hrest.of_gapRun (by omega) (by omega) ?_
    rwa [slice_slice hn hj]
  | @leaf i j a b l ts hi hgap hspells hpre hb hspan h ih =>
    have hle := h.le
    have hpos := length_pos_of_spells hspells
    rw [Tree.allMarks, Tree.marks, List.singleton_append, List.forall_mem_cons] at hbegins
    have hhead : Begins (source.drop a) (.leaf l.kind) l.text.toList := by
      have hstart : l.span.startPos = a := congrArg Span.startPos hspan
      rw [← hstart]
      exact hbegins.1
    have hread := (ih (by omega) hj hbegins.2 hrest)
    have hb' : b - n = a - n + l.text.toList.length := by omega
    refine Reads.of_gapRun (j := a - n) (by omega) (by omega) ?_ ?_
    · rwa [slice_slice hn (by omega)]
    rw [hb'] at hread
    have hcons := Reads.cons (by omega) (hhead.of_slice (n := n) (m := m) (by omega) (by omega)) hread
    rw [Tree.recountAll, Tree.recount, Tree.allMarks, Tree.marks, List.append_assoc,
      List.singleton_append, hspan]
    simpa only [Span.between, hb'] using hcons
  | @group i j a b d children ts span hi hgap hopen hclose hspan hchildren h ihc ih =>
    have hle := h.le
    have hinner := hchildren.le
    rw [Tree.allMarks, Tree.marks, List.cons_append, List.forall_mem_cons, List.append_assoc,
      List.singleton_append, List.forall_mem_append, List.forall_mem_cons, hspan] at hbegins
    obtain ⟨hfirst, hmiddle, hlast, hnext⟩ := hbegins
    replace hfirst : Begins (source.drop a) (.opening d) [d.openChar] := hfirst
    replace hlast : Begins (source.drop b) (.closing d) [d.closeChar] := hlast
    have ha : a + 1 - n = a - n + 1 := by omega
    have hb : b + 1 - n = b - n + 1 := by omega
    have hread := ih (by omega) hj hnext hrest
    rw [hb] at hread
    have hclosing := Reads.cons (by omega)
      (hlast.of_slice (n := n) (m := m) (by omega) (by simp only [List.length_singleton]; omega)) hread
    have hchild := ihc (by omega) (by omega) hmiddle hclosing
    rw [ha] at hchild
    have hopening := Reads.cons (by omega)
      (hfirst.of_slice (n := n) (m := m) (by omega) (by simp only [List.length_singleton]; omega)) hchild
    refine Reads.of_gapRun (j := a - n) (by omega) (by omega) ?_ ?_
    · rwa [slice_slice hn (by omega)]
    rw [Tree.recountAll, Tree.recount, Tree.allMarks_group_append]
    subst hspan
    simpa only [Span.between, hb, Nat.add_sub_cancel, List.length_singleton] using hopening

end Fills

end Piece

/-! ### Rows of a template -/

section Rows

variable {settings : Settings} {source : List Char} {ts row run : List Tree}

/-- **A run of siblings** fills the piece of source from its first token to its last. -/
theorem Tree.IsRow.fills_run (hrow : IsRow ts row) (hts : Fills source 0 ts source.length)
    (hrun : run <:+: row) (hne : run ≠ []) :
    Fills source (run.head hne).span.startPos run (run.getLast hne).span.stopPos := by
  obtain ⟨i, j, hfills⟩ : ∃ i j, Fills source i row j := by
    rcases hrow with rfl | ⟨d, span, hmem⟩
    · exact ⟨_, _, hts⟩
    · obtain ⟨a, b, -, -, -, hfills⟩ := hts.group_inv hmem
      exact ⟨_, _, hfills⟩
  obtain ⟨before, after, rfl⟩ := hrun
  obtain ⟨k, hfills, -⟩ := hfills.append_inv
  obtain ⟨k', -, hfills⟩ := hfills.append_inv
  -- the last token of the run ends it
  have hlast {i : Nat} {us : List Tree} (hus : us ≠ []) (h : Fills source i us k) :
      TokenTemplate.lastStop i (allMarks us) = (us.getLast hus).span.stopPos := by
    induction us using List.reverseRecOn with
    | nil => exact absurd rfl hus
    | append_singleton us u =>
      rw [allMarks_concat, List.getLast_concat, TokenTemplate.lastStop, List.foldl_append]
      cases u with
      | leaf l => rfl
      | group d children s => rw [marks, List.foldl_cons, List.foldl_append]; rfl
  obtain ⟨t, us, rfl⟩ := List.exists_cons_of_ne_nil hne
  have hhead := hfills.from_head
  rw [← hlast hne hhead]
  exact hhead.to_lastStop

/-- **A run of sibling tokens is read by itself as it was in the template**: the text that it is cut out
as gives the same tokens, with their offsets less the first one and the places of these. -/
theorem Region.ofSource_textOf {r : Region} (h : Region.ofSource settings source = .ok r)
    (hrow : Tree.IsRow r.tokens row) (hrun : run <:+: row) (hne : run ≠ []) :
    let piece := (r.textOf run).toList
    let n := (run.head hne).span.startPos
    Tree.ofSource settings piece = .ok (Tree.recountAll piece n run) ∧
      piece = slice source n (run.getLast hne).span.stopPos ∧
      ∀ t ∈ Tree.allParts run, n ≤ t.span.startPos ∧ t.span.stopPos ≤ n + piece.length := by
  obtain ⟨ts, hts, rfl⟩ : ∃ ts, Tree.ofSource settings source = .ok ts ∧
      r = ⟨source, settings, .ofSource source, false, ts⟩ := by
    obtain ⟨ts, hts, hr⟩ := bind_eq_ok_iff.1 h
    exact ⟨ts, hts, (Except.ok.inj hr).symm⟩
  obtain ⟨hfills, hreads, hdepth⟩ := Tree.fills_of_ofSource hts
  have hpiece := hrow.fills_run hfills hrun hne
  have hle := hpiece.le
  have hstop := hpiece.stop_le
  intro piece n
  have htext : piece = slice source n (run.getLast hne).span.stopPos := by
    simp only [piece, textOf, List.head?_eq_some_head hne, List.getLast?_eq_some_getLast hne,
      String.toList_ofList]
    rfl
  have hlength : piece.length = (run.getLast hne).span.stopPos - n := by
    rw [htext, length_slice hstop]
  -- what holds of the source holds of the row, and so of the run
  obtain ⟨hmarks, hroom⟩ : Tree.allMarks row ⊆ Tree.allMarks ts ∧
      Tree.anyTooDeep? settings.maxDepth row = none := by
    rcases hrow with rfl | ⟨d, span, hmem⟩
    · exact ⟨List.Subset.refl _, hdepth⟩
    · obtain ⟨hsub, hinner⟩ := Tree.inside_of_mem_allParts _ hmem
      exact ⟨hsub, hinner hdepth⟩
  have hrunmarks : Tree.allMarks run ⊆ Tree.allMarks row := by
    obtain ⟨before, after, rfl⟩ := hrun
    rw [Tree.allMarks_append, Tree.allMarks_append]
    exact fun k hk => List.mem_append_left _ (List.mem_append_right _ hk)
  have hrunroom : Tree.anyTooDeep? settings.maxDepth run = none :=
    Tree.anyTooDeep?_eq_none_iff.2 fun t ht =>
      Tree.anyTooDeep?_eq_none_iff.1 hroom t (hrun.subset ht)
  refine ⟨?_, htext, fun t ht => ?_⟩
  · have hfilled := hpiece.recount le_rfl le_rfl hstop
    have hdone : Reads piece ((run.getLast hne).span.stopPos - n) [] none := by
      rw [← hlength]
      exact .done
    have hread := hpiece.reads_recount le_rfl le_rfl hstop
      (fun k hk => hreads.begins k (hmarks (hrunmarks hk))) (htext ▸ hdone)
    rw [← htext, Nat.sub_self, ← hlength] at hfilled
    rw [← htext, Nat.sub_self, List.append_nil] at hread
    exact Tree.ofSource_of_fills hfilled hread (by rwa [Tree.anyTooDeep?_recountAll])
  · have hin := hpiece.mem_allParts_span t ht
    omega

/-- A quote and a word inside a group: in the source a delimiter and another quote follow, in the piece
nothing does. -/
theorem Region.ofSource_textOf_quote :
    let row : List Tree := [.leaf ⟨.name, "b", ⟨⟨2, 2⟩, ⟨2, 3⟩, 2, 3⟩⟩,
      .leaf ⟨.punct, "'", ⟨⟨2, 4⟩, ⟨2, 5⟩, 4, 5⟩⟩, .leaf ⟨.name, "c", ⟨⟨2, 5⟩, ⟨2, 6⟩, 5, 6⟩⟩]
    ∃ r, Region.ofSource {} "\n(b 'c)'".toList = .ok r ∧ Tree.IsRow r.tokens row ∧
      row.tail <:+: row ∧ r.textOf row.tail = "'c" ∧
      Tree.ofSource {} "'c".toList = .ok [.leaf ⟨.punct, "'", ⟨⟨1, 1⟩, ⟨1, 2⟩, 0, 1⟩⟩,
        .leaf ⟨.name, "c", ⟨⟨1, 2⟩, ⟨1, 3⟩, 1, 2⟩⟩] := by
  intro row
  have h : Region.ofSource {} "\n(b 'c)'".toList =
      .ok ⟨"\n(b 'c)'".toList, {}, ⟨⟨1, 1⟩, ⟨2, 8⟩, 0, 8⟩, false,
        [.group .parenthesis row ⟨⟨2, 1⟩, ⟨2, 7⟩, 1, 7⟩, .leaf ⟨.punct, "'", ⟨⟨2, 7⟩, ⟨2, 8⟩, 7, 8⟩⟩]⟩ := by
    cbv
  have hrow : Tree.IsRow [.group .parenthesis row ⟨⟨2, 1⟩, ⟨2, 7⟩, 1, 7⟩,
      .leaf ⟨.punct, "'", ⟨⟨2, 7⟩, ⟨2, 8⟩, 7, 8⟩⟩] row := .inr ⟨_, _, List.mem_cons_self⟩
  have hrun : row.tail <:+: row := (List.tail_suffix row).isInfix
  obtain ⟨hpiece, -, -⟩ := Region.ofSource_textOf h hrow hrun (List.cons_ne_nil _ _)
  exact ⟨_, h, hrow, hrun, by cbv, hpiece.trans (congrArg Except.ok (by cbv))⟩

end Rows

end TokenTemplate
