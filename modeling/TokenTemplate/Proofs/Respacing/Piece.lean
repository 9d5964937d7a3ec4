import TokenTemplate.Proofs.Respacing.Region

/-!
# Interpolation blocks whose white space has been kept

The white space inside an interpolation block is a part of its text, so here all of it has been left
as it was. The pieces of the block then correspond, `TokenTemplate.Respacing.Pieces`: they stand for
the same apart from places, and what stands between them is the same. Hence so are the segments that
they make up (`TokenTemplate.Respacing.exists_segments`).
-/

namespace TokenTemplate

/-- What a piece stands for, without the place of a site. -/
def PieceContent.bare : PieceContent → PieceContent
  | .text s => .text s
  | .site e => .site e.bare

/-- The segments after a piece, with the gap before them. -/
def Segment.afterPiece (source : List Char) (p : Piece) : List Piece → List Segment
  | [] => []
  | q :: ps => addText (gap source p.stop q.start) (ofPieces source (q :: ps))

theorem Segment.ofPieces_cons (source : List Char) (p : Piece) (ps : List Piece) :
    ofPieces source (p :: ps) =
      match p.content with
      | .text s => addText s (afterPiece source p ps)
      | .site e => .site e :: afterPiece source p ps := by
  cases ps <;> rfl

/-- A text before some segments has no place. -/
theorem Segment.map_bare_addText (text : String) (segments : List Segment) :
    (addText text segments).map bare = addText text (segments.map bare) := by
  rcases segments with _ | ⟨text' | e, segments⟩
  · rw [addText, List.map_nil, addText]
    split <;> rfl
    all_goals nofun
  · rfl
  · rw [List.map_cons, bare]
    change (if text.isEmpty then _ else _ : List Segment).map bare = if text.isEmpty then _ else _
    split <;> rfl

namespace Respacing

variable (ρ : Respacing)

/-- **Pieces that correspond**, from an offset of either text to another one. -/
inductive Pieces : Nat → Nat → List Piece → List Piece → Nat → Nat → Prop
  /-- A gap that has been kept. -/
  | nil {i i' j j' : Nat} (hij : i ≤ j) (hij' : i' ≤ j')
      (hgap : slice ρ.source' i' j' = slice ρ.source i j) : Pieces i i' [] [] j j'
  /-- A gap that has been kept, and a piece that stands for the same. -/
  | cons {i i' j j' : Nat} {p p' : Piece} {ps ps' : List Piece} (hi : i ≤ p.start)
      (hi' : i' ≤ p'.start) (hgap : slice ρ.source' i' p'.start = slice ρ.source i p.start)
      (hcontent : p'.content.bare = p.content.bare) (h : Pieces p.stop p'.stop ps ps' j j') :
      Pieces i i' (p :: ps) (p' :: ps') j j'

/-- What begins a block, in both texts. -/
inductive Sightings : Nat → Nat → Piece.Sighting → Piece.Sighting → Nat → Nat → Prop
  /-- A piece. -/
  | piece {a a' b b' : Nat} {content content' : PieceContent}
      (hcontent : content'.bare = content.bare) :
      Sightings a a' (.piece ⟨a, b, content⟩) (.piece ⟨a', b', content'⟩) b b'
  /-- A group. -/
  | group {a a' b b' : Nat} {d : Delimiter} {r r' : Region} (hsource : r.source = ρ.source)
      (hsource' : r'.source = ρ.source') (hsettings : r'.settings = r.settings)
      (hspan : r.span = .between ρ.source a (b + 1))
      (hspan' : r'.span = .between ρ.source' a' (b' + 1)) (hopen : ρ.source[a]? = some d.openChar)
      (hrow : ρ.Row (a + 1) (a' + 1) r.tokens r'.tokens b b') :
      Sightings a a' (.group d r) (.group d r') (b + 1) (b' + 1)

/-- The gaps between two offsets have been left as they were. -/
def KeepsFrom (i j : Nat) : Prop :=
  ∀ p q, i ≤ p → q ≤ j → ρ.kept p q

variable {ρ} {i i' j j' k k' : Nat} {r r' : Region} {t : Tree} {ts ts' rest : List Tree}
  {ps ps' qs qs' : List Piece}

/-! ### Pieces -/

/-- A gap before some pieces. -/
theorem Pieces.gap_left (hik : i ≤ k) (hik' : i' ≤ k')
    (hgap : slice ρ.source' i' k' = slice ρ.source i k) (h : ρ.Pieces k k' ps ps' j j') :
    ρ.Pieces i i' ps ps' j j' := by
  cases h with
  | nil hkj hkj' hgap' =>
    exact .nil (hik.trans hkj) (hik'.trans hkj') (slice_eq_of_parts hik hkj hik' hkj' hgap hgap')
  | cons hi hi' hgap' hcontent h =>
    exact .cons (hik.trans hi) (hik'.trans hi') (slice_eq_of_parts hik hi hik' hi' hgap hgap')
      hcontent h

theorem Pieces.append (h : ρ.Pieces i i' ps ps' k k') (h' : ρ.Pieces k k' qs qs' j j') :
    ρ.Pieces i i' (ps ++ qs) (ps' ++ qs') j j' := by
  induction h with
  | nil hij hij' hgap => exact h'.gap_left hij hij' hgap
  | cons hi hi' hgap hcontent _ ih => exact .cons hi hi' hgap hcontent (ih h')

/-- **What begins a block** is the same in both texts, and so is the rest of the block. -/
theorem exists_sighting {s : Piece.Sighting} (hsource : r.source = ρ.source)
    (hsource' : r'.source = ρ.source') (hsettings : r'.settings = r.settings)
    (htakes : Piece.Takes r (t :: ts) s rest) (hrow : ρ.Row i i' (t :: ts) ts' j j')
    (hkeeps : ρ.KeepsFrom i j) :
    ∃ t' us' s' rest' a a' b b', ts' = t' :: us' ∧ Piece.Takes r' (t' :: us') s' rest' ∧
      i ≤ a ∧ i' ≤ a' ∧ slice ρ.source' i' a' = slice ρ.source i a ∧ ρ.Sightings a a' s s' b b' ∧
      a ≤ b ∧ ρ.Row b b' rest rest' j j' := by
  obtain ⟨t', us', a, a', b, b', rfl, hgap, ht, hrest⟩ := hrow.head
  have hlt := ht.lt
  have hia := hgap.le
  have hbj := hrest.fills.le
  have hsame := hgap.slice_eq (hkeeps i a le_rfl (by omega))
  obtain ⟨hspan, hspan'⟩ := ht.span_eq
  have hsigil := (Tree.isShaped_isPunct sigil).eq_of_shape_eq ht.shape_eq
  -- the tokens that a piece takes correspond one by one, and the gaps before them are kept
  cases htakes with
  | @escape _ u _ htp hu htouch =>
    obtain ⟨u', us', c, c', d, d', rfl, hgap', hut, hmore⟩ := hrest.head
    obtain ⟨huspan, huspan'⟩ := hut.span_eq
    have htouches := ht.touches_eq hgap' hut hmore
    have hu' := (Tree.isShaped_isPunct sigil).eq_of_shape_eq hut.shape_eq
    have hlt' := hut.lt
    have hgle := hgap'.le
    refine ⟨t', _, _, _, a, a', d, d', rfl,
      .escape (hsigil.trans htp) (hu'.trans hu) (htouches.trans htouch), hgap.le, hgap.le', hsame,
      ?_,
      by omega, hmore⟩
    rw [hspan, hspan', huspan, huspan']
    exact .piece rfl
  | @name _ l _ e htp hl hblock hsite =>
    obtain ⟨u', us', c, c', d, d', rfl, hgap', hut, hmore⟩ := hrest.head
    obtain ⟨huspan, huspan'⟩ := hut.span_eq
    have hlt' := hut.lt
    have hgle := hgap'.le
    have hhead := hmore.head_any_eq (Tree.isShaped_isGroup .parenthesis)
    obtain ⟨-, hplaces⟩ := Expression.ofSource_eq_ok hsite
    obtain ⟨e', hsite', hbare⟩ := hplaces (t'.span.join u'.span)
    rw [← hsettings] at hsite'
    cases hut with
    | leaf =>
      refine ⟨t', _, _, _, a, a', d, d', rfl,
        .name (hsigil.trans htp) hl (fun htext => hhead.trans (hblock htext)) hsite', hgap.le,
        hgap.le', hsame, ?_, by omega, hmore⟩
      rw [Tree.span] at huspan huspan'
      rw [hspan, hspan', huspan, huspan']
      exact .piece (congrArg PieceContent.site hbare)
  | @payload _ children span _ e htp hne hsite =>
    obtain ⟨u', us', c, c', d, d', rfl, hgap', hut, hmore⟩ := hrest.head
    have hdj := hmore.fills.le
    have hgle := hgap'.le
    obtain ⟨-, hplaces⟩ := Expression.ofSource_eq_ok hsite
    obtain ⟨e', hsite', hbare⟩ := hplaces (t'.span.join u'.span)
    cases hut with
    | group _ _ _ _ hs hs' hchildren =>
      obtain ⟨m, m', n, n', hm, hn, hinner, hruns, hruns'⟩ := hchildren.exists_runs hne
      have hmn := hinner.fills.le
      -- the payload is the text between the brackets, which lies inside the block
      have hinside : ρ.Keeps (.between ρ.source m n) := fun p q (hp : m ≤ p) (hq : q ≤ n) =>
        hkeeps p q (by omega) (by omega)
      have htext := textOf_eq_of_keeps hinner hruns hruns' hsource hsource' hinside
      have hne' := hchildren.ne_nil hne
      have hread := (congrArg (Expression.ofSource r.settings · _) htext).trans hsite'
      rw [← hsettings] at hread
      refine ⟨t', _, _, _, a, a', _, _, rfl, .payload (hsigil.trans htp) hne' hread, hgap.le,
        hgap.le', hsame, ?_, by omega, hmore⟩
      rw [hspan, hspan', hs, hs']
      exact .piece (congrArg PieceContent.site hbare)
  | plain halone =>
    refine ⟨t', _, _, _, a, a', b, b', rfl, .plain (hrow.standsAlone_eq.trans halone), hgap.le,
      hgap.le', hsame, ?_, by omega, hrest⟩
    cases ht with
    | leaf _ _ _ _ _ hs hs' =>
      rw [Piece.plain, Piece.plain, hs, hs']
      exact .piece rfl
    | group hopen _ _ _ hs hs' hchildren =>
      exact .group hsource hsource' hsettings hs hs' hopen hchildren

/-- **What gives pieces gives corresponding ones** for a kept piece of text. -/
def KeepsPieces (ρ : Respacing) (inner : Region → Except SyntaxError (List Piece)) : Prop :=
  ∀ {i i' j j' : Nat} {r r' : Region} {ps : List Piece}, r.source = ρ.source →
    r'.source = ρ.source' → r'.settings = r.settings → ρ.Row i i' r.tokens r'.tokens j j' →
    ρ.KeepsFrom i j → inner r = .ok ps → ∃ ps', inner r' = .ok ps' ∧ ρ.Pieces i i' ps ps' j j'

theorem KeepsFrom.mono (h : ρ.KeepsFrom i j) (hi : i ≤ i') (hj : j' ≤ j) : ρ.KeepsFrom i' j' :=
  fun p q hp hq => h p q (hi.trans hp) (hq.trans hj)

/-- The pieces of a kept row of tokens. -/
theorem exists_lists {inner : Region → Except SyntaxError (List Piece)}
    (hinner : ρ.KeepsPieces inner)
    (hsource : r.source = ρ.source) (hsource' : r'.source = ρ.source')
    (hsettings : r'.settings = r.settings) (h : Piece.Lists inner r ts ps)
    (hrow : ρ.Row i i' ts ts' j j') (hkeeps : ρ.KeepsFrom i j) :
    ∃ ps', Piece.Lists inner r' ts' ps' ∧ ρ.Pieces i i' ps ps' j j' := by
  -- by induction on the rules, each of which takes what both rows begin with
  induction h generalizing i i' ts' with
  | nil =>
    obtain ⟨rfl, hgap⟩ := hrow.nil_inv
    exact ⟨[], .nil, .nil hgap.le hgap.le' (hgap.slice_eq (hkeeps i j le_rfl le_rfl))⟩
  | piece htakes _ ih =>
    obtain ⟨t', us', s', rest', a, a', b, b', rfl, htakes', hia, hia', hgap, hs, hab, hrest⟩ :=
      exists_sighting hsource hsource' hsettings htakes hrow hkeeps
    cases hs with
    | piece hcontent =>
      obtain ⟨ps', hlists, hpieces⟩ := ih hrest (hkeeps.mono (hia.trans hab) le_rfl)
      exact ⟨_, .piece htakes' hlists, .cons hia hia' hgap hcontent hpieces⟩
  | group htakes hwithin _ ih =>
    obtain ⟨t', us', s', rest', a, a', b, b', rfl, htakes', hia, hia', hgap, hs, hab, hrest⟩ :=
      exists_sighting hsource hsource' hsettings htakes hrow hkeeps
    cases hs with
    | group hin hin' hset hspan hspan' _ hchildren =>
      obtain ⟨ps', hlists, hpieces⟩ := ih hrest (hkeeps.mono (hia.trans hab) le_rfl)
      have hle := hrest.fills.le
      obtain ⟨within', hwithin', hinside⟩ := hinner hin hin' hset hchildren
        (hkeeps.mono (by omega) (by omega)) hwithin
      refine ⟨_, .group htakes' hwithin' hlists, ?_⟩
      rw [hspan, hspan']
      -- the first delimiter, the inside, and the second delimiter before the rest
      refine .cons hia hia' hgap rfl (hinside.append (.cons ?_ ?_ ?_ rfl hpieces))
      · exact le_rfl
      · exact le_rfl
      · simp only [Span.between, Nat.add_sub_cancel]
        rw [slice_self, slice_self]

theorem keepsPieces_ofRegion (ρ : Respacing) (room : Nat) :
    ρ.KeepsPieces (Piece.ofRegion room) := by
  induction room with
  | zero =>
    intro i i' j j' r r' ps hsource hsource' hsettings hrow hkeeps h
    have hinner : ρ.KeepsPieces fun g =>
        .error (g.errorAt (.tooDeep g.settings.maxDepth) g.span) :=
      fun _ _ _ _ _ h => absurd h error_ne_ok
    obtain ⟨ps', hlists, hpieces⟩ := exists_lists hinner hsource hsource' hsettings
      (Piece.ofTokens_eq_ok_iff.1 h) hrow hkeeps
    exact ⟨ps', Piece.ofTokens_eq_ok_iff.2 hlists, hpieces⟩
  | succ room ih =>
    intro i i' j j' r r' ps hsource hsource' hsettings hrow hkeeps h
    obtain ⟨ps', hlists, hpieces⟩ := exists_lists ih hsource hsource' hsettings
      (Piece.ofTokens_eq_ok_iff.1 h) hrow hkeeps
    exact ⟨ps', Piece.ofTokens_eq_ok_iff.2 hlists, hpieces⟩

/-! ### Segments -/

/-- **Corresponding pieces make up the same segments**, apart from places. -/
theorem Pieces.map_bare_ofPieces (h : ρ.Pieces i i' ps ps' j j') :
    (Segment.ofPieces ρ.source' ps').map Segment.bare =
      (Segment.ofPieces ρ.source ps).map Segment.bare := by
  induction h with
  | nil => rfl
  | @cons i i' j j' p p' ps ps' hi hi' hgap hcontent h ih =>
    have hrest : (Segment.afterPiece ρ.source' p' ps').map Segment.bare =
        (Segment.afterPiece ρ.source p ps).map Segment.bare := by
      cases h with
      | nil => rfl
      | @cons _ _ _ _ q q' qs qs' _ _ hgap' _ _ =>
        have hsame : Segment.gap ρ.source' p'.stop q'.start =
            Segment.gap ρ.source p.stop q.start := by
          rw [slice, slice] at hgap'
          rw [Segment.gap, Segment.gap, hgap']
        rw [Segment.afterPiece, Segment.afterPiece, Segment.map_bare_addText,
          Segment.map_bare_addText, hsame, ih]
    rw [Segment.ofPieces_cons, Segment.ofPieces_cons]
    revert hcontent
    cases p.content with
    | text s =>
      intro hcontent
      cases hcontent' : p'.content with
      | text s' =>
        rw [hcontent'] at hcontent
        obtain rfl := PieceContent.text.inj hcontent
        simp only [Segment.map_bare_addText, hrest]
      | site e' =>
        rw [hcontent'] at hcontent
        exact PieceContent.noConfusion hcontent
    | site e =>
      intro hcontent
      cases hcontent' : p'.content with
      | text s' =>
        rw [hcontent'] at hcontent
        exact PieceContent.noConfusion hcontent
      | site e' =>
        rw [hcontent'] at hcontent
        simp only [List.map_cons, hrest, Segment.bare, PieceContent.site.inj hcontent]

/-- **The segments of a block whose white space has been kept.** -/
theorem exists_segments {room : Nat} {segments : List Segment} (r r' : Region)
    (hsource : r.source = ρ.source) (hsource' : r'.source = ρ.source')
    (hsettings : r'.settings = r.settings) (hrow : ρ.Row i i' r.tokens r'.tokens j j')
    (hkeeps : ρ.KeepsFrom i j)
    (h : Segment.ofRegion room r = .ok segments) :
    ∃ segments', Segment.ofRegion room r' = .ok segments' ∧
      segments'.map Segment.bare = segments.map Segment.bare := by
  obtain ⟨ps, hps, h⟩ := bind_eq_ok_iff.1 h
  obtain rfl := Except.ok.inj h
  obtain ⟨ps', hps', hpieces⟩ :=
    keepsPieces_ofRegion ρ room hsource hsource' hsettings hrow hkeeps hps
  refine ⟨_, bind_eq_ok_iff.2 ⟨ps', hps', rfl⟩, ?_⟩
  rw [hsource, hsource']
  exact hpieces.map_bare_ofPieces

end Respacing

end TokenTemplate
