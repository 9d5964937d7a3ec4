import TokenTemplate.Proofs.Escape.Doubling
import TokenTemplate.Proofs.Escape.Verbatim

/-!
# Compiling a doubled text

A doubled text has nothing in it that a sigil could begin but a doubled sigil, so all its constructs
are tokens and groups, and the encoder writes the items of its words and nothing else
(`TokenTemplate.Body.placeAll_doubled`). The white space before a word is decided by places of the
doubled text, but gaps are the same there as in the text itself
(`TokenTemplate.spacing?_ofDoubled`).

Groups are compiled one level further in. There are enough levels since the text has passed the same
bound when it was read, unless not even the outermost level is allowed.
-/

namespace TokenTemplate

variable {source : List Char} {i j a b : Nat} {ts : List Tree}

/-! ### Spacing -/

/-- The place in the doubled text of an offset of the text. -/
def Position.ofDoubled (source : List Char) (n : Nat) : Position :=
  .ofOffset (doubled source) (doubledOffset source n)

theorem spacing?_ofDoubled (h : a ≤ b) (hgap : IsGapRun (slice source a b)) :
    spacing? (.ofDoubled source a) (.ofDoubled source b) =
      Whitespace.ofGap? (slice source a b) := by
  rw [Position.ofDoubled, Position.ofDoubled, Position.ofOffset_slice (doubledOffset_mono h),
    spacing?_advanceAll, slice_doubled_of_isGapRun h hgap]

/-- **An encoder stands at the end of a word** that ends at an offset, or at the beginning of
everything. -/
def Encoder.StandsAt (source : List Char) (e : Encoder) (last : Option Nat) (i : Nat) : Prop :=
  e.last.or e.before = last.map (Position.ofDoubled source) ∧ ∀ p ∈ last, p = i

/-- The white space before a word of a doubled text. -/
theorem Encoder.StandsAt.spaceItems_eq {e : Encoder} {last : Option Nat}
    (h : e.StandsAt source last i) (hi : i ≤ a) (hgap : IsGapRun (slice source i a)) (w : Word)
    (hw : w.start = a) :
    e.spaceItems (.ofDoubled source a) = (w.gap? source last).toList.map .space := by
  obtain ⟨hplace, hlast⟩ := h
  rw [spaceItems, hplace]
  cases last with
  | none => rfl
  | some p =>
    obtain rfl := hlast p rfl
    rw [Option.map_some, Option.bind_some, spacing?_ofDoubled hi hgap, Word.gap?, Option.bind_some,
      hw]

theorem Encoder.Wrote.standsAt {e e' : Encoder} {items : List Item} {opened : List Delimiter}
    {n : Nat} (h : e.Wrote e' items (some (.ofDoubled source n)) opened) :
    e'.StandsAt source (some n) n :=
  ⟨h.place_eq, fun _ hp => (Option.some.inj hp).symm⟩

/-- A token has been written, and then the rest of its row. -/
theorem Encoder.Wrote.row {e e₁ e₂ : Encoder} {t : Tree} {last : Option Nat} {braces : Nat}
    (h : e.Wrote e₁ (itemsFrom source last (t.words braces))
      (some (.ofDoubled source t.span.stopPos)) e.opened)
    (h' : e₁.Wrote e₂ (itemsFrom source (some t.span.stopPos) (Tree.allWords braces ts))
      ((lastOf (some t.span.stopPos) (Tree.allWords braces ts)).map (Position.ofDoubled source))
      e₁.opened) :
    e.Wrote e₂ (itemsFrom source last (Tree.allWords braces (t :: ts)))
      ((lastOf last (Tree.allWords braces (t :: ts))).map (Position.ofDoubled source))
      e.opened := by
  rw [Tree.allWords, itemsFrom_append, lastOf_append, lastOf_words, ← h.opened_eq]
  exact h.trans h'

/-- The place after a character that is no sigil and no line feed. -/
theorem right_ofDoubled {c : Char} (hc : source[a]? = some c) (hsigil : c ≠ sigil)
    (hline : c ≠ '\n') :
    (Position.ofDoubled source a).right = .ofDoubled source (a + 1) := by
  rw [Position.ofDoubled, Position.ofDoubled, doubledOffset_succ hc hsigil]
  exact Position.right_ofOffset (getElem?_doubled hc) hline

theorem left_ofDoubled_succ {c : Char} (hc : source[a]? = some c) (hsigil : c ≠ sigil)
    (hline : c ≠ '\n') :
    (Position.ofDoubled source (a + 1)).left = .ofDoubled source a := by
  rw [Position.ofDoubled, Position.ofDoubled, doubledOffset_succ hc hsigil]
  exact Position.left_ofOffset_succ (getElem?_doubled hc) hline

/-- The cursor of the opening delimiter of a group. -/
theorem firstCharacter_ofDoubled {d : Delimiter} (hopen : source[a]? = some d.openChar)
    (stop : Nat) :
    (Span.between (doubled source) (doubledOffset source a) stop).cursor.firstCharacter =
      ⟨.ofDoubled source a, .ofDoubled source (a + 1)⟩ := by
  rw [← right_ofDoubled hopen (openChar_ne_sigil d) (by cases d <;> decide)]
  rfl

/-- The cursor of the closing delimiter of a group. -/
theorem lastCharacter_ofDoubled {d : Delimiter} (hclose : source[b]? = some d.closeChar)
    (start : Nat) :
    (Span.between (doubled source) start (doubledOffset source (b + 1))).cursor.lastCharacter =
      ⟨.ofDoubled source b, .ofDoubled source (b + 1)⟩ := by
  rw [← left_ofDoubled_succ hclose (closeChar_ne_sigil d) (by cases d <;> decide)]
  rfl

/-- The cursor of two sigils that touch. -/
theorem join_cursor_between {n : Nat} (h : n + 1 + 1 ≤ source.length) :
    (Span.between source n (n + 1)).cursor.join (Span.between source (n + 1) (n + 1 + 1)).cursor =
      ⟨.ofOffset source n, .ofOffset source (n + 1 + 1)⟩ := by
  have hstart : (Position.ofOffset source (n + 1)).before (.ofOffset source n) = false := by
    rw [Bool.eq_false_iff]
    intro hbefore
    have hlt := (Position.before_ofOffset_iff (by omega) (by omega)).1 hbefore
    omega
  have hstop : (Position.ofOffset source (n + 1)).before (.ofOffset source (n + 1 + 1)) = true :=
    Position.before_ofOffset (Nat.lt_succ_self _) h
  rw [Cursor.join, Span.cursor, Span.cursor, Span.between, Span.between, Position.earlier,
    Position.later]
  simp only [hstart, hstop, if_true, Bool.false_eq_true, if_false]

/-! ### Constructs -/

namespace Construct

variable {r : Region} {t : Tree}

theorem sight_of_isPunct_eq_false (h : t.isPunct sigil = false) (ts : List Tree) :
    sight r t ts = .ok (plain r t, r.goOn ts) := by
  cases ts with
  | nil => rfl
  | cons u ts =>
    unfold sight
    rw [h]
    rfl

/-- **Two sigils that touch** stand for one. -/
theorem sight_sigilAt (source : List Char) (n : Nat) (ts : List Tree) :
    sight r (Tree.sigilAt source n) (Tree.sigilAt source (n + 1) :: ts) =
      .ok (.escape (.between source n (n + 1)) (.between source (n + 1) (n + 1 + 1)),
        r.goOn ts) := by
  have hpunct (n : Nat) : (Tree.sigilAt source n).isPunct sigil = true := by
    simp [Tree.sigilAt, Tree.isPunct]
  have htouches : (Tree.sigilAt source n).touches (Tree.sigilAt source (n + 1)) = true := by
    simp [Tree.sigilAt, Tree.touches, Tree.span, Span.between]
  unfold sight
  simp only [hpunct, htouches]
  rfl

end Construct

namespace Body

variable {body : Body} {inside : Inside} {room : Nat} {e : Encoder} {r r' : Region} {t : Tree}
  {c : Construct}

theorem placeAll_nil (body : Body) (inside : Inside) (room : Nat) (e : Encoder) (r : Region) :
    body.placeAll inside room false e r [] = .ok (e, r.goOn []) := by
  rw [placeAll]

/-- One construct after another. -/
theorem placeAll_cons {e' : Encoder} (hsight : Construct.sight r t ts = .ok (c, r'))
    (hplace : body.place inside room e r' c = .ok e') :
    body.placeAll inside room false e r (t :: ts) =
      body.placeAll inside room false e' r' r'.tokens := by
  rw [placeAll]
  simp only [Bool.false_and, Bool.false_eq_true, if_false]
  split
  · next err heq =>
    rw [hsight] at heq
    exact absurd heq (by simp)
  · next c₁ r₁ heq =>
    obtain ⟨rfl, rfl⟩ := Prod.mk.inj (Except.ok.inj (hsight.symm.trans heq))
    rw [hplace]
    rfl

/-- A token without parts is written as its word. -/
theorem write_token_doubled {last : Option Nat} {cursor : Cursor} {w : Word} {k : LeafKind}
    (he : e.StandsAt source last i) (hi : i ≤ w.start) (hgap : IsGapRun (slice source i w.start))
    (hkind : w.kind = .leaf k)
    (hcursor : cursor = ⟨.ofDoubled source w.start, .ofDoubled source w.stop⟩) (span : Span) :
    ∃ e', e.write span cursor (.token (String.ofList w.text)) = .ok e' ∧
      e.Wrote e' (itemsFrom source last [w]) (some (.ofDoubled source w.stop)) e.opened := by
  obtain ⟨e', hok, hwrote⟩ := e.write_token span cursor (String.ofList w.text)
  refine ⟨e', hok, ?_⟩
  rw [hcursor, he.spaceItems_eq hi hgap w rfl] at hwrote
  rw [itemsFrom_singleton, Word.items, hkind]
  exact hwrote

/-- A text without quotes has no string literals. -/
theorem kind_ne_string_of_spells {k : LeafKind} {text : List Char} (hquote : Unquoted text)
    (h : Spells (.leaf k) text) : k ≠ .string := by
  rintro rfl
  cases h
  exact hquote.1 List.mem_cons_self

/-- **A doubled sigil** is placed as the word of a sigil. -/
theorem placeAll_sigil {last : Option Nat} {k : LeafKind} (body : Body) (inside : Inside)
    (room : Nat) (r : Region) (he : e.StandsAt source last i) (hi : i ≤ a)
    (hgap : IsGapRun (slice source i a)) (hc : source[a]? = some sigil) (braces : Nat)
    (more : List Tree) :
    ∃ e', body.placeAll inside room false e r
        (Tree.sigilAt (doubled source) (doubledOffset source a) ::
          Tree.sigilAt (doubled source) (doubledOffset source a + 1) :: more) =
          body.placeAll inside room false e' (r.goOn more) more ∧
      e.Wrote e' (itemsFrom source last [⟨⟨.leaf k, [sigil], a, a + 1⟩, braces⟩])
        (some (.ofDoubled source (a + 1))) e.opened := by
  have hsucc := doubledOffset_succ_sigil hc
  obtain ⟨ha, -⟩ := List.getElem?_eq_some_iff.1 hc
  have hlen : doubledOffset source a + 1 + 1 ≤ (doubled source).length := by
    have hmono : doubledOffset source (a + 1) ≤ doubledOffset source source.length :=
      doubledOffset_mono ha
    rw [hsucc, doubledOffset_length] at hmono
    exact hmono
  have hcursor := join_cursor_between hlen
  have hstop : Position.ofOffset (doubled source) (doubledOffset source a + 1 + 1) =
      .ofDoubled source (a + 1) := by
    rw [Position.ofDoubled, hsucc]
  rw [hstop] at hcursor
  obtain ⟨e', hok, hwrote⟩ :=
    write_token_doubled (w := ⟨⟨.leaf k, [sigil], a, a + 1⟩, braces⟩) he hi hgap rfl hcursor
      ((Span.between (doubled source) (doubledOffset source a) (doubledOffset source a + 1)).join
        (.between (doubled source) (doubledOffset source a + 1) (doubledOffset source a + 1 + 1)))
  exact ⟨e', placeAll_cons (Construct.sight_sigilAt _ _ more) hok, hwrote⟩

/-- **A leaf** of a doubled text is placed as its word. -/
theorem placeAll_leaf {last : Option Nat} {l : Leaf} (body : Body) (inside : Inside) (room : Nat)
    (r : Region) (hquote : Unquoted source) (he : e.StandsAt source last i) (hi : i ≤ a)
    (hgap : IsGapRun (slice source i a)) (hspells : Spells (.leaf l.kind) l.text.toList)
    (hpre : l.text.toList <+: source.drop a) (hb : b = a + l.text.toList.length)
    (hspan : l.span = .between source a b) (braces : Nat) (more : List Tree) :
    ∃ e', body.placeAll inside room false e r (Tree.doubled source (.leaf l) ++ more) =
        body.placeAll inside room false e' (r.goOn more) more ∧
      e.Wrote e' (itemsFrom source last (Tree.words braces (.leaf l))) (some (.ofDoubled source b))
        e.opened := by
  have hstart : l.span.startPos = a := congrArg Span.startPos hspan
  have hstop : l.span.stopPos = b := congrArg Span.stopPos hspan
  have htext : String.ofList l.text.toList = l.text := String.ofList_toList
  rw [Tree.words, Tree.doubled]
  simp only [hstart, hstop]
  by_cases hsigil : l.text.toList = [sigil]
  · rw [hsigil] at hpre hb
    obtain rfl : b = a + 1 := hb
    rw [if_pos hsigil, hsigil]
    exact placeAll_sigil body inside room r he hi hgap (getElem?_of_singleton_isPrefix hpre) braces
      more
  · have hwrite := write_token_doubled (w := ⟨⟨.leaf l.kind, l.text.toList, a, b⟩, braces⟩) he hi
      hgap rfl rfl (.between (doubled source) (doubledOffset source a) (doubledOffset source b))
    rw [htext] at hwrite
    obtain ⟨e', hok, hwrote⟩ := hwrite
    refine ⟨e', ?_, hwrote⟩
    rw [if_neg hsigil, List.singleton_append]
    refine placeAll_cons (Construct.sight_of_isPunct_eq_false ?_ more) ?_
    · rw [Tree.isPunct, Bool.and_eq_false_iff]
      refine Or.inr (beq_eq_false_iff_ne.2 fun heq => hsigil ?_)
      rw [heq, Tree.toList_sigil]
    · have hstring := kind_ne_string_of_spells (hquote.of_isPrefix hpre) hspells
      rw [Construct.plain, place, if_neg hstring]
      exact hok

/-- **A group** of a doubled text is placed as its words, if its inside is compiled to the words of
its children. -/
theorem placeAll_group {last : Option Nat} {d : Delimiter} {children : List Tree} {span : Span}
    (body : Body) (inside : Inside) (room : Nat) (r : Region) (he : e.StandsAt source last i)
    (hi : i ≤ a) (hgap : IsGapRun (slice source i a)) (hopen : source[a]? = some d.openChar)
    (hclose : source[b]? = some d.closeChar) (hspan : span = .between source a (b + 1))
    (hchildren : Fills source (a + 1) children b) (braces : Nat) (more : List Tree)
    (hinside : ∀ (e₁ : Encoder) (g : Region), g.tokens = Tree.allDoubled source children →
      e₁.StandsAt source (some (a + 1)) (a + 1) →
      ∃ e₂ g', inside false e₁ g = .ok (e₂, g') ∧
        e₁.Wrote e₂ (itemsFrom source (some (a + 1))
            (Tree.allWords (Tree.bracesInside d braces) children))
          ((lastOf (some (a + 1)) (Tree.allWords (Tree.bracesInside d braces) children)).map
            (Position.ofDoubled source)) e₁.opened) :
    ∃ e', body.placeAll inside room false e r
        (Tree.doubled source (.group d children span) ++ more) =
          body.placeAll inside room false e' (r.goOn more) more ∧
      e.Wrote e' (itemsFrom source last (Tree.words braces (.group d children span)))
        (some (.ofDoubled source (b + 1))) e.opened := by
  have hstart : span.startPos = a := congrArg Span.startPos hspan
  have hstop : span.stopPos = b + 1 := congrArg Span.stopPos hspan
  -- the group as it stands in the doubled text
  let whole := Span.between (doubled source) (doubledOffset source a) (doubledOffset source (b + 1))
  have hfirst := firstCharacter_ofDoubled hopen (doubledOffset source (b + 1))
  have hfinal := lastCharacter_ofDoubled hclose (doubledOffset source a)
  -- its words
  let first : Word := ⟨⟨.opening d, [d.openChar], a, a + 1⟩, braces⟩
  let final : Word := ⟨⟨.closing d, [d.closeChar], b, b + 1⟩, braces⟩
  let inner := Tree.allWords (Tree.bracesInside d braces) children
  have hwords : Tree.words braces (.group d children span) = [first] ++ (inner ++ [final]) := by
    rw [Tree.words, hstart, hstop, Nat.add_sub_cancel]
    rfl
  obtain ⟨e₁, hok₁, hwrote₁⟩ := e.write_opening whole whole.cursor.firstCharacter d
  rw [hfirst, he.spaceItems_eq hi hgap first rfl] at hwrote₁
  obtain ⟨e₂, g', hok₂, hwrote₂⟩ :=
    hinside e₁ (r.inside (Tree.allDoubled source children) whole) rfl hwrote₁.standsAt
  -- the last word of the inside ends at `k`, and a gap is between it and the delimiter
  obtain ⟨k, hk⟩ := Option.ne_none_iff_exists'.1
    (lastOf_ne_none inner (Option.some_ne_none (a + 1)))
  obtain ⟨hkb, hgap'⟩ := hchildren.gap_after (Tree.bracesInside d braces)
    (fun p hp => (Option.some.inj hp).symm) k hk
  have he₂ : e₂.StandsAt source (lastOf (some (a + 1)) inner) k :=
    ⟨hwrote₂.place_eq, fun p hp => Option.some.inj (hp.symm.trans hk)⟩
  obtain ⟨e₃, hok₃, hwrote₃⟩ := Encoder.write_closing
    (hwrote₂.opened_eq.trans hwrote₁.opened_eq) whole whole.cursor.lastCharacter
  rw [hfinal, he₂.spaceItems_eq hkb hgap' final rfl] at hwrote₃
  refine ⟨e₃, ?_, ?_⟩
  · rw [Tree.doubled, hstart, hstop, List.singleton_append]
    refine placeAll_cons (Construct.sight_of_isPunct_eq_false rfl more) ?_
    rw [Construct.plain, place]
    change (e.write whole whole.cursor.firstCharacter (.opening d) >>= _) = _
    rw [hok₁]
    change (inside false e₁ (r.inside (Tree.allDoubled source children) whole) >>= _) = _
    rw [hok₂]
    exact hok₃
  · rw [hwords, itemsFrom_append, itemsFrom_append, itemsFrom_singleton, itemsFrom_singleton]
    exact hwrote₁.trans (hwrote₂.trans hwrote₃)

/-- **A doubled text is compiled to the items of its words.** -/
theorem placeAll_doubled {last : Option Nat} {room : Nat} {e : Encoder} (body : Body) (r : Region)
    (braces : Nat) (hquote : Unquoted source) (h : Fills source i ts j)
    (hdepth : Tree.anyTooDeep? room ts = none) (he : e.StandsAt source last i) :
    ∃ e', body.placeAll (levels body room) room false e r (Tree.allDoubled source ts) =
        .ok (e', r.goOn []) ∧
      e.Wrote e' (itemsFrom source last (Tree.allWords braces ts))
        ((lastOf last (Tree.allWords braces ts)).map (Position.ofDoubled source)) e.opened := by
  induction h generalizing last room e r braces with
  | nil => exact ⟨e, placeAll_nil _ _ _ _ _, .refl he.1⟩
  | @leaf i j a b l ts hi hgap hspells hpre hb hspan h ih =>
    rw [Tree.anyTooDeep?, Option.or_eq_none_iff] at hdepth
    obtain rfl : (Tree.leaf l).span.stopPos = b := congrArg Span.stopPos hspan
    obtain ⟨e₁, hok₁, hwrote₁⟩ := placeAll_leaf body (levels body room) room r hquote he hi hgap
      hspells hpre hb hspan braces (Tree.allDoubled source ts)
    obtain ⟨e₂, hok₂, hwrote₂⟩ := ih (r.goOn (Tree.allDoubled source ts)) braces hdepth.2
      hwrote₁.standsAt
    exact ⟨e₂, hok₁.trans hok₂, hwrote₁.row hwrote₂⟩
  | @group i j a b d children ts span hi hgap hopen hclose hspan hchildren h ihc ih =>
    rw [Tree.anyTooDeep?, Option.or_eq_none_iff] at hdepth
    obtain ⟨e₁, hok₁, hwrote₁⟩ : ∃ e₁, body.placeAll (levels body room) room false e r
        (Tree.doubled source (.group d children span) ++ Tree.allDoubled source ts) =
          body.placeAll (levels body room) room false e₁ (r.goOn (Tree.allDoubled source ts))
            (Tree.allDoubled source ts) ∧
        e.Wrote e₁ (itemsFrom source last (Tree.words braces (.group d children span)))
          (some (.ofDoubled source (b + 1))) e.opened := by
      have hroom := hdepth.1
      rw [Tree.tooDeep?] at hroom
      split at hroom
      · exact absurd hroom (Option.some_ne_none span)
      · -- the group was read within the bound, so there is a level for it
        next hlt =>
        obtain ⟨room, rfl⟩ : ∃ n, room = n + 1 := ⟨room - 1, by omega⟩
        have hless : ((room + 1 : Nat) : Int) - 1 = room := by omega
        rw [hless] at hroom
        refine placeAll_group body _ _ r he hi hgap hopen hclose hspan hchildren braces _
          fun e₁ g hg he₁ => ?_
        obtain ⟨e₂, hok₂, hwrote₂⟩ := ihc g (Tree.bracesInside d braces) hroom he₁
        refine ⟨e₂, g.goOn [], ?_, hwrote₂⟩
        rw [← hg] at hok₂
        exact hok₂
    have hstop : b + 1 = (Tree.group d children span).span.stopPos :=
      (congrArg Span.stopPos hspan).symm
    obtain ⟨e₂, hok₂, hwrote₂⟩ := ih (r.goOn (Tree.allDoubled source ts)) braces hdepth.2
      hwrote₁.standsAt
    rw [hstop] at hwrote₁ hwrote₂
    exact ⟨e₂, hok₁.trans hok₂, hwrote₁.row hwrote₂⟩

end Body

end TokenTemplate
