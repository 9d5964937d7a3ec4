import TokenTemplate.Proofs.Grammar.Body
import TokenTemplate.Proofs.Routine.Bare
import TokenTemplate.Proofs.Token.Lossless

/-!
# Every token in one element

An encoder is handed a region, and records an element for each construct of it. Which tokens each
element stands for is said by `TokenTemplate.Covers`, token by token: a token by itself or what a
sigil takes is one element, and a group is one element for each delimiter with those of its inside
between them. Compiling records just such elements, at every depth (`TokenTemplate.levels_covers`).

This is a matter of tokens alone. Where the elements stand follows from where the tokens do: if the
tokens fill a piece of source, the cursors of the elements follow each other in it, and every leaf
and every delimiter of the tokens lies in exactly one of them (`TokenTemplate.Covers.holds`).
-/

namespace TokenTemplate

/-! ### Elements for tokens -/

/-- **Elements that cover a row of tokens**, one after another. -/
inductive Covers : List Tree → List Element → Prop
  /-- There are no more. -/
  | nil : Covers [] []
  /-- A token without parts, by itself. -/
  | token {l : Leaf} {x : Element} {ts : List Tree} {xs : List Element}
      (hcursor : x.cursor = l.span.cursor) (h : Covers ts xs) : Covers (.leaf l :: ts) (x :: xs)
  /-- A sigil and up to three tokens after it, from the first to the last. -/
  | sigil {t u : Tree} {between ts : List Tree} {x : Element} {xs : List Element}
      (ht : t.isPunct sigil = true) (hlength : between.length ≤ 2)
      (hcursor : x.cursor = t.span.cursor.join u.span.cursor) (h : Covers ts xs) :
      Covers (t :: (between ++ u :: ts)) (x :: xs)
  /-- A group, with an element for each of its delimiters around those that cover its inside. -/
  | group {d : Delimiter} {children ts : List Tree} {span : Span} {x y : Element}
      {within xs : List Element} (hopening : x.node = .opening d)
      (hfirst : x.cursor = span.cursor.firstCharacter) (hchildren : Covers children within)
      (hclosing : y.node = .closing d) (hlast : y.cursor = span.cursor.lastCharacter)
      (h : Covers ts xs) : Covers (.group d children span :: ts) (x :: (within ++ y :: xs))

theorem Covers.append {ts us : List Tree} {xs ys : List Element} (h : Covers ts xs)
    (h' : Covers us ys) : Covers (ts ++ us) (xs ++ ys) := by
  induction h with
  | nil => exact h'
  | token hcursor _ ih => exact .token hcursor ih
  | sigil ht hlength hcursor _ ih =>
    rw [List.cons_append, List.append_assoc]
    exact .sigil ht hlength hcursor ih
  | group hopening hfirst hchildren hclosing hlast _ _ ih =>
    rw [List.cons_append, List.cons_append, List.append_assoc]
    exact .group hopening hfirst hchildren hclosing hlast ih

/-! ### What is recorded -/

/-- The tokens that a body takes go on: no comma ends it here. -/
def goesOn (untilComma : Bool) (t : Tree) : Bool :=
  !(untilComma && t.isPunct ',')

theorem goesOn_of_not_comma {untilComma : Bool} {t : Tree} (h : t.isPunct ',' = false) :
    goesOn untilComma t = true := by
  rw [goesOn, h, Bool.and_false, Bool.not_false]

/-- **Compiling a region records elements that cover its tokens**, up to the comma that may end it,
and leaves the tokens from there. -/
def Inside.Covers (inside : Inside) : Prop :=
  ∀ {untilComma : Bool} {e e' : Encoder} {r rest : Region},
    inside untilComma e r = .ok (e', rest) →
    rest = r.goOn (r.tokens.dropWhile (goesOn untilComma)) ∧
      ∃ xs, e'.elements = e.elements ++ xs ∧
        TokenTemplate.Covers (r.tokens.takeWhile (goesOn untilComma)) xs

section Record

variable {b : Body} {inside : Inside} {room : Nat} {e e' : Encoder} {r : Region} {t : Tree}
  {ts rest left : List Tree} {c : Construct} {untilComma : Bool}

theorem Encoder.elements_of_write {span : Span} {cursor : Cursor} {node : Node}
    (h : e.write span cursor node = .ok e') :
    e'.elements = e.elements ++ [⟨span, cursor, node⟩] := by
  obtain ⟨opened, -, rfl⟩ := write_eq_ok_iff.1 h
  rfl

/-- What a sigil takes is written as one element. -/
theorem covers_of_write (u : Tree) (between : List Tree) {span : Span} {node : Node}
    (ht : t.isPunct sigil = true) (hlength : between.length ≤ 2)
    (h : e.write span (t.span.cursor.join u.span.cursor) node = .ok e') :
    ∃ xs, e'.elements = e.elements ++ xs ∧ Covers (t :: (between ++ [u])) xs :=
  ⟨_, Encoder.elements_of_write h, .sigil ht hlength rfl .nil⟩

/-- **A construct is covered** by the elements that are recorded for it, and only its first token
may be a comma. -/
theorem covers_of_place (hinside : inside.Covers) (htakes : Construct.Takes r (t :: ts) c rest)
    (hplace : b.place inside room e (r.goOn rest) c = .ok e') :
    ∃ taken xs, ts = taken ++ rest ∧ (∀ u ∈ taken, u.isPunct ',' = false) ∧
      e'.elements = e.elements ++ xs ∧ Covers (t :: taken) xs := by
  -- every token after the first one is told from a comma by what it is
  have hnot {u : Tree} {ch : Char} (h : u.isPunct ch = true) (hne : ch ≠ ',') :
      u.isPunct ',' = false := isPunct_unique h hne
  cases htakes with
  | @escape _ u _ ht hu htouch =>
    rw [Body.place] at hplace
    obtain ⟨xs, helements, hcovers⟩ := covers_of_write u [] ht (by decide) hplace
    exact ⟨[u], xs, rfl, by simp [hnot hu (by decide)], helements, hcovers⟩
  | @directive _ u stop l w _ ht hu htouch hl hw hstop =>
    rw [Body.place] at hplace
    obtain ⟨xs, helements, hcovers⟩ := covers_of_write stop [u, .leaf l] ht le_rfl hplace
    refine ⟨[u, .leaf l, stop], xs, rfl, ?_, helements, hcovers⟩
    simp [hnot hu (by decide), hnot hstop (by decide), isPunct_of_name hl]
  | @block _ l children span _ ht hl htext =>
    obtain ⟨segments, -, hwrite⟩ := Body.place_block_eq_ok_iff.1 hplace
    obtain ⟨xs, helements, hcovers⟩ :=
      covers_of_write (.group .parenthesis children span) [.leaf l] ht (by simp) hwrite
    refine ⟨[.leaf l, .group .parenthesis children span], xs, rfl, ?_, helements, hcovers⟩
    simp [isPunct_of_name hl, isPunct_group]
  | @name _ l _ ht hl hblock =>
    rw [Body.place] at hplace
    obtain ⟨xs, helements, hcovers⟩ := covers_of_write (.leaf l) [] ht (by decide) hplace
    exact ⟨[.leaf l], xs, rfl, by simp [isPunct_of_name hl], helements, hcovers⟩
  | @payload _ children span _ ht =>
    obtain ⟨node, rest', -, -, hwrite⟩ := Body.place_payload_eq_ok_iff.1 hplace
    obtain ⟨xs, helements, hcovers⟩ :=
      covers_of_write (.group .parenthesis children span) [] ht (by decide) hwrite
    exact ⟨[.group .parenthesis children span], xs, rfl, by simp [isPunct_group], helements,
      hcovers⟩
  | plain halone =>
    -- the token stands alone, so nothing is taken after it
    suffices hplain : ∃ xs, e'.elements = e.elements ++ xs ∧ Covers [t] xs by
      obtain ⟨xs, helements, hcovers⟩ := hplain
      exact ⟨[], xs, rfl, List.forall_mem_nil _, helements, hcovers⟩
    cases t with
    | leaf l =>
      obtain ⟨node, -, hwrite⟩ := Body.place_leaf_eq_ok_iff.1 hplace
      exact ⟨_, Encoder.elements_of_write hwrite, .token rfl .nil⟩
    | group d children span =>
      obtain ⟨e₁, e₂, rest', hopening, hin, hclosing⟩ := Body.place_group_eq_ok_iff.1 hplace
      have hfirst := Encoder.elements_of_write hopening
      have hlast := Encoder.elements_of_write hclosing
      obtain ⟨-, within, hwithin, hchildren⟩ := hinside hin
      have hall : children.takeWhile (goesOn false) = children :=
        List.takeWhile_eq_self_iff.2 fun _ _ => rfl
      rw [Region.inside, hall] at hchildren
      rw [hlast, hwithin, hfirst, List.append_assoc, List.append_assoc]
      exact ⟨_, rfl, .group rfl rfl hchildren rfl rfl .nil⟩

/-- **A row of constructs is covered**, up to the comma that ends it. -/
theorem Body.Writes.covers (hinside : inside.Covers)
    (h : b.Writes inside room untilComma r e ts e' left) :
    left = ts.dropWhile (goesOn untilComma) ∧
      ∃ xs, e'.elements = e.elements ++ xs ∧ Covers (ts.takeWhile (goesOn untilComma)) xs := by
  induction h with
  | nil => exact ⟨rfl, [], (List.append_nil _).symm, .nil⟩
  | @comma e t ts hcomma ht =>
    have hends : goesOn untilComma t = false := by rw [goesOn, hcomma, ht]; rfl
    have hstop : ¬ goesOn untilComma t = true := Bool.eq_false_iff.1 hends
    rw [List.dropWhile_cons_of_neg hstop, List.takeWhile_cons_of_neg hstop]
    exact ⟨rfl, [], (List.append_nil _).symm, .nil⟩
  | @step e e₁ e₂ t ts rest left c hcomma htakes hplace _ ih =>
    obtain ⟨taken, xs, rfl, hnot, helements, hcovers⟩ := covers_of_place hinside htakes hplace
    obtain ⟨rfl, ys, hmore, hrest⟩ := ih
    have hgo : ∀ u ∈ t :: taken, goesOn untilComma u = true :=
      List.forall_mem_cons.2
        ⟨by rw [goesOn, hcomma, Bool.not_false], fun u hu => goesOn_of_not_comma (hnot u hu)⟩
    rw [← List.cons_append, List.dropWhile_append_of_pos hgo, List.takeWhile_append_of_pos hgo]
    refine ⟨rfl, xs ++ ys, ?_, hcovers.append hrest⟩
    rw [hmore, helements, List.append_assoc]

/-- **Compiling covers the tokens at every depth**, by induction on how much deeper it may go. -/
theorem levels_covers (b : Body) (room : Nat) : (levels b room).Covers := by
  induction room with
  | zero => exact fun h => absurd h error_ne_ok
  | succ room ih =>
    intro untilComma e e' r rest h
    obtain ⟨left, hwrites, rfl⟩ := Body.placeAll_eq_ok_iff.1 h
    obtain ⟨rfl, hcovers⟩ := hwrites.covers ih
    exact ⟨rfl, hcovers⟩

end Record

/-! ### Where the elements stand -/

/-- Whether a mark of a source lies in the cursor of an element. -/
def Element.holds (source : List Char) (m : Mark) (x : Element) : Bool :=
  x.cursor.start.upTo (.ofOffset source m.start) &&
    (Position.ofOffset source m.stop).upTo x.cursor.stop

/-- **Elements that hold the marks of a piece of source**: their cursors follow each other in it,
and every mark lies in exactly one of them. -/
structure Holds (source : List Char) (i : Nat) (ms : List Mark) (xs : List Element) (j : Nat) :
    Prop where
  /-- The piece has two ends. -/
  le : i ≤ j
  /-- They are in the source. -/
  stop_le : j ≤ source.length
  /-- Each cursor is that of a text in the piece. -/
  lies : ∀ x ∈ xs, ∃ a b, i ≤ a ∧ a < b ∧ b ≤ j ∧ x.cursor = (Span.between source a b).cursor
  /-- Each cursor begins no earlier than those before it end. -/
  ordered : xs.Pairwise fun x y => x.cursor.stop.upTo y.cursor.start = true
  /-- The marks are in the piece. -/
  marks_lie : ∀ m ∈ ms, i ≤ m.start ∧ m.start < m.stop ∧ m.stop ≤ j
  /-- Each of them is in one cursor, and in one only. -/
  once : ∀ m ∈ ms, xs.countP (Element.holds source m) = 1

namespace Holds

variable {source : List Char} {i j k a b : Nat} {ms ns : List Mark} {xs ys : List Element}
  {x : Element}
  {m : Mark}

theorem holds_iff (hx : x.cursor = (Span.between source a b).cursor) (hab : a < b)
    (hb : b ≤ source.length) (hm : m.start < m.stop) (hstop : m.stop ≤ source.length) :
    x.holds source m = true ↔ a ≤ m.start ∧ m.stop ≤ b := by
  rw [Element.holds, hx, Bool.and_eq_true]
  exact and_congr (Position.upTo_ofOffset_iff (by omega) (by omega))
    (Position.upTo_ofOffset_iff hstop hb)

theorem nil (hij : i ≤ j) (hj : j ≤ source.length) : Holds source i [] [] j :=
  ⟨hij, hj, List.forall_mem_nil _, .nil, List.forall_mem_nil _, List.forall_mem_nil _⟩

/-- One element, and the marks from where it begins to where it ends. -/
theorem single (hx : x.cursor = (Span.between source a b).cursor) (hi : i ≤ a) (hab : a < b)
    (hb : b ≤ source.length) (hms : ∀ m ∈ ms, a ≤ m.start ∧ m.start < m.stop ∧ m.stop ≤ b) :
    Holds source i ms [x] b := by
  refine ⟨by omega, hb, ?_, List.pairwise_singleton _ _, fun m hm => ?_, fun m hm => ?_⟩
  · rintro y hy
    obtain rfl := List.mem_singleton.1 hy
    exact ⟨a, b, hi, hab, le_rfl, hx⟩
  · obtain ⟨hstart, hlt, hstop⟩ := hms m hm
    exact ⟨hi.trans hstart, hlt, hstop⟩
  · obtain ⟨hstart, hlt, hstop⟩ := hms m hm
    have hholds := (holds_iff hx hab hb hlt (hstop.trans hb)).2 ⟨hstart, hstop⟩
    rw [List.countP_singleton, if_pos hholds]

/-- A mark outside of the piece lies in none of the elements. -/
theorem countP_eq_zero (h : Holds source i ms xs j) (hm : m.start < m.stop)
    (hstop : m.stop ≤ source.length) (hout : m.start < i ∨ j < m.stop) :
    xs.countP (Element.holds source m) = 0 := by
  refine List.countP_eq_zero.2 fun x hx hholds => ?_
  obtain ⟨a, b, hi, hab, hb, hcursor⟩ := h.lies x hx
  have hin := (holds_iff hcursor hab (hb.trans h.stop_le) hm hstop).1 hholds
  omega

/-- **Elements of two pieces that meet.** -/
theorem append (h : Holds source i ms xs k) (h' : Holds source k ns ys j) :
    Holds source i (ms ++ ns) (xs ++ ys) j := by
  have hle := h.le
  have hle' := h'.le
  refine ⟨hle.trans hle', h'.stop_le, ?_, ?_, ?_, ?_⟩
  · refine List.forall_mem_append.2 ⟨fun x hx => ?_, fun y hy => ?_⟩
    · obtain ⟨a, b, hi, hab, hb, hcursor⟩ := h.lies x hx
      exact ⟨a, b, hi, hab, hb.trans hle', hcursor⟩
    · obtain ⟨a, b, hk, hab, hb, hcursor⟩ := h'.lies y hy
      exact ⟨a, b, hle.trans hk, hab, hb, hcursor⟩
  · refine List.pairwise_append.2 ⟨h.ordered, h'.ordered, fun x hx y hy => ?_⟩
    obtain ⟨a, b, -, -, hb, hcursor⟩ := h.lies x hx
    obtain ⟨c, d, hk, hcd, hd, hcursor'⟩ := h'.lies y hy
    have hlast := h'.stop_le
    rw [hcursor, hcursor']
    exact (Position.upTo_ofOffset_iff (by omega) (by omega)).2 (hb.trans hk)
  · refine List.forall_mem_append.2 ⟨fun m hm => ?_, fun m hm => ?_⟩
    · obtain ⟨hi, hlt, hk⟩ := h.marks_lie m hm
      exact ⟨hi, hlt, hk.trans hle'⟩
    · obtain ⟨hk, hlt, hj⟩ := h'.marks_lie m hm
      exact ⟨hle.trans hk, hlt, hj⟩
  · -- a mark of either piece is outside of the other one
    refine List.forall_mem_append.2 ⟨fun m hm => ?_, fun m hm => ?_⟩
    · obtain ⟨-, hlt, hk⟩ := h.marks_lie m hm
      rw [List.countP_append, h.once m hm,
        h'.countP_eq_zero hlt (hk.trans h.stop_le) (.inl (by omega))]
    · obtain ⟨hk, hlt, hj⟩ := h'.marks_lie m hm
      rw [List.countP_append, h'.once m hm,
        h.countP_eq_zero hlt (hj.trans h'.stop_le) (.inr (by omega))]

end Holds

/-! ### Tokens in a piece of source -/

namespace Fills

variable {source : List Char} {i j : Nat} {t : Tree} {ts us : List Tree}

/-- **The first token of a filling**, which fills a piece of its own. -/
theorem head (h : Fills source i (t :: ts) j) :
    ∃ a b, i ≤ a ∧ a < b ∧ t.span = .between source a b ∧ Fills source a [t] b ∧
      Fills source b ts j := by
  have hj := h.stop_le
  cases h with
  | @leaf _ _ a b l _ hi hgap hspells hpre hb hspan h =>
    have hlen := length_pos_of_spells hspells
    have hle := h.le
    exact ⟨a, b, hi, by omega, hspan, .leaf le_rfl isGapRun_slice_self hspells hpre hb hspan
      (.nil le_rfl (by omega) isGapRun_slice_self), h⟩
  | @group _ _ a b d children _ span hi hgap hopen hclose hspan hchildren h =>
    have hle := h.le
    have hinner := hchildren.le
    exact ⟨a, b + 1, hi, by omega, hspan, .group le_rfl isGapRun_slice_self hopen hclose hspan
      hchildren (.nil le_rfl (by omega) isGapRun_slice_self), h⟩

/-- A filling in two parts. -/
theorem append_inv (h : Fills source i (ts ++ us) j) :
    ∃ k, Fills source i ts k ∧ Fills source k us j := by
  induction ts generalizing i with
  | nil =>
    have hle := h.le.trans h.stop_le
    exact ⟨i, .nil le_rfl hle isGapRun_slice_self, h⟩
  | cons t ts ih =>
    rw [List.cons_append] at h
    cases h with
    | leaf hi hgap hspells hpre hb hspan h =>
      obtain ⟨k, hts, hus⟩ := ih h
      exact ⟨k, .leaf hi hgap hspells hpre hb hspan hts, hus⟩
    | group hi hgap hopen hclose hspan hchildren h =>
      obtain ⟨k, hts, hus⟩ := ih h
      exact ⟨k, .group hi hgap hopen hclose hspan hchildren hts, hus⟩

/-- The marks of a filling stand between its ends. -/
theorem mem_allMarks (h : Fills source i ts j) :
    ∀ m ∈ Tree.allMarks ts, i ≤ m.start ∧ m.start < m.stop ∧ m.stop ≤ j := by
  induction h with
  | nil => exact List.forall_mem_nil _
  | @leaf i j a b l ts hi _ hspells _ hb hspan h ih =>
    have hlen := length_pos_of_spells hspells
    have hle := h.le
    rw [Tree.allMarks, Tree.marks, List.singleton_append, hspan]
    refine List.forall_mem_cons.2 ⟨⟨hi, ?_, hle⟩, fun m hm => ?_⟩
    · change a < b
      omega
    · obtain ⟨hstart, hlt, hstop⟩ := ih m hm
      exact ⟨by omega, hlt, hstop⟩
  | @group i j a b d children ts span hi _ _ _ hspan hchildren h ihc ih =>
    have hinner := hchildren.le
    have hle := h.le
    rw [Tree.allMarks, Tree.marks, List.cons_append, List.append_assoc, hspan]
    refine List.forall_mem_cons.2 ⟨⟨hi, Nat.lt_succ_self a, ?_⟩, ?_⟩
    · change a + 1 ≤ j
      omega
    · refine List.forall_mem_append.2 ⟨fun m hm => ?_, List.forall_mem_cons.2 ⟨?_, fun m hm => ?_⟩⟩
      · obtain ⟨hstart, hlt, hstop⟩ := ihc m hm
        exact ⟨by omega, hlt, by omega⟩
      · refine ⟨?_, ?_, hle⟩
        · change i ≤ b + 1 - 1
          omega
        · change b + 1 - 1 < b + 1
          omega
      · obtain ⟨hstart, hlt, hstop⟩ := ih m hm
        exact ⟨by omega, hlt, hstop⟩

/-- The marks of one token. -/
theorem mem_marks (h : Fills source i [t] j) :
    ∀ m ∈ t.marks, i ≤ m.start ∧ m.start < m.stop ∧ m.stop ≤ j := by
  intro m hm
  refine h.mem_allMarks m ?_
  rwa [Tree.allMarks, Tree.allMarks, List.append_nil]

end Fills

/-- **Elements that cover the tokens of a piece of source hold all its marks**: the delimiters of a
group are marks of their own, and what a sigil takes is in one cursor as a whole. -/
theorem Covers.holds {source : List Char} {i j : Nat} {ts : List Tree} {xs : List Element}
    (h : Covers ts xs) (hfills : Fills source i ts j) :
    Holds source i (Tree.allMarks ts) xs j := by
  induction h generalizing i j with
  | nil => exact .nil hfills.le hfills.stop_le
  | token hcursor _ ih =>
    obtain ⟨a, b, hi, hab, hspan, hone, hrest⟩ := hfills.head
    have hx := hcursor.trans (congrArg Span.cursor hspan)
    rw [Tree.allMarks]
    exact (Holds.single hx hi hab hone.stop_le hone.mem_marks).append (ih hrest)
  | @sigil t u between ts x xs _ _ hcursor _ ih =>
    obtain ⟨a, b, hi, hab, hspan, hone, hrest⟩ := hfills.head
    -- what lies between the first and the last token lies in the join of their cursors
    obtain ⟨k, hbetween, hrest⟩ := hrest.append_inv
    obtain ⟨c, d, hkc, hcd, hspan', hone', hrest⟩ := hrest.head
    have hbk := hbetween.le
    have hd := hone'.stop_le
    have hx : x.cursor = (Span.between source a d).cursor := by
      rw [hcursor, hspan, hspan']
      exact Span.cursor_join_between (by omega) (by omega) (by omega) hd
    have hmarks : ∀ m ∈ t.marks ++ (Tree.allMarks between ++ u.marks),
        a ≤ m.start ∧ m.start < m.stop ∧ m.stop ≤ d := by
      intro m hm
      rcases List.mem_append.1 hm with hm | hm
      · obtain ⟨hstart, hlt, hstop⟩ := hone.mem_marks m hm
        exact ⟨hstart, hlt, by omega⟩
      · rcases List.mem_append.1 hm with hm | hm
        · obtain ⟨hstart, hlt, hstop⟩ := hbetween.mem_allMarks m hm
          exact ⟨by omega, hlt, by omega⟩
        · obtain ⟨hstart, hlt, hstop⟩ := hone'.mem_marks m hm
          exact ⟨by omega, hlt, hstop⟩
    have hall : Tree.allMarks (t :: (between ++ u :: ts)) =
        (t.marks ++ (Tree.allMarks between ++ u.marks)) ++ Tree.allMarks ts := by
      rw [Tree.allMarks, Tree.allMarks_append, Tree.allMarks, List.append_assoc, List.append_assoc]
    rw [hall]
    exact (Holds.single hx hi (by omega) hd hmarks).append (ih hrest)
  | @group d children ts span x y within xs _ hfirst _ _ hlast _ ihc ih =>
    cases hfills with
    | @group _ _ a b _ _ _ _ hi _ hopen hclose hspan hinner hrest =>
      -- a delimiter is one column wide because it breaks no line
      have hopenChar : d.openChar ≠ '\n' := by cases d <;> decide
      have hcloseChar : d.closeChar ≠ '\n' := by cases d <;> decide
      have hab := hinner.le
      have hb := hrest.le.trans hrest.stop_le
      rw [hspan, Span.firstCharacter_between hopen hopenChar] at hfirst
      rw [hspan, Span.lastCharacter_between hclose hcloseChar] at hlast
      -- the first delimiter, the inside, the second delimiter, and what follows
      have hone : Holds source i [⟨.opening d, [d.openChar], a, a + 1⟩] [x] (a + 1) :=
        .single hfirst hi (Nat.lt_succ_self a) (by omega) (by simp)
      have hone' : Holds source b [⟨.closing d, [d.closeChar], b, b + 1⟩] [y] (b + 1) :=
        .single hlast le_rfl (Nat.lt_succ_self b) hb (by simp)
      have hall : Tree.allMarks (.group d children span :: ts) =
          [⟨.opening d, [d.openChar], a, a + 1⟩] ++ (Tree.allMarks children ++
            ([⟨.closing d, [d.closeChar], b, b + 1⟩] ++ Tree.allMarks ts)) := by
        rw [Tree.allMarks, Tree.marks, hspan, List.cons_append, List.append_assoc]
        rfl
      rw [hall]
      exact hone.append ((ihc hinner).append (hone'.append (ih hrest)))

/-- **What an encoder is to account for** between two places, if they are given: its elements cover
the tokens, their cursors follow each other from the one place to the other, and every leaf and
every delimiter of the tokens, at any depth, lies in exactly one of the cursors. -/
structure Accounts (source : List Char) (before after : Option Position) (ts : List Tree)
    (xs : List Element) : Prop where
  /-- Each token is covered by its elements. -/
  covers : Covers ts xs
  /-- Each cursor ends after it begins. -/
  forward : ∀ x ∈ xs, x.cursor.start.before x.cursor.stop = true
  /-- Each cursor begins no earlier than those before it end. -/
  ordered : xs.Pairwise fun x y => x.cursor.stop.upTo y.cursor.start = true
  /-- No cursor begins before the first place. -/
  upTo_start : ∀ p, before = some p → ∀ x ∈ xs, p.upTo x.cursor.start = true
  /-- No cursor ends after the second place. -/
  stop_upTo : ∀ p, after = some p → ∀ x ∈ xs, x.cursor.stop.upTo p = true
  /-- Each mark of the tokens lies in one cursor. -/
  once : ∀ m ∈ Tree.allMarks ts, xs.countP (Element.holds source m) = 1

/-- **Elements that cover the tokens of a piece of source account for them**, if the piece lies
between the places. -/
theorem Covers.accounts {source : List Char} {i j n : Nat} {before after : Option Position}
    {ts : List Tree} {xs : List Element} (h : Covers ts xs) (hfills : Fills source i ts j)
    (hbefore : ∀ p, before = some p → p = .ofOffset source i)
    (hafter : ∀ p, after = some p → p = .ofOffset source n) (hjn : j ≤ n) :
    Accounts source before after ts xs := by
  have hholds := h.holds hfills
  have hlast := hholds.stop_le
  refine ⟨h, fun x hx => ?_, hholds.ordered, fun p hp x hx => ?_, fun p hp x hx => ?_, hholds.once⟩
  all_goals obtain ⟨a, b, hi, hab, hb, hcursor⟩ := hholds.lies x hx
  · rw [hcursor]
    exact Position.before_ofOffset hab (hb.trans hlast)
  · rw [hbefore p hp, hcursor]
    exact Position.upTo_ofOffset hi
  · rw [hafter p hp, hcursor]
    exact Position.upTo_ofOffset (hb.trans hjn)

end TokenTemplate
