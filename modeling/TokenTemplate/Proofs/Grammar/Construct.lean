import TokenTemplate.Proofs.Grammar.Step

/-!
# The grammar of constructs

Which constructs a row of tokens can begin with, one rule for each, and what is left of the row.
There are two such grammars, since fewer things may stand in an interpolation block than in a body:

* `TokenTemplate.Construct.Takes` for bodies (`TokenTemplate.Construct.sight_eq_ok_iff`);
* `TokenTemplate.Piece.Takes` for blocks (`TokenTemplate.Piece.sight_eq_ok_iff`), whose rows of
  pieces are `TokenTemplate.Piece.Lists` (`TokenTemplate.Piece.ofTokens_eq_ok_iff`).

In both of them a token stands alone where a sigil begins nothing, `TokenTemplate.standsAlone`.
-/

namespace TokenTemplate

/-! ### Tokens that begin nothing -/

/-- Whether a token begins nothing together with the tokens after it: it is no sigil, or what a
sigil could begin does not follow. -/
def standsAlone (t : Tree) : List Tree → Bool
  | [] => true
  | u :: _ =>
    !t.isPunct sigil ||
      !(t.touches u && (u.isPunct sigil || u.isPunct '<') || u.isKind .name ||
        u.isGroup .parenthesis)

theorem head_isGroup_iff {d : Delimiter} {ts : List Tree} :
    ts.head?.any (Tree.isGroup d) = true ↔
      ∃ children span more, ts = .group d children span :: more := by
  cases ts with
  | nil => simp
  | cons t ts => cases t <;> simp [Tree.isGroup]

/-- A token is at most one punctuation character. -/
theorem isPunct_unique {t : Tree} {c d : Char} (h : t.isPunct c = true) (hne : c ≠ d) :
    t.isPunct d = false := by
  cases t with
  | leaf l =>
    rw [Tree.isPunct, Bool.and_eq_true, beq_iff_eq, beq_iff_eq] at h
    rw [Tree.isPunct, h.2, Bool.and_eq_false_iff]
    exact Or.inr (beq_eq_false_iff_ne.2 fun heq => hne (String.singleton_inj.1 heq))
  | group => rfl

theorem isPunct_of_name {l : Leaf} (h : l.kind = .name) (c : Char) :
    (Tree.leaf l).isPunct c = false := by
  rw [Tree.isPunct, h]
  rfl

theorem isPunct_group (c : Char) (d : Delimiter) (children : List Tree) (span : Span) :
    (Tree.group d children span).isPunct c = false := rfl

section StandsAlone

variable {t u : Tree} {ts : List Tree}

theorem standsAlone_of_not_sigil (h : t.isPunct sigil = false) : standsAlone t ts = true := by
  cases ts with
  | nil => rfl
  | cons u ts => rw [standsAlone, h, Bool.not_false, Bool.true_or]

/-- A sigil begins nothing if neither a second sigil nor an angle bracket touches it, and neither a
name nor a group in round brackets comes next. -/
theorem standsAlone_cons_iff (h : t.isPunct sigil = true) :
    standsAlone t (u :: ts) = true ↔
      (u.isPunct sigil && t.touches u) = false ∧ (u.isPunct '<' && t.touches u) = false ∧
        u.isKind .name = false ∧ u.isGroup .parenthesis = false := by
  rw [standsAlone, h]
  cases t.touches u <;> cases u.isPunct sigil <;> cases u.isPunct '<' <;>
    cases u.isKind .name <;> cases u.isGroup .parenthesis <;> decide

end StandsAlone

/-! ### Constructs of a body -/

namespace Construct

/-- **The constructs that a row of tokens can begin with**, and what is left of the row. -/
inductive Takes (r : Region) : List Tree → Construct → List Tree → Prop
  /-- Two sigils that touch. -/
  | escape {t u : Tree} {ts : List Tree} (ht : t.isPunct sigil = true)
      (hu : u.isPunct sigil = true) (htouch : t.touches u = true) :
      Takes r (t :: u :: ts) (.escape t.span u.span) ts
  /-- A sigil and, touching it, an angle bracket; the name of a directive; and an angle bracket. -/
  | directive {t u stop : Tree} {l : Leaf} {w : Whitespace} {ts : List Tree}
      (ht : t.isPunct sigil = true) (hu : u.isPunct '<' = true) (htouch : t.touches u = true)
      (hl : l.kind = .name) (hw : Whitespace.ofName? l.text = some w)
      (hstop : stop.isPunct '>' = true) :
      Takes r (t :: u :: .leaf l :: stop :: ts) (.directive t.span u.span stop.span w) ts
  /-- A sigil, an underscore and a group in round brackets. -/
  | block {t : Tree} {l : Leaf} {children : List Tree} {span : Span} {ts : List Tree}
      (ht : t.isPunct sigil = true) (hl : l.kind = .name) (htext : l.text = "_") :
      Takes r (t :: .leaf l :: .group .parenthesis children span :: ts)
        (.block t.span (r.inside children span)) ts
  /-- A sigil and a name, unless they begin a block. -/
  | name {t : Tree} {l : Leaf} {ts : List Tree} (ht : t.isPunct sigil = true)
      (hl : l.kind = .name)
      (hblock : l.text = "_" → ts.head?.any (Tree.isGroup .parenthesis) = false) :
      Takes r (t :: .leaf l :: ts) (.name t.span l) ts
  /-- A sigil and a group in round brackets. -/
  | payload {t : Tree} {children : List Tree} {span : Span} {ts : List Tree}
      (ht : t.isPunct sigil = true) :
      Takes r (t :: .group .parenthesis children span :: ts)
        (.payload t.span (r.inside children span)) ts
  /-- A token that stands alone. -/
  | plain {t : Tree} {ts : List Tree} (h : standsAlone t ts = true) :
      Takes r (t :: ts) (plain r t) ts

section Takes

variable {r r' : Region} {t : Tree} {ts rest : List Tree} {c : Construct}

theorem directiveRest_eq_ok_iff {start mark : Span} :
    directiveRest r start mark = .ok (c, r') ↔
      ∃ l stop w ts, r.tokens = .leaf l :: stop :: ts ∧ l.kind = .name ∧
        Whitespace.ofName? l.text = some w ∧ stop.isPunct '>' = true ∧
        c = .directive start mark stop.span w ∧ r' = r.goOn ts := by
  rw [directiveRest, bind_eq_ok_iff]
  constructor
  · rintro ⟨⟨l, r₁⟩, hname, h⟩
    obtain ⟨us, hr, hl, rfl⟩ := Region.expectName_eq_ok_iff.1 hname
    simp only at h
    split at h
    · exact absurd h error_ne_ok
    · next w hw =>
      obtain ⟨⟨stop, r₂⟩, hstop, h⟩ := bind_eq_ok_iff.1 h
      obtain ⟨ts, hus, hmark, rfl⟩ := Region.expect_eq_ok_iff.1 hstop
      obtain ⟨rfl, rfl⟩ := Prod.mk.inj (Except.ok.inj h)
      refine ⟨l, stop, w, ts, ?_, hl, hw, hmark, rfl, rfl⟩
      rw [hr]
      exact congrArg _ hus
  · rintro ⟨l, stop, w, ts, hr, hl, hw, hmark, rfl, rfl⟩
    refine ⟨(l, r.goOn (stop :: ts)), Region.expectName_eq_ok_iff.2 ⟨_, hr, hl, rfl⟩, ?_⟩
    simp only [hw]
    exact bind_eq_ok_iff.2 ⟨(stop, r.goOn ts),
      Region.expect_eq_ok_iff.2 ⟨ts, rfl, hmark, rfl⟩, rfl⟩

/-- A sighting is one of the rules: the cases of the function, one after another. -/
theorem exists_takes_of_sight (h : sight r t ts = .ok (c, r')) :
    ∃ rest, Takes r (t :: ts) c rest ∧ r' = r.goOn rest := by
  unfold sight at h
  cases ts with
  | nil =>
    obtain ⟨rfl, rfl⟩ := Prod.mk.inj (Except.ok.inj h)
    exact ⟨[], .plain rfl, rfl⟩
  | cons u rest =>
    simp only at h
    split at h
    · next ht =>
      obtain ⟨rfl, rfl⟩ := Prod.mk.inj (Except.ok.inj h)
      rw [Bool.not_eq_true'] at ht
      exact ⟨_, .plain (standsAlone_of_not_sigil ht), rfl⟩
    · next ht =>
      rw [Bool.not_eq_true', Bool.not_eq_false] at ht
      split at h
      · next hu =>
        rw [Bool.and_eq_true] at hu
        obtain ⟨rfl, rfl⟩ := Prod.mk.inj (Except.ok.inj h)
        exact ⟨_, .escape ht hu.1 hu.2, rfl⟩
      · next hescape =>
        split at h
        · next hu =>
          rw [Bool.and_eq_true] at hu
          obtain ⟨l, stop, w, ts, hrest, hl, hw, hstop, rfl, rfl⟩ :=
            directiveRest_eq_ok_iff.1 h
          obtain rfl : rest = _ := hrest
          exact ⟨_, .directive ht hu.1 hu.2 hl hw hstop, rfl⟩
        · next hmark =>
          -- what is left is a sigil by itself, a name, or a group
          have halone (hname : u.isKind .name = false) (hgroup : u.isGroup .parenthesis = false) :
              standsAlone t (u :: rest) = true :=
            (standsAlone_cons_iff ht).2
              ⟨Bool.eq_false_iff.2 hescape, Bool.eq_false_iff.2 hmark, hname, hgroup⟩
          split at h
          · next l =>
            split at h
            · next hl =>
              obtain ⟨rfl, rfl⟩ := Prod.mk.inj (Except.ok.inj h)
              exact ⟨_, .plain (halone (beq_eq_false_iff_ne.2 hl) rfl), rfl⟩
            · next hl =>
              have hl := Decidable.not_not.1 hl
              split at h
              · next children span more =>
                split at h
                · next htext =>
                  obtain ⟨rfl, rfl⟩ := Prod.mk.inj (Except.ok.inj h)
                  exact ⟨_, .block ht hl htext, rfl⟩
                · next htext =>
                  obtain ⟨rfl, rfl⟩ := Prod.mk.inj (Except.ok.inj h)
                  exact ⟨_, .name ht hl fun heq => absurd heq htext, rfl⟩
              · next hgroup =>
                obtain ⟨rfl, rfl⟩ := Prod.mk.inj (Except.ok.inj h)
                refine ⟨_, .name ht hl fun _ => ?_, rfl⟩
                rw [Bool.eq_false_iff]
                intro hhead
                obtain ⟨children, span, more, rfl⟩ := head_isGroup_iff.1 hhead
                exact hgroup children span more rfl
          · next children span =>
            obtain ⟨rfl, rfl⟩ := Prod.mk.inj (Except.ok.inj h)
            exact ⟨_, .payload ht, rfl⟩
          · next d children span hd =>
            obtain ⟨rfl, rfl⟩ := Prod.mk.inj (Except.ok.inj h)
            exact ⟨_, .plain (halone rfl (beq_eq_false_iff_ne.2 hd)), rfl⟩

/-- A construct that can be taken is seen. -/
theorem Takes.sight_eq (h : Takes r (t :: ts) c rest) : sight r t ts = .ok (c, r.goOn rest) := by
  cases h with
  | @escape _ u _ ht hu htouch => simp [sight, ht, hu, htouch]
  | @directive _ u stop l w _ ht hu htouch hl hw hstop =>
    have hsigil : u.isPunct sigil = false := isPunct_unique hu (by decide)
    have hrest : directiveRest (r.goOn (.leaf l :: stop :: rest)) t.span u.span =
        .ok (.directive t.span u.span stop.span w, r.goOn rest) :=
      directiveRest_eq_ok_iff.2 ⟨l, stop, w, rest, rfl, hl, hw, hstop, rfl, rfl⟩
    simp [sight, ht, hu, htouch, hsigil, hrest]
  | block ht hl htext => simp [sight, ht, isPunct_of_name hl, hl, htext]
  | @name _ l _ ht hl hblock =>
    have hword : ∀ children span more, rest = .group .parenthesis children span :: more →
        l.text ≠ "_" := by
      rintro children span more rfl htext
      exact absurd (hblock htext) (by simp [Tree.isGroup])
    simp only [sight, ht, isPunct_of_name hl, hl, Bool.not_true, Bool.false_and,
      Bool.false_eq_true, if_false, ne_eq, not_true_eq_false]
    split
    · next children span more => rw [if_neg (hword children span more rfl)]
    · rfl
  | payload ht => simp [sight, ht, isPunct_group]
  | plain h =>
    cases ts with
    | nil => rfl
    | cons u rest =>
      by_cases ht : t.isPunct sigil = true
      · obtain ⟨hescape, hmark, hname, hgroup⟩ := (standsAlone_cons_iff ht).1 h
        cases u with
        | leaf l =>
          have hkind : l.kind ≠ .name := beq_eq_false_iff_ne.1 hname
          simp [sight, ht, hescape, hmark, hkind]
        | group d children span =>
          cases d with
          | parenthesis => exact absurd hgroup (by simp [Tree.isGroup])
          | brace | bracket => simp [sight, ht, hescape, hmark]
      · simp [sight, ht]

/-- **What is seen at the front of a row** is what the rules of constructs say. -/
theorem sight_eq_ok_iff :
    sight r t ts = .ok (c, r') ↔ ∃ rest, Takes r (t :: ts) c rest ∧ r' = r.goOn rest := by
  refine ⟨exists_takes_of_sight, ?_⟩
  rintro ⟨rest, h, rfl⟩
  exact h.sight_eq

/-- What a row begins with does not depend on how far the region has been read. -/
theorem takes_goOn_iff {us : List Tree} : Takes (r.goOn us) ts c rest ↔ Takes r ts c rest := by
  constructor
  all_goals
    intro h
    cases h with
    | escape ht hu htouch => exact .escape ht hu htouch
    | directive ht hu htouch hl hw hstop => exact .directive ht hu htouch hl hw hstop
    | block ht hl htext => exact .block ht hl htext
    | name ht hl hblock => exact .name ht hl hblock
    | payload ht => exact .payload ht
    | @plain t _ h =>
      cases t <;> exact .plain h

theorem Takes.length_le (h : Takes r (t :: ts) c rest) : rest.length ≤ ts.length := by
  cases h <;> simp <;> omega

end Takes

end Construct

/-! ### Pieces of a block -/

namespace Piece

/-- **What a row of tokens of a block can begin with**, and what is left of the row. -/
inductive Takes (r : Region) : List Tree → Sighting → List Tree → Prop
  /-- Two sigils that touch. -/
  | escape {t u : Tree} {ts : List Tree} (ht : t.isPunct sigil = true)
      (hu : u.isPunct sigil = true) (htouch : t.touches u = true) :
      Takes r (t :: u :: ts)
        (.piece ⟨t.span.startPos, u.span.stopPos, .text (String.singleton sigil)⟩) ts
  /-- A sigil and a name, unless they begin a block. -/
  | name {t : Tree} {l : Leaf} {ts : List Tree} {e : Expression} (ht : t.isPunct sigil = true)
      (hl : l.kind = .name)
      (hblock : l.text = "_" → ts.head?.any (Tree.isGroup .parenthesis) = false)
      (hsite : Expression.ofSource r.settings l.text (t.span.join l.span) = .ok e) :
      Takes r (t :: .leaf l :: ts) (.piece ⟨t.span.startPos, l.span.stopPos, .site e⟩) ts
  /-- A sigil and a group in round brackets that is not empty. -/
  | payload {t : Tree} {children : List Tree} {span : Span} {ts : List Tree} {e : Expression}
      (ht : t.isPunct sigil = true) (hne : children ≠ [])
      (hsite : Expression.ofSource r.settings ((r.inside children span).textOf children)
        (t.span.join span) = .ok e) :
      Takes r (t :: .group .parenthesis children span :: ts)
        (.piece ⟨t.span.startPos, span.stopPos, .site e⟩) ts
  /-- A token that stands alone. -/
  | plain {t : Tree} {ts : List Tree} (h : standsAlone t ts = true) :
      Takes r (t :: ts) (plain r t) ts

variable {r : Region} {t : Tree} {ts rest : List Tree} {s : Sighting}

theorem site_eq_ok_iff {text : String} {first last : Span} :
    site r text first last = .ok s ↔
      ∃ e, Expression.ofSource r.settings text (first.join last) = .ok e ∧
        s = .piece ⟨first.startPos, last.stopPos, .site e⟩ := by
  rw [site, bind_eq_ok_iff]
  constructor
  · rintro ⟨e, he, h⟩
    exact ⟨e, he, (Except.ok.inj h).symm⟩
  · rintro ⟨e, he, rfl⟩
    exact ⟨e, he, rfl⟩

theorem Takes.of_sight (h : sight r t ts = .ok (s, rest)) : Takes r (t :: ts) s rest := by
  unfold sight at h
  cases ts with
  | nil =>
    obtain ⟨rfl, rfl⟩ := Prod.mk.inj (Except.ok.inj h)
    exact .plain rfl
  | cons u more =>
    simp only at h
    split at h
    · next ht =>
      obtain ⟨rfl, rfl⟩ := Prod.mk.inj (Except.ok.inj h)
      rw [Bool.not_eq_true'] at ht
      exact .plain (standsAlone_of_not_sigil ht)
    · next ht =>
      rw [Bool.not_eq_true', Bool.not_eq_false] at ht
      split at h
      · next hu =>
        rw [Bool.and_eq_true] at hu
        obtain ⟨rfl, rfl⟩ := Prod.mk.inj (Except.ok.inj h)
        exact .escape ht hu.1 hu.2
      · next hescape =>
        split at h
        · exact absurd h error_ne_ok
        · next hmark =>
          -- what is left is a sigil by itself, a name, or a group
          have halone (hname : u.isKind .name = false) (hgroup : u.isGroup .parenthesis = false) :
              standsAlone t (u :: more) = true :=
            (standsAlone_cons_iff ht).2
              ⟨Bool.eq_false_iff.2 hescape, Bool.eq_false_iff.2 hmark, hname, hgroup⟩
          split at h
          · next l =>
            split at h
            · next hl =>
              obtain ⟨rfl, rfl⟩ := Prod.mk.inj (Except.ok.inj h)
              exact .plain (halone (beq_eq_false_iff_ne.2 hl) rfl)
            · next hl =>
              have hl := Decidable.not_not.1 hl
              split at h
              · exact absurd h error_ne_ok
              · next hblock =>
                obtain ⟨s, hsite, h⟩ := bind_eq_ok_iff.1 h
                obtain ⟨rfl, rfl⟩ := Prod.mk.inj (Except.ok.inj h)
                obtain ⟨e, he, rfl⟩ := site_eq_ok_iff.1 hsite
                refine .name ht hl (fun htext => ?_) he
                rw [Bool.eq_false_iff]
                exact fun hhead => hblock (by simp [htext, hhead])
          · next children span =>
            split at h
            · exact absurd h error_ne_ok
            · next hne =>
              obtain ⟨s, hsite, h⟩ := bind_eq_ok_iff.1 h
              obtain ⟨rfl, rfl⟩ := Prod.mk.inj (Except.ok.inj h)
              obtain ⟨e, he, rfl⟩ := site_eq_ok_iff.1 hsite
              exact .payload ht (fun heq => hne (List.isEmpty_iff.2 heq)) he
          · next d children span hd =>
            obtain ⟨rfl, rfl⟩ := Prod.mk.inj (Except.ok.inj h)
            exact .plain (halone rfl (beq_eq_false_iff_ne.2 hd))

theorem Takes.sight (h : Takes r (t :: ts) s rest) : sight r t ts = .ok (s, rest) := by
  cases h with
  | escape ht hu htouch => simp [Piece.sight, ht, hu, htouch, pure, Except.pure]
  | @name _ l _ e ht hl hblock hsite =>
    have hhead : (decide (l.text = "_") && rest.head?.any (Tree.isGroup .parenthesis)) = false := by
      by_cases htext : l.text = "_"
      · rw [hblock htext, Bool.and_false]
      · rw [decide_eq_false htext, Bool.false_and]
    have hsite' : site r l.text t.span l.span = _ := site_eq_ok_iff.2 ⟨e, hsite, rfl⟩
    unfold Piece.sight
    simp only [ht, isPunct_of_name hl, hl, hhead, Bool.not_true, Bool.false_and, Bool.false_eq_true,
      if_false, ne_eq, not_true_eq_false]
    exact bind_eq_ok_iff.2 ⟨_, hsite', rfl⟩
  | @payload _ children span _ e ht hne hsite =>
    have hsite' : site r ((r.inside children span).textOf children) t.span span = _ :=
      site_eq_ok_iff.2 ⟨e, hsite, rfl⟩
    have hempty : children.isEmpty = false :=
      Bool.eq_false_iff.2 fun h => hne (List.isEmpty_iff.1 h)
    unfold Piece.sight
    simp only [ht, isPunct_group, hempty, Bool.not_true, Bool.false_and, Bool.false_eq_true,
      if_false]
    exact bind_eq_ok_iff.2 ⟨_, hsite', rfl⟩
  | plain h =>
    cases ts with
    | nil => rfl
    | cons u rest =>
      by_cases ht : t.isPunct sigil = true
      · obtain ⟨hescape, hmark, hname, hgroup⟩ := (standsAlone_cons_iff ht).1 h
        cases u with
        | leaf l =>
          have hkind : l.kind ≠ .name := beq_eq_false_iff_ne.1 hname
          simp [Piece.sight, ht, hescape, hmark, hkind, pure, Except.pure]
        | group d children span =>
          cases d with
          | parenthesis => exact absurd hgroup (by simp [Tree.isGroup])
          | brace | bracket => simp [Piece.sight, ht, hescape, hmark, pure, Except.pure]
      · simp [Piece.sight, ht, pure, Except.pure]

/-- **What is seen at the front of a block** is what the rules of pieces say. -/
theorem sight_eq_ok_iff : Piece.sight r t ts = .ok (s, rest) ↔ Takes r (t :: ts) s rest :=
  ⟨.of_sight, Takes.sight⟩

/-- **The pieces of a row of tokens**, where `inner` gives those inside a group. -/
inductive Lists (inner : Region → Except SyntaxError (List Piece)) (r : Region) :
    List Tree → List Piece → Prop
  /-- There are no more. -/
  | nil : Lists inner r [] []
  /-- One piece, and those after it. -/
  | piece {t : Tree} {ts rest : List Tree} {p : Piece} {ps : List Piece}
      (htakes : Takes r (t :: ts) (.piece p) rest) (h : Lists inner r rest ps) :
      Lists inner r (t :: ts) (p :: ps)
  /-- A group, with a piece for each of its delimiters, and the pieces after it. -/
  | group {t : Tree} {ts rest : List Tree} {d : Delimiter} {inside : Region}
      {within ps : List Piece} (htakes : Takes r (t :: ts) (.group d inside) rest)
      (hwithin : inner inside = .ok within) (h : Lists inner r rest ps) :
      Lists inner r (t :: ts)
        (⟨inside.span.startPos, inside.span.startPos + 1, .text d.opening⟩ ::
          (within ++ ⟨inside.span.stopPos - 1, inside.span.stopPos, .text d.closing⟩ :: ps))

variable {inner : Region → Except SyntaxError (List Piece)} {ps : List Piece}

/-- **A row of tokens becomes pieces** as the rules say. -/
theorem ofTokens_eq_ok_iff : ofTokens inner r ts = .ok ps ↔ Lists inner r ts ps := by
  constructor
  · intro h
    -- the recursion of the function gives the rules, and the rules lead through it
    fun_induction ofTokens inner r ts generalizing ps with
    | case1 =>
      obtain rfl := Except.ok.inj h
      exact .nil
    | case2 => exact absurd h error_ne_ok
    | case3 t ts p rest heq ih =>
      obtain ⟨more, hmore, h⟩ := bind_eq_ok_iff.1 h
      obtain rfl := Except.ok.inj h
      exact .piece (sight_eq_ok_iff.1 heq) (ih hmore)
    | case4 t ts d inside rest heq =>
      rename_i ih
      obtain ⟨within, hwithin, h⟩ := bind_eq_ok_iff.1 h
      obtain ⟨more, hmore, h⟩ := bind_eq_ok_iff.1 h
      obtain rfl := Except.ok.inj h
      exact .group (sight_eq_ok_iff.1 heq) hwithin (ih hmore)
  · intro h
    induction h with
    | nil => rw [ofTokens]
    | piece htakes _ ih =>
      have hsight := sight_eq_ok_iff.2 htakes
      rw [ofTokens]
      split
      · next heq => exact absurd (heq.symm.trans hsight) error_ne_ok
      · next heq =>
        obtain ⟨hp, rfl⟩ := Prod.mk.inj (Except.ok.inj (heq.symm.trans hsight))
        obtain rfl := Sighting.piece.inj hp
        exact bind_eq_ok_iff.2 ⟨_, ih, rfl⟩
      · next heq =>
        obtain ⟨hp, -⟩ := Prod.mk.inj (Except.ok.inj (heq.symm.trans hsight))
        exact absurd hp nofun
    | group htakes hwithin _ ih =>
      have hsight := sight_eq_ok_iff.2 htakes
      rw [ofTokens]
      split
      · next heq => exact absurd (heq.symm.trans hsight) error_ne_ok
      · next heq =>
        obtain ⟨hp, -⟩ := Prod.mk.inj (Except.ok.inj (heq.symm.trans hsight))
        exact absurd hp nofun
      · next heq =>
        obtain ⟨hp, rfl⟩ := Prod.mk.inj (Except.ok.inj (heq.symm.trans hsight))
        obtain ⟨rfl, rfl⟩ := Sighting.group.inj hp
        exact bind_eq_ok_iff.2 ⟨_, hwithin, bind_eq_ok_iff.2 ⟨_, ih, rfl⟩⟩

end Piece

end TokenTemplate
