import TokenTemplate.Proofs.Token.Lossless
import TokenTemplate.Proofs.Token.Nesting

/-!
# Which sources have a token tree

A source has a token tree exactly if it can be read to its end, its row of tokens is well nested and
no group of it lies too deep. Otherwise three kinds of complaint compete, and
`TokenTemplate.FirstOffence` says which one is made: the leftmost place where the reading cannot go
on, be it for want of a token or because of a closing delimiter; else a group that is still open at
the end; else the first group that lies too deep.

`TokenTemplate.Tree.ofSource_language` is the whole statement. That complaints exclude each other,
`TokenTemplate.FirstOffence.unique`, makes it an equivalence in both directions.
-/

namespace TokenTemplate

/-! ### Complaints -/

/-- A closing delimiter at an offset that does not match the innermost open group. -/
def Mismatch (marks : List Mark) (p : Nat) : Prop :=
  ∃ before m after d, marks = before ++ m :: after ∧ m.start = p ∧ m.kind = .closing d ∧
    ¬Innermost (kinds before) d

/-- The reading cannot go on at an offset: no token begins there, or a closing delimiter does not
match. -/
def Offends (marks : List Mark) (stop : Option Nat) (p : Nat) : Prop :=
  stop = some p ∨ Mismatch marks p

/-- **The complaint about a source**, by the span that it is about. -/
inductive FirstOffence (room : Int) (source : List Char) (marks : List Mark) (stop : Option Nat) :
    Span → Prop
  /-- The first character where the reading cannot go on. -/
  | reading {p : Nat} (h : Offends marks stop p) (hfirst : ∀ q, Offends marks stop q → p ≤ q) :
      FirstOffence room source marks stop (.between source p (p + 1))
  /-- Else the end of the source, if a group is still open. -/
  | unclosed {d : Delimiter} (hnone : ∀ q, ¬Offends marks stop q)
      (hopen : Innermost (kinds marks) d) :
      FirstOffence room source marks stop (.between source source.length source.length)
  /-- Else the first group that lies too deep. -/
  | deep {a b : Nat} (hnone : ∀ q, ¬Offends marks stop q) (hnested : WellNested (kinds marks))
      (hdeep : Deepest room marks a b) : FirstOffence room source marks stop (.between source a b)

section Complaints

variable {source : List Char} {marks : List Mark} {stop : Option Nat} {room : Int}
  {span span' : Span} {stack : List Delimiter}

theorem kinds_map_lexeme (source : List Char) (marks : List Mark) :
    (marks.map (Mark.lexeme source)).map Lexeme.kind = kinds marks := by
  rw [List.map_map, kinds]
  rfl

/-- A row that can be read to the end has no mismatch. -/
theorem not_mismatch_of_nest (h : nest [] (kinds marks) = some stack) (p : Nat) :
    ¬Mismatch marks p := by
  rintro ⟨before, m, after, d, rfl, -, hkind, hinner⟩
  rw [kinds_append, kinds_cons, hkind] at h
  exact hinner (innermost_of_nest h)

theorem not_offends_of_nest (h : nest [] (kinds marks) = some stack) (p : Nat) :
    ¬Offends marks none p := by
  rintro (hstop | hmismatch)
  · exact absurd hstop (Option.some_ne_none p).symm
  · exact not_mismatch_of_nest h p hmismatch

/-- No group is open after a well nested row. -/
theorem not_innermost_of_wellNested {ks : List LexemeKind} (h : WellNested ks) (d : Delimiter) :
    ¬Innermost ks d := by
  rw [innermost_iff (nest_eq_some_nil_iff.2 h)]
  exact (Option.some_ne_none d).symm

/-- Two places in a row are the same, or one of them is before the other. -/
theorem append_cons_cases {α : Type} {xs ys xs' ys' : List α} {x x' : α}
    (h : xs ++ x :: ys = xs' ++ x' :: ys') :
    (xs = xs' ∧ x = x' ∧ ys = ys') ∨ (∃ more, xs' = xs ++ x :: more ∧ ys = more ++ x' :: ys') ∨
      ∃ more, xs = xs' ++ x' :: more ∧ ys' = more ++ x :: ys := by
  rcases List.append_eq_append_iff.1 h with ⟨more, rfl, hrest⟩ | ⟨more, rfl, hrest⟩
  · cases more with
    | nil =>
      obtain ⟨rfl, rfl⟩ := List.cons.inj hrest
      exact Or.inl ⟨(List.append_nil _).symm, rfl, rfl⟩
    | cons y more =>
      obtain ⟨rfl, rfl⟩ := List.cons.inj hrest
      exact Or.inr (Or.inl ⟨more, rfl, rfl⟩)
  · cases more with
    | nil =>
      obtain ⟨rfl, rfl⟩ := List.cons.inj hrest
      exact Or.inl ⟨List.append_nil _, rfl, rfl⟩
    | cons y more =>
      obtain ⟨rfl, rfl⟩ := List.cons.inj hrest
      exact Or.inr (Or.inr ⟨more, rfl, rfl⟩)

/-- **The first closing delimiter that cannot be read** is the first complaint. -/
theorem firstOffence_of_mismatch {before after : List Mark} {m : Mark} {d : Delimiter}
    (htiles : Tiles source 0 marks (stop.getD source.length))
    (hmarks : marks = before ++ m :: after) (hkind : m.kind = .closing d)
    (hnest : nest [] (kinds before) = some stack) (hhead : stack.head? ≠ some d) :
    FirstOffence room source marks stop (.between source m.start m.stop) := by
  have hmem : m ∈ marks := hmarks ▸ List.mem_append_right _ List.mem_cons_self
  obtain ⟨-, -, hle, hstop, -⟩ := htiles.mem m hmem
  rw [(htiles.spells m hmem).length_eq_one (Or.inr (Or.inr ⟨d, hkind⟩))] at hstop
  have hinner : ¬Innermost (kinds before) d := by rwa [innermost_iff hnest]
  rw [hstop]
  refine .reading (Or.inr ⟨before, m, after, d, hmarks, rfl, hkind, hinner⟩) ?_
  rintro q (rfl | ⟨before', m', after', d', hmarks', rfl, hkind', hinner'⟩)
  · rw [Option.getD_some] at hle
    omega
  · have hpair := htiles.pairwise
    rw [hmarks] at hmarks' hpair
    rcases append_cons_cases hmarks' with ⟨-, rfl, -⟩ | ⟨more, -, rfl⟩ | ⟨more, rfl, -⟩
    · exact le_rfl
    · -- a later one is no earlier
      have hafter := (List.pairwise_cons.1 (List.pairwise_append.1 hpair).2.1).1 m' (by simp)
      omega
    · -- an earlier one has been read
      rw [kinds_append, kinds_cons, hkind'] at hnest
      exact absurd (innermost_of_nest hnest) hinner'

/-- The first group that lies too deep is one group. -/
theorem Deepest.unique {a b a' b' : Nat} (h : Deepest room marks a b)
    (h' : Deepest room marks a' b') : a = a' ∧ b = b' := by
  obtain ⟨before, o, inner, c, after, d, hmarks, ho, hc, hinner, hbefore, hdeep, rfl, rfl⟩ := h
  obtain ⟨before', o', inner', c', after', d', hmarks', ho', hc', hinner', hbefore', hdeep', rfl,
    rfl⟩ := h'
  rw [hmarks] at hmarks'
  -- of two opening delimiters the earlier one is not too deep, by the other one
  rcases append_cons_cases hmarks' with ⟨rfl, rfl, hrest⟩ | ⟨more, rfl, -⟩ | ⟨more, rfl, -⟩
  · obtain rfl : d = d' := LexemeKind.opening.inj (ho.symm.trans ho')
    refine ⟨rfl, ?_⟩
    -- and of two closing ones the earlier one closes nothing inside the other group
    rcases append_cons_cases hrest with ⟨-, rfl, -⟩ | ⟨more, rfl, -⟩ | ⟨more, rfl, -⟩
    · rfl
    · rw [kinds_append, kinds_cons, hc] at hinner'
      exact absurd (innermost_of_nest (hinner'.nest_eq [])) (not_innermost_of_wellNested hinner d)
    · rw [kinds_append, kinds_cons, hc'] at hinner
      exact absurd (innermost_of_nest (hinner.nest_eq [])) (not_innermost_of_wellNested hinner' d)
  · have hroom := hbefore' before o more d rfl ho
    omega
  · have hroom := hbefore before' o' more d' rfl ho'
    omega

/-- **There is only one first complaint.** -/
theorem FirstOffence.unique (h : FirstOffence room source marks stop span)
    (h' : FirstOffence room source marks stop span') : span = span' := by
  cases h with
  | @reading p hp hfirst =>
    cases h' with
    | @reading q hq hfirst' => rw [le_antisymm (hfirst q hq) (hfirst' p hp)]
    | unclosed hnone => exact absurd hp (hnone p)
    | deep hnone => exact absurd hp (hnone p)
  | unclosed hnone hopen =>
    cases h' with
    | @reading q hq => exact absurd hq (hnone q)
    | unclosed => rfl
    | deep _ hnested => exact absurd hopen (not_innermost_of_wellNested hnested _)
  | deep hnone hnested hdeep =>
    cases h' with
    | @reading q hq => exact absurd hq (hnone q)
    | unclosed _ hopen => exact absurd hopen (not_innermost_of_wellNested hnested _)
    | deep _ _ hdeep' =>
      obtain ⟨rfl, rfl⟩ := hdeep.unique hdeep'
      rfl

/-- About a source that can be read to its end, is well nested and lies nowhere too deep there is no
complaint. -/
theorem FirstOffence.not_of_shallow (hnested : WellNested (kinds marks))
    (hshallow : Shallow room marks) (h : FirstOffence room source marks none span) : False := by
  cases h with
  | @reading p hp => exact not_offends_of_nest (hnested.nest_eq []) p hp
  | unclosed _ hopen => exact not_innermost_of_wellNested hnested _ hopen
  | deep _ _ hdeep =>
    obtain ⟨before, o, inner, c, after, d, hmarks, ho, -, -, -, hdeep, -, -⟩ := hdeep
    have hroom := hshallow before o _ d hmarks ho
    omega

end Complaints

/-! ### What becomes of a source -/

namespace Tree

mutual

/-- The group that is too deep is one of the tree. -/
theorem mem_parts_of_tooDeep? {room : Int} {span : Span} : (t : Tree) →
    tooDeep? room t = some span → ∃ u ∈ parts t, u.span = span
  | leaf l, h => absurd h (by simp [tooDeep?])
  | group d children s, h => by
    rw [tooDeep?] at h
    rw [parts]
    split at h
    · exact ⟨_, List.mem_cons_self, Option.some.inj h⟩
    · obtain ⟨u, hu, hspan⟩ := mem_allParts_of_anyTooDeep? children h
      exact ⟨u, List.mem_cons_of_mem _ hu, hspan⟩

theorem mem_allParts_of_anyTooDeep? {room : Int} {span : Span} : (ts : List Tree) →
    anyTooDeep? room ts = some span → ∃ u ∈ allParts ts, u.span = span
  | [], h => absurd h (by simp [anyTooDeep?])
  | t :: ts, h => by
    rw [anyTooDeep?, Option.or_eq_some_iff] at h
    rw [allParts]
    rcases h with h | ⟨-, h⟩
    · obtain ⟨u, hu, hspan⟩ := mem_parts_of_tooDeep? t h
      exact ⟨u, List.mem_append_left _ hu, hspan⟩
    · obtain ⟨u, hu, hspan⟩ := mem_allParts_of_anyTooDeep? ts h
      exact ⟨u, List.mem_append_right _ hu, hspan⟩

end

end Tree

section Source

variable {settings : Settings} {source : List Char} {marks : List Mark} {stop : Option Nat}

/-- The span of the character where no token begins. -/
theorem Stray.span_ofOffset {p : Nat} (h : Reads source 0 marks (some p)) :
    (Stray.ofOffset source p).span = .between source p (p + 1) := by
  obtain ⟨c, hc, hgap⟩ := h.getElem?_stop rfl
  have hne : c ≠ '\n' := by
    rintro rfl
    exact absurd hgap (by decide)
  rw [Stray.span, Stray.ofOffset, Span.between]
  simp only [Position.right_ofOffset hc hne]

/-- **What becomes of a source**: a tree, if it is well nested and not too deep, and else its first
complaint. -/
theorem Tree.ofSource_cases (settings : Settings) (h : Reads source 0 marks stop) :
    ((∃ ts, Tree.ofSource settings source = .ok ts) ∧ stop = none ∧ WellNested (kinds marks) ∧
        Shallow settings.maxDepth marks) ∨
      ∃ e, Tree.ofSource settings source = .error e ∧ e.filename = settings.filename ∧
        FirstOffence settings.maxDepth source marks stop e.span := by
  rcases hfold : assemble [] [] (marks.map (Mark.lexeme source)) with ⟨d, span⟩ | ⟨groups, level⟩
  · -- the fold stops at a closing delimiter, before the reading does
    refine Or.inr ⟨_, ofSource_of_mismatch h hfold, rfl, ?_⟩
    obtain ⟨before, l, after, stack, hrow, hkind, rfl, hnest, hhead⟩ := mismatched_of_assemble hfold
    obtain ⟨before, rest, hmarks, rfl, hrest⟩ := List.map_eq_append_iff.1 hrow
    obtain ⟨m, after, rfl, rfl, rfl⟩ := List.map_eq_cons_iff.1 hrest
    rw [kinds_map_lexeme] at hnest
    exact firstOffence_of_mismatch h.tiles hmarks hkind hnest hhead
  have hnest := nest_of_assemble hfold
  rw [kinds_map_lexeme] at hnest
  cases stop with
  | some p =>
    refine Or.inr ⟨_, ofSource_of_stray h hfold, rfl, ?_⟩
    rw [Stray.span_ofOffset h]
    refine .reading (Or.inl rfl) ?_
    rintro q (hq | hq)
    · exact (Option.some.inj hq).le
    · exact absurd hq (not_mismatch_of_nest hnest q)
  | none =>
    have hnone := not_offends_of_nest hnest
    cases groups with
    | cons g groups =>
      refine Or.inr ⟨_, ofSource_of_open h hfold, rfl, ?_⟩
      exact .unclosed hnone ((innermost_iff hnest).2 rfl)
    | nil =>
      obtain ⟨hfills, hmarks⟩ := assemble_fills h.tiles (stacked_nil source) hfold
      have heq : Tree.allMarks level.reverse = marks := hmarks
      have hnested := nest_eq_some_nil_iff.1 hnest
      have hsource : Tree.ofSource settings source = _ := ofSource_of_closed h hfold
      rcases hdepth : Tree.anyTooDeep? settings.maxDepth level.reverse with _ | span
      · rw [hdepth] at hsource
        exact Or.inl ⟨⟨_, hsource⟩, rfl, hnested, heq ▸ shallow_of_anyTooDeep? _ hdepth⟩
      · rw [hdepth] at hsource
        refine Or.inr ⟨_, hsource, rfl, ?_⟩
        obtain ⟨t, ht, rfl⟩ := mem_allParts_of_anyTooDeep? _ hdepth
        rw [(hfills.mem_allParts t ht).1.eq_between]
        exact .deep hnone hnested (heq ▸ deepest_of_anyTooDeep? _ hdepth)

/-- **A complaint is about a piece of the source.** -/
theorem FirstOffence.liesIn {room : Int} {span : Span} (h : Reads source 0 marks stop)
    (hoffence : FirstOffence room source marks stop span) : span.LiesIn source := by
  have htiles := h.tiles
  have hlen := htiles.stop_le
  cases hoffence with
  | @reading p hp =>
    refine Span.liesIn_between (Nat.le_succ p) ?_
    rcases hp with hstop | ⟨before, m, after, d, rfl, rfl, -, -⟩
    · obtain ⟨c, hc, -⟩ := h.getElem?_stop hstop
      exact (List.getElem?_eq_some_iff.1 hc).1
    · obtain ⟨-, hlt, hle, -⟩ := htiles.mem m (by simp)
      omega
  | unclosed => exact Span.liesIn_between le_rfl le_rfl
  | deep _ _ hdeep =>
    obtain ⟨before, o, inner, c, after, d, rfl, -, -, -, -, -, rfl, rfl⟩ := hdeep
    obtain ⟨-, hlto, -⟩ := htiles.mem o (by simp)
    obtain ⟨-, hltc, hle, -⟩ := htiles.mem c (by simp)
    have hafter := (List.pairwise_cons.1 (List.pairwise_append.1 htiles.pairwise).2.1).1 c (by simp)
    exact Span.liesIn_between (by omega) (by omega)

/-- **The sources that have a token tree, and what is said about the others.** Every source has one
reading. It has a tree exactly if it is read to its end, its tokens are well nested and no group
lies deeper than the settings allow, and the span of the complaint is otherwise that of
`TokenTemplate.FirstOffence`. -/
theorem Tree.ofSource_language (settings : Settings) (source : List Char) :
    ∃ marks stop, Reads source 0 marks stop ∧
      (∀ marks' stop', Reads source 0 marks' stop' → marks' = marks ∧ stop' = stop) ∧
      ((∃ ts, Tree.ofSource settings source = .ok ts) ↔
        stop = none ∧ WellNested (kinds marks) ∧ Shallow settings.maxDepth marks) ∧
      ∀ span, (∃ e, Tree.ofSource settings source = .error e ∧ e.span = span) ↔
        FirstOffence settings.maxDepth source marks stop span := by
  obtain ⟨marks, stop, h⟩ := exists_reads (Nat.zero_le source.length)
  refine ⟨marks, stop, h, fun marks' stop' h' => h'.unique h, ?_⟩
  rcases ofSource_cases settings h with
    ⟨⟨ts, hok⟩, rfl, hnested, hshallow⟩ | ⟨e, herror, -, hoffence⟩
  · refine ⟨⟨fun _ => ⟨rfl, hnested, hshallow⟩, fun _ => ⟨ts, hok⟩⟩, fun span => ⟨?_, ?_⟩⟩
    · rintro ⟨e, he, -⟩
      exact absurd (hok.symm.trans he) (by simp)
    · exact fun hoffence => (hoffence.not_of_shallow hnested hshallow).elim
  · refine ⟨⟨?_, ?_⟩, fun span => ⟨?_, fun hspan => ⟨e, herror, hoffence.unique hspan⟩⟩⟩
    · rintro ⟨ts, hok⟩
      exact absurd (hok.symm.trans herror) (by simp)
    · rintro ⟨rfl, hnested, hshallow⟩
      exact (hoffence.not_of_shallow hnested hshallow).elim
    · rintro ⟨e', he', rfl⟩
      obtain rfl := Except.error.inj (herror.symm.trans he')
      exact hoffence

end Source

end TokenTemplate
