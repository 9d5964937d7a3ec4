import TokenTemplate.Proofs.Grammar.Split
import TokenTemplate.Proofs.Respacing.Block
import TokenTemplate.Proofs.Respacing.Row
import TokenTemplate.Proofs.Routine.Bare
import TokenTemplate.Proofs.Template.Placed

/-!
# Regions after a change of white space

Two regions correspond, `TokenTemplate.Respacing.Regions`, if what is still to come in them is a row
of both texts whose blocks have been left as they were. Whatever takes tokens from the one can take
them from the other, and the regions after it correspond again: a word, an arrow, a group
(`TokenTemplate.Respacing.Regions.group`), or the tokens of a payload
(`TokenTemplate.Respacing.Regions.takeUntil`).

A payload is a piece of text, with the white space in it. So an expression or a pattern is the same
in both texts if no gap inside of its span has been changed
(`TokenTemplate.Respacing.Regions.evaluates`, `TokenTemplate.Respacing.Regions.matched`); where it
ends is seen at the tokens alone.
-/

namespace TokenTemplate

/-! ### What is seen of a shape -/

namespace Tree

/-- A property that a token has by its shape. -/
def IsShaped (p : Tree → Bool) : Prop :=
  ∀ t, p t.shape = p t

theorem isShaped_isPunct (c : Char) : IsShaped (isPunct c) := by
  rintro (l | ⟨d, children, s⟩) <;> rfl

theorem isShaped_isWord (w : String) : IsShaped (isWord w) := by
  rintro (l | ⟨d, children, s⟩) <;> rfl

theorem isShaped_isKind (k : LeafKind) : IsShaped (isKind k) := by
  rintro (l | ⟨d, children, s⟩) <;> rfl

theorem isShaped_isGroup (d : Delimiter) : IsShaped (isGroup d) := by
  rintro (l | ⟨d, children, s⟩) <;> rfl

theorem IsShaped.eq_of_shape_eq {p : Tree → Bool} (hp : IsShaped p) {t t' : Tree}
    (h : t'.shape = t.shape) : p t' = p t := by
  rw [← hp t', h, hp t]

end Tree

namespace Respacing

variable {ρ : Respacing} {i i' j j' k k' : Nat} {r r' r₁ rest : Region} {ts : List Tree}

/-! ### Looking ahead -/

theorem Row.peekIs_eq (h : ρ.Row i i' r.tokens r'.tokens j j') {p : Tree → Bool}
    (hp : Tree.IsShaped p) (n : Nat) : r'.peekIs p n = r.peekIs p n := by
  have hshapes := congrArg (·[n]?) h.allShapes_eq
  simp only [Tree.allShapes_eq_map, List.getElem?_map] at hshapes
  rw [Region.peekIs, Region.peekIs, Region.peek, Region.peek]
  revert hshapes
  cases r.tokens[n]? with
  | none =>
    intro hshapes
    rw [Option.map_none, Option.map_eq_none_iff] at hshapes
    rw [hshapes]
  | some t =>
    intro hshapes
    rw [Option.map_some, Option.map_eq_some_iff] at hshapes
    obtain ⟨t', ht', hshape⟩ := hshapes
    rw [ht', Option.any_some, Option.any_some, hp.eq_of_shape_eq hshape]

theorem Row.peekArrow_eq (h : ρ.Row i i' r.tokens r'.tokens j j') :
    r'.peekArrow 0 = r.peekArrow 0 := by
  rw [Region.peekArrow, Region.peekArrow, h.peekIs_eq (Tree.isShaped_isPunct _),
    h.peekIs_eq (Tree.isShaped_isPunct _)]
  congr 1
  rw [Region.adjacent, Region.adjacent, Region.peek, Region.peek, Region.peek, Region.peek]
  rcases hr : r.tokens with _ | ⟨t, _ | ⟨u, us⟩⟩
  · rw [hr] at h
    obtain ⟨hr', -⟩ := h.nil_inv
    rw [hr']
  · rw [hr] at h
    obtain ⟨t', ts', _, _, _, _, hr', _, _, hrest⟩ := h.head
    obtain ⟨rfl, -⟩ := hrest.nil_inv
    rw [hr']
    rfl
  · rw [hr] at h
    obtain ⟨t', ts', a, a', b, b', hr', -, ht, hrest⟩ := h.head
    obtain ⟨u', us', c, c', d, d', rfl, hgap, hu, hrest⟩ := hrest.head
    rw [hr']
    exact ht.touches_eq hgap hu hrest

theorem Row.head_any_eq (h : ρ.Row i i' ts ts' j j') {p : Tree → Bool} (hp : Tree.IsShaped p) :
    ts'.head?.any p = ts.head?.any p := by
  cases ts with
  | nil =>
    obtain ⟨rfl, -⟩ := h.nil_inv
    rfl
  | cons t ts =>
    obtain ⟨t', ts', a, a', b, b', rfl, -, ht, -⟩ := h.head
    rw [List.head?_cons, List.head?_cons, Option.any_some, Option.any_some,
      hp.eq_of_shape_eq ht.shape_eq]

/-- **A token stands alone** in both texts or in none. -/
theorem Row.standsAlone_eq {t t' : Tree} (h : ρ.Row i i' (t :: ts) (t' :: ts') j j') :
    standsAlone t' ts' = standsAlone t ts := by
  obtain ⟨_, _, a, a', b, b', heq, -, ht, hrest⟩ := h.head
  obtain ⟨rfl, rfl⟩ := List.cons.inj heq
  cases ts with
  | nil =>
    obtain ⟨rfl, -⟩ := hrest.nil_inv
    rfl
  | cons u us =>
    obtain ⟨u', us', c, c', d, d', rfl, hgap, hu, hlast⟩ := hrest.head
    have htouches := ht.touches_eq hgap hu hlast
    have hshape := hu.shape_eq
    rw [standsAlone, standsAlone, htouches, (Tree.isShaped_isPunct _).eq_of_shape_eq ht.shape_eq,
      (Tree.isShaped_isPunct _).eq_of_shape_eq hshape,
      (Tree.isShaped_isPunct _).eq_of_shape_eq hshape,
      (Tree.isShaped_isKind _).eq_of_shape_eq hshape,
      (Tree.isShaped_isGroup _).eq_of_shape_eq hshape]

/-- **A payload ends in both texts at the same token.** -/
def EndsAlike (ρ : Respacing) (stop : Region.Stop) : Prop :=
  ∀ {i i' j j' : Nat} {last last' : Option Tree} {r r' : Region},
    ρ.Row i i' r.tokens r'.tokens j j' → last'.map Tree.shape = last.map Tree.shape →
      stop last' r' = stop last r

theorem endsAlike_never : ρ.EndsAlike .never := fun _ _ => rfl

theorem endsAlike_arrow : ρ.EndsAlike .arrow := fun h _ => h.peekArrow_eq

theorem endsAlike_wordIn : ρ.EndsAlike .wordIn := fun h _ => h.peekIs_eq (Tree.isShaped_isWord _) 0

theorem endsAlike_arrowOrBrace : ρ.EndsAlike .arrowOrBrace := by
  intro i i' j j' last last' r r' h _
  rw [Region.Stop.arrowOrBrace, Region.Stop.arrowOrBrace, h.peekArrow_eq,
    h.peekIs_eq (Tree.isShaped_isGroup _)]

theorem endsAlike_guardOrArrow : ρ.EndsAlike .guardOrArrow := by
  intro i i' j j' last last' r r' h _
  rw [Region.Stop.guardOrArrow, Region.Stop.guardOrArrow, h.peekArrow_eq,
    h.peekIs_eq (Tree.isShaped_isWord _)]

theorem endsAlike_finalBrace : ρ.EndsAlike .finalBrace := by
  intro i i' j j' last last' r r' h _
  rw [Region.Stop.finalBrace, Region.Stop.finalBrace, h.length_eq,
    h.peekIs_eq (Tree.isShaped_isGroup _)]

theorem endsAlike_join : ρ.EndsAlike .join := by
  intro i i' j j' last last' r r' h hlast
  have hpoint : (last'.any fun t => !t.isPunct '.') = last.any fun t => !t.isPunct '.' := by
    cases last with
    | none =>
      rw [Option.map_none, Option.map_eq_none_iff] at hlast
      rw [hlast]
    | some t =>
      rw [Option.map_some, Option.map_eq_some_iff] at hlast
      obtain ⟨t', rfl, hshape⟩ := hlast
      rw [Option.any_some, Option.any_some, (Tree.isShaped_isPunct '.').eq_of_shape_eq hshape]
  rw [Region.Stop.join, Region.Stop.join, h.peekIs_eq (Tree.isShaped_isWord _),
    h.peekIs_eq (Tree.isShaped_isGroup _), hpoint]

theorem endsAlike_loopBody : ρ.EndsAlike .loopBody := by
  intro i i' j j' last last' r r' h hlast
  exact congrArg₂ or (endsAlike_arrowOrBrace h hlast) (endsAlike_join h hlast)

end Respacing

/-! ### What ends a payload -/

namespace Region.Stop

/-- **What ends a payload has nothing to do with blocks.** -/
def Isolates (stop : Region.Stop) : Prop :=
  ∀ {last : Option Tree} {r : Region} {t : Tree} {ts : List Tree},
    r.tokens = t :: ts → stop last r = true → t.Isolates

variable {r : Region} {t : Tree} {ts : List Tree}

theorem peekIs_zero_eq {p : Tree → Bool} (hr : r.tokens = t :: ts) : r.peekIs p 0 = p t := by
  rw [peekIs, peek, hr]
  rfl

theorem isolates_of_peekArrow (hr : r.tokens = t :: ts) (h : r.peekArrow 0 = true) :
    t.Isolates := by
  rw [peekArrow, Bool.and_eq_true, Bool.and_eq_true, peekIs_zero_eq hr] at h
  exact Tree.isolates_of_isPunct h.1.1 (by decide)

theorem isolates_of_peekBrace (hr : r.tokens = t :: ts)
    (h : r.peekIs (Tree.isGroup .brace) 0 = true) : t.Isolates := by
  rw [peekIs_zero_eq hr] at h
  exact Tree.isolates_of_brace h

theorem isolates_of_peekWord {w : String} (hr : r.tokens = t :: ts) (hw : w ≠ "_")
    (h : r.peekIs (Tree.isWord w) 0 = true) : t.Isolates := by
  rw [peekIs_zero_eq hr] at h
  exact Tree.isolates_of_isWord h hw

theorem isolates_never : Isolates never := fun _ h => absurd h Bool.false_ne_true

theorem isolates_arrow : Isolates arrow := isolates_of_peekArrow

theorem isolates_wordIn : Isolates wordIn := fun hr h => isolates_of_peekWord hr (by decide) h

theorem isolates_arrowOrBrace : Isolates arrowOrBrace := by
  intro last r t ts hr h
  rcases Bool.or_eq_true_iff.1 h with h | h
  · exact isolates_of_peekArrow hr h
  · exact isolates_of_peekBrace hr h

theorem isolates_guardOrArrow : Isolates guardOrArrow := by
  intro last r t ts hr h
  rcases Bool.or_eq_true_iff.1 h with h | h
  · exact isolates_of_peekWord hr (by decide) h
  · exact isolates_of_peekArrow hr h

theorem isolates_finalBrace : Isolates finalBrace := fun hr h =>
  isolates_of_peekBrace hr (Bool.and_eq_true_iff.1 h).1

theorem isolates_loopBody : Isolates loopBody := by
  intro last r t ts hr h
  rcases Bool.or_eq_true_iff.1 h with h | h
  · exact isolates_arrowOrBrace hr h
  · rw [Bool.and_eq_true, Bool.and_eq_true] at h
    exact isolates_of_peekWord hr (by decide) h.1.1

end Region.Stop

/-- What is left after a payload begins where the payload ends. -/
theorem Region.stop_of_splitFrom {r : Region} {stop : Region.Stop} {last : Option Tree} {t : Tree}
    {ts us : List Tree} (h : (r.splitFrom stop last ts).2 = t :: us) :
    ∃ last, stop last (r.goOn (t :: us)) = true := by
  induction ts generalizing last with
  | nil => exact absurd h nofun
  | cons u ts ih =>
    rw [splitFrom] at h
    split at h
    · next hstop =>
      obtain ⟨rfl, rfl⟩ := List.cons.inj h
      exact ⟨last, hstop⟩
    · exact ih h

/-! ### Regions that correspond -/

namespace Respacing

variable (ρ : Respacing)

/-- All gaps inside of a piece of text have been left as they were. -/
def Keeps (s : Span) : Prop :=
  ∀ p q, s.startPos ≤ p → q ≤ s.stopPos → ρ.kept p q

/-- **Regions that correspond**: what is still to come in them is a row from one offset to another,
and its blocks have been left as they were. -/
structure Regions (i i' : Nat) (r r' : Region) (j j' : Nat) : Prop where
  /-- The one region is of the text. -/
  source_eq : r.source = ρ.source
  /-- The other one is of the changed text. -/
  source_eq' : r'.source = ρ.source'
  /-- The choices of the caller are the same. -/
  settings_eq : r'.settings = r.settings
  /-- The tokens are a row. -/
  row : ρ.Row i i' r.tokens r'.tokens j j'
  /-- The blocks have been kept. -/
  keeps : ∀ s ∈ Tree.allBlocks .nothing r.tokens, ρ.Keeps s

/-- **Groups that correspond**: the insides from one delimiter to the other, and where they stand.
-/
structure Groups (d : Delimiter) (a a' : Nat) (r r' : Region) (b b' : Nat) : Prop where
  /-- The insides correspond. -/
  regions : ρ.Regions (a + 1) (a' + 1) r r' b b'
  /-- The group stands where it does. -/
  span_eq : r.span = .between ρ.source a (b + 1)
  /-- So does the changed one. -/
  span_eq' : r'.span = .between ρ.source' a' (b' + 1)
  /-- Its first delimiter. -/
  opening : ρ.source[a]? = some d.openChar
  /-- The first delimiter after the change. -/
  opening' : ρ.source'[a']? = some d.openChar
  /-- Its second delimiter. -/
  closing : ρ.source[b]? = some d.closeChar
  /-- The second delimiter after the change. -/
  closing' : ρ.source'[b']? = some d.closeChar

variable {ρ} {i i' j j' k k' a a' b b' : Nat} {r r' r₁ rest : Region} {t : Tree}
  {ts ts' children : List Tree} {d : Delimiter} {span : Span}

theorem Keeps.mono {s s' : Span} (h : ρ.Keeps s) (hstart : s.startPos ≤ s'.startPos)
    (hstop : s'.stopPos ≤ s.stopPos) : ρ.Keeps s' :=
  fun p q hp hq => h p q (hstart.trans hp) (hq.trans hstop)

theorem Regions.goOn (h : ρ.Regions i i' r r' j j') (hrow : ρ.Row k k' ts ts' j j')
    (hsub : Tree.allBlocks .nothing ts ⊆ Tree.allBlocks .nothing r.tokens) :
    ρ.Regions k k' (r.goOn ts) (r'.goOn ts') j j' :=
  ⟨h.source_eq, h.source_eq', h.settings_eq, hrow, fun s hs => h.keeps s (hsub hs)⟩

/-- The inside of a group whose blocks are kept. -/
theorem Regions.inside (h : ρ.Regions i i' r r' j j')
    (ht : ρ.Token a a' (.group d children span) t b b')
    (hkeeps : ∀ s ∈ Tree.allBlocks .nothing children, ρ.Keeps s) :
    ∃ children' span' c c', t = .group d children' span' ∧ b = c + 1 ∧ b' = c' + 1 ∧
      ρ.Groups d a a' (r.inside children span) (r'.inside children' span') c c' := by
  obtain ⟨children', span', c, c', rfl, rfl, rfl, hspan, hspan', hopen, hopen', hclose, hclose',
    hchildren⟩ := ht.group_inv
  exact ⟨children', span', c, c', rfl, rfl, rfl,
    ⟨h.source_eq, h.source_eq', h.settings_eq, hchildren, hkeeps⟩, hspan, hspan', hopen, hopen',
    hclose, hclose'⟩

/-- The cursors of the delimiters of a group. -/
theorem Groups.cursor_eq (h : ρ.Groups d a a' r r' b b') :
    r.span.cursor.firstCharacter = (Span.between ρ.source a (a + 1)).cursor ∧
      r'.span.cursor.firstCharacter = (Span.between ρ.source' a' (a' + 1)).cursor ∧
      r.span.cursor.lastCharacter = (Span.between ρ.source b (b + 1)).cursor ∧
      r'.span.cursor.lastCharacter = (Span.between ρ.source' b' (b' + 1)).cursor := by
  have hopen : d.openChar ≠ '\n' := by cases d <;> decide
  have hclose : d.closeChar ≠ '\n' := by cases d <;> decide
  rw [h.span_eq, h.span_eq']
  exact ⟨Span.firstCharacter_between h.opening hopen, Span.firstCharacter_between h.opening' hopen,
    Span.lastCharacter_between h.closing hclose, Span.lastCharacter_between h.closing' hclose⟩

/-! ### Taking tokens -/

/-- **A token that is passed over**, whatever its blocks. -/
theorem Regions.next (h : ρ.Regions i i' r r' j j') (hr : r.tokens = t :: ts)
    (hsub : Tree.allBlocks .nothing ts ⊆ Tree.allBlocks .nothing (t :: ts)) :
    ∃ t' ts' a a' b b', r'.tokens = t' :: ts' ∧ i ≤ a ∧ i' ≤ a' ∧ ρ.Token a a' t t' b b' ∧
      ρ.Regions b b' (r.goOn ts) (r'.goOn ts') j j' := by
  have hrow := h.row
  rw [hr] at hrow
  obtain ⟨t', ts', a, a', b, b', hr', hgap, ht, hrest⟩ := hrow.head
  rw [← hr] at hsub
  exact ⟨t', ts', a, a', b, b', hr', hgap.le, hgap.le', ht, h.goOn hrest hsub⟩

theorem allBlocks_subset_of_not_sigil (h : t.isPunct sigil = false) :
    Tree.allBlocks .nothing ts ⊆ Tree.allBlocks .nothing (t :: ts) := by
  rw [Tree.allBlocks_of_not_sigil h]
  exact List.subset_append_right _ _

theorem Regions.word {w : String} (h : ρ.Regions i i' r r' j j') (hw : Construct.Word w r r₁) :
    ∃ k k' r₁', Construct.Word w r' r₁' ∧ i ≤ k ∧ i' ≤ k' ∧ ρ.Regions k k' r₁ r₁' j j' := by
  obtain ⟨t, ts, hr, hword, rfl⟩ := hw
  have hsigil : t.isPunct sigil = false := by
    cases t with
    | leaf l => exact isPunct_of_name (beq_iff_eq.1 (Bool.and_eq_true_iff.1 hword).1) sigil
    | group => rfl
  obtain ⟨t', ts', a, a', b, b', hr', hi, hi', ht, hrest⟩ :=
    h.next hr (allBlocks_subset_of_not_sigil hsigil)
  have hlt := ht.lt
  refine ⟨b, b', _, ⟨t', ts', hr', ?_, rfl⟩, by omega, by omega, hrest⟩
  rw [(Tree.isShaped_isWord w).eq_of_shape_eq ht.shape_eq, hword]

theorem Regions.name {l : Leaf} (h : ρ.Regions i i' r r' j j')
    (hname : r.expectName = .ok (l, r₁)) :
    ∃ l' k k' r₁', r'.expectName = .ok (l', r₁') ∧ l'.text = l.text ∧
      ρ.Regions k k' r₁ r₁' j j' := by
  obtain ⟨ts, hr, hl, rfl⟩ := Region.expectName_eq_ok_iff.1 hname
  obtain ⟨t', ts', a, a', b, b', hr', -, -, ht, hrest⟩ :=
    h.next hr (allBlocks_subset_of_not_sigil (isPunct_of_name hl sigil))
  cases ht with
  | leaf =>
    exact ⟨_, b, b', _, Region.expectName_eq_ok_iff.2 ⟨ts', hr', hl, rfl⟩, rfl, hrest⟩

theorem Regions.arrow {s : Span} (h : ρ.Regions i i' r r' j j')
    (harrow : r.expectArrow = .ok (s, r₁)) :
    ∃ s' k k' r₁', r'.expectArrow = .ok (s', r₁') ∧ ρ.Regions k k' r₁ r₁' j j' := by
  obtain ⟨t, u, ts, hr, hpeek, -, rfl⟩ := Region.expectArrow_eq_ok_iff.1 harrow
  have hpeek' := h.row.peekArrow_eq.trans hpeek
  -- neither half of an arrow is a sigil
  rw [Region.peekArrow, Bool.and_eq_true, Bool.and_eq_true, Region.peekIs, Region.peekIs,
    Region.peek, Region.peek, hr] at hpeek
  have hfirst := isPunct_unique hpeek.1.1 (by decide : '=' ≠ sigil)
  have hsecond := isPunct_unique hpeek.1.2 (by decide : '>' ≠ sigil)
  obtain ⟨t', us', a, a', b, b', hr', -, -, -, h⟩ :=
    h.next hr (allBlocks_subset_of_not_sigil hfirst)
  obtain ⟨u', ts', c, c', k, k', rfl, -, -, -, h⟩ :=
    h.next rfl (allBlocks_subset_of_not_sigil hsecond)
  exact ⟨_, k, k', _, Region.expectArrow_eq_ok_iff.2 ⟨t', u', ts', hr', hpeek', rfl, rfl⟩, h⟩

/-- **A group, and the region after it.** -/
theorem Regions.group {inside : Region} (h : ρ.Regions i i' r r' j j')
    (hgroup : r.expectGroup d = .ok (inside, rest)) :
    ∃ inside' rest' a a' b b' k k', r'.expectGroup d = .ok (inside', rest') ∧
      ρ.Groups d a a' inside inside' b b' ∧ ρ.Regions k k' rest rest' j j' := by
  obtain ⟨children, span, ts, hr, rfl, rfl⟩ := Region.expectGroup_eq_ok_iff.1 hgroup
  have hsigil : (Tree.group d children span).isPunct sigil = false := rfl
  obtain ⟨t', ts', a, a', k, k', hr', -, -, ht, hrest⟩ :=
    h.next hr (allBlocks_subset_of_not_sigil hsigil)
  have hkeeps : ∀ s ∈ Tree.allBlocks .nothing children, ρ.Keeps s := by
    intro s hs
    refine h.keeps s ?_
    rw [hr, Tree.allBlocks_of_not_sigil hsigil, Tree.blocks]
    exact List.mem_append_left _ hs
  obtain ⟨children', span', b, b', rfl, -, -, hinside⟩ := h.inside ht hkeeps
  exact ⟨_, _, a, a', b, b', k, k',
    Region.expectGroup_eq_ok_iff.2 ⟨children', span', ts', hr', rfl, rfl⟩,
    hinside, hrest⟩

theorem Regions.dropComma (h : ρ.Regions i i' r r' j j') :
    ∃ k k', ρ.Regions k k' (Construct.dropComma r) (Construct.dropComma r') j j' := by
  rw [Construct.dropComma, Construct.dropComma, h.row.peekIs_eq (Tree.isShaped_isPunct ',')]
  split
  · next hcomma =>
    obtain ⟨t, ts, hr, ht⟩ := Construct.peekIs_zero_iff.1 hcomma
    obtain ⟨t', ts', a, a', b, b', hr', -, -, -, hrest⟩ :=
      h.next hr (allBlocks_subset_of_not_sigil (isPunct_unique ht (by decide)))
    rw [hr, hr']
    exact ⟨b, b', hrest⟩
  · exact ⟨i, i', h⟩

/-! ### Payloads -/

/-- As many tokens are taken in both texts. -/
theorem length_splitFrom_eq {stop : Region.Stop} (hstop : ρ.EndsAlike stop)
    {last last' : Option Tree}
    (hrow : ρ.Row i i' ts ts' j j') (hlast : last'.map Tree.shape = last.map Tree.shape) :
    (r'.splitFrom stop last' ts').1.length = (r.splitFrom stop last ts).1.length := by
  induction ts generalizing i i' last last' ts' with
  | nil =>
    obtain ⟨rfl, -⟩ := hrow.nil_inv
    rfl
  | cons t ts ih =>
    obtain ⟨t', ts', a, a', b, b', rfl, -, ht, hrest⟩ := hrow.head
    have hshape : (some t').map Tree.shape = (some t).map Tree.shape :=
      congrArg some ht.shape_eq
    have hsame : stop last' (r'.goOn (t' :: ts')) = stop last (r.goOn (t :: ts)) := hstop hrow hlast
    rw [Region.splitFrom, Region.splitFrom, hsame]
    split
    · rfl
    · exact congrArg (· + 1) (ih hrest hshape)

/-- **The tokens of a payload**, and the regions after it. If there are any, they are a row by
themselves from the first to the last. -/
theorem Regions.takeUntil {stop : Region.Stop} (hstop : ρ.EndsAlike stop)
    (hisolates : stop.Isolates)
    (h : ρ.Regions i i' r r' j j') (htake : r.takeUntil stop = (ts, r₁)) :
    ∃ ts' r₁' k k', r'.takeUntil stop = (ts', r₁') ∧ i ≤ k ∧ i' ≤ k' ∧
      ρ.Regions k k' r₁ r₁' j j' ∧
      (ts ≠ [] → ∃ a a', i ≤ a ∧ i' ≤ a' ∧ ρ.Row a a' ts ts' k k' ∧ Runs ρ.source ts a k ∧
        Runs ρ.source' ts' a' k') := by
  obtain ⟨rfl, rfl⟩ := Prod.mk.inj htake
  have hsplit := Region.splitFrom_append r stop none r.tokens
  have hsplit' := Region.splitFrom_append r' stop none r'.tokens
  have hlength : (r'.splitFrom stop none r'.tokens).1.length =
      (r.splitFrom stop none r.tokens).1.length := length_splitFrom_eq hstop h.row rfl
  have hrow := h.row
  rw [← hsplit] at hrow
  obtain ⟨us, vs, k, k', hcut, htaken, hleft, hruns⟩ := hrow.append
  -- both texts are cut after as many tokens
  obtain ⟨rfl, rfl⟩ := List.append_inj (hsplit'.trans hcut) (hlength.trans htaken.length_eq.symm)
  refine ⟨_, _, k, k', rfl, htaken.fills.le, htaken.fills'.le, h.goOn hleft ?_, hruns⟩
  nth_rewrite 2 [← hsplit]
  refine Tree.allBlocks_subset_append fun t ht => ?_
  obtain ⟨us, hus⟩ : ∃ us, (r.splitFrom stop none r.tokens).2 = t :: us := by
    obtain ⟨us, hus⟩ := List.head?_eq_some_iff.1 ht
    exact ⟨us, hus⟩
  obtain ⟨last, hend⟩ := Region.stop_of_splitFrom hus
  exact hisolates rfl hend

/-- **The text of a payload** is the same in both texts if its white space has been kept. -/
theorem textOf_eq_of_keeps (hrow : ρ.Row a a' ts ts' k k') (hruns : Runs ρ.source ts a k)
    (hruns' : Runs ρ.source' ts' a' k') (hr : r.source = ρ.source) (hr' : r'.source = ρ.source')
    (hkeeps : ρ.Keeps (.between ρ.source a k)) : r'.textOf ts' = r.textOf ts := by
  rw [hruns.textOf_eq hr, hruns'.textOf_eq hr']
  exact congrArg String.ofList (hrow.slice_eq fun p q hp hq => hkeeps p q hp hq)

/-- **An expression** whose white space has been kept. -/
theorem Regions.evaluates {stop : Region.Stop} {e : Expression} (hstop : ρ.EndsAlike stop)
    (hisolates : stop.Isolates) (h : ρ.Regions i i' r r' j j')
    (he : Construct.Evaluates stop r e r₁) (hkeeps : ρ.Keeps e.span) :
    ∃ e' r₁' k k', Construct.Evaluates stop r' e' r₁' ∧ e'.bare = e.bare ∧
      ρ.Regions k k' r₁ r₁' j j' := by
  obtain ⟨ts, htake, he⟩ := he
  obtain ⟨ts', r₁', k, k', htake', -, -, hrest, hruns⟩ := h.takeUntil hstop hisolates htake
  rw [Construct.expression] at he
  split at he
  · exact absurd he error_ne_ok
  · next hne =>
    obtain ⟨a, a', -, -, hrow, hruns, hruns'⟩ := hruns fun heq => hne (List.isEmpty_iff.2 heq)
    obtain ⟨hspan, hplaces⟩ := Expression.ofSource_eq_ok (lift_eq_ok_iff.1 he)
    rw [hspan, hruns.spanOf_eq] at hkeeps
    have htext := textOf_eq_of_keeps hrow hruns hruns' hrest.source_eq hrest.source_eq' hkeeps
    obtain ⟨e', he', hbare⟩ := hplaces (Region.spanOf ts' r₁'.span)
    have hne' := hrow.ne_nil fun heq => hne (List.isEmpty_iff.2 heq)
    refine ⟨e', r₁', k, k', ⟨ts', htake', ?_⟩, hbare, hrest⟩
    rw [Construct.expression, if_neg fun heq => hne' (List.isEmpty_iff.1 heq), htext,
      hrest.settings_eq]
    exact lift_eq_ok_iff.2 he'

/-- A payload of a case is not empty. -/
theorem ne_nil_of_textOf (h : r.textOf ts ≠ "") : ts ≠ [] := by
  rintro rfl
  exact h rfl

/-- **A pattern without a guard**, whose white space has been kept. -/
theorem Regions.pattern {m m' : Nat} {pattern : Case} {fallback : Span}
    (h : ρ.Regions m m' r r' j j')
    (hruns : ts ≠ [] → ∃ a a', i ≤ a ∧ i' ≤ a' ∧ ρ.Row a a' ts ts' k k' ∧ Runs ρ.source ts a k ∧
      Runs ρ.source' ts' a' k')
    (hcase : Case.ofSource r.settings (r.textOf ts) (Region.spanOf ts fallback) none = .ok pattern)
    (hkeeps : ρ.Keeps pattern.span) (fallback' : Span) :
    ∃ pattern', Case.ofSource r'.settings (r'.textOf ts') (Region.spanOf ts' fallback') none =
        .ok pattern' ∧ pattern'.bare = pattern.bare := by
  obtain ⟨hsource, -⟩ := Case.ofSource_ne_empty hcase
  obtain ⟨a, a', -, -, hrow, hruns, hruns'⟩ := hruns (ne_nil_of_textOf hsource)
  obtain ⟨hspan, hplaces⟩ := Case.ofSource_eq_ok hcase
  rw [hspan, hruns.spanOf_eq] at hkeeps
  have htext := textOf_eq_of_keeps hrow hruns hruns' h.source_eq h.source_eq' hkeeps
  rw [htext, h.settings_eq]
  exact hplaces (Region.spanOf ts' fallback')

/-- **The pattern of an arm**, with its guard if it has one, whose white space has been kept. -/
theorem Regions.matched {pattern : Case} (h : ρ.Regions i i' r r' j j')
    (hpattern : Construct.Matched r pattern r₁) (hkeeps : ρ.Keeps pattern.span) :
    ∃ pattern' r₁' k k', Construct.Matched r' pattern' r₁' ∧ pattern'.bare = pattern.bare ∧
      ρ.Regions k k' r₁ r₁' j j' := by
  cases hpattern with
  | @guarded r₂ r₃ _ tokens guard _ htokens hword hguard hcase =>
    obtain ⟨tokens', r₂', k, k', htokens', -, -, h₂, hruns⟩ :=
      h.takeUntil endsAlike_guardOrArrow Region.Stop.isolates_guardOrArrow htokens
    obtain ⟨m, m', r₃', hword', hkm, hkm', h₃⟩ := h₂.word hword
    obtain ⟨guard', r₁', n, n', hguard', -, -, h₁, hgruns⟩ :=
      h₃.takeUntil endsAlike_arrow Region.Stop.isolates_arrow hguard
    obtain ⟨hsource, hempty⟩ := Case.ofSource_ne_empty hcase
    obtain ⟨a, a', -, -, hrow, hruns, hruns'⟩ := hruns (ne_nil_of_textOf hsource)
    obtain ⟨c, c', hmc, hmc', hgrow, hgruns, hgruns'⟩ :=
      hgruns (ne_nil_of_textOf fun heq => hempty (congrArg some heq))
    have hall := hruns.append hgruns (hkm.trans hmc)
    obtain ⟨hspan, hplaces⟩ := Case.ofSource_eq_ok hcase
    rw [hspan, hall.spanOf_eq] at hkeeps
    -- the span of the case reaches from its pattern to its guard
    have hak := hrow.fills.le
    have hcn := hgrow.fills.le
    have htext := textOf_eq_of_keeps hrow hruns hruns' h₁.source_eq h₁.source_eq'
      (hkeeps.mono le_rfl (by simp only [Span.between]; omega))
    have hgtext := textOf_eq_of_keeps hgrow hgruns hgruns' h₁.source_eq h₁.source_eq'
      (hkeeps.mono (by simp only [Span.between]; omega) le_rfl)
    obtain ⟨pattern', hcase', hbare⟩ := hplaces (Region.spanOf (tokens' ++ guard')
      (Region.spanOf tokens' r₂'.currentSpan))
    refine ⟨pattern', r₁', n, n', .guarded htokens' hword' hguard' ?_, hbare, h₁⟩
    rw [htext, hgtext, h₁.settings_eq]
    exact hcase'
  | @plain _ tokens _ htokens hword hcase =>
    obtain ⟨tokens', r₁', k, k', htokens', -, -, h₁, hruns⟩ :=
      h.takeUntil endsAlike_guardOrArrow Region.Stop.isolates_guardOrArrow htokens
    obtain ⟨pattern', hcase', hbare⟩ := h₁.pattern hruns hcase hkeeps r₁'.currentSpan
    have hword' : r₁'.peekIs (Tree.isWord "if") 0 = false := by
      rw [h₁.row.peekIs_eq (Tree.isShaped_isWord "if"), hword]
    exact ⟨pattern', r₁', k, k', .plain htokens' hword' hcase', hbare, h₁⟩

end Respacing

end TokenTemplate
