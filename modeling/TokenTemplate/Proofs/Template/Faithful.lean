import TokenTemplate.Proofs.Respacing.Piece
import TokenTemplate.Proofs.Template.Inline

/-!
# The text of a block is its source

An interpolation block stands for the text that it is written as. Here this text is cut into fragments
straight from the token tree, `TokenTemplate.Fragment.ofRow`: tokens and delimiters, pairs of sigils
and sites. Between two neighbours stands a gap, `TokenTemplate.Fragment.withGaps`. Taken together the
fragments are the source from the first token to the last. Their image differs from it in two ways
only, `TokenTemplate.Fragment.image`: a pair of sigils becomes one sigil, and a gap with a line break
becomes one blank.

The segments of the block are this image, with the sites left as they are
(`TokenTemplate.Segment.ofRegion_faithful`). The pieces that the segments are made of go through the
source in step with the fragments, `TokenTemplate.Piece.Mirrors`, into groups and out of them again.
-/

namespace TokenTemplate

/-! ### Fragments -/

/-- Where the last of some tokens ends; if there is none, where the one before them did. -/
def Tree.lastStop (i : Nat) (ts : List Tree) : Nat :=
  (ts.getLast?.map (·.span.stopPos)).getD i

theorem Tree.lastStop_cons (i : Nat) (t : Tree) (ts : List Tree) :
    Tree.lastStop i (t :: ts) = Tree.lastStop t.span.stopPos ts := by
  rw [Tree.lastStop, Tree.lastStop, List.getLast?_cons]
  cases ts.getLast? <;> rfl

/-- The text of some tokens goes from the first of them to the last. -/
theorem Region.textOf_cons (r : Region) (t : Tree) (ts : List Tree) :
    r.textOf (t :: ts) =
      String.ofList (slice r.source t.span.startPos (Tree.lastStop t.span.stopPos ts)) := by
  rw [textOf, List.head?_cons, List.getLast?_cons, Tree.lastStop]
  cases ts.getLast? <;> rfl

/-- What a part of the text of a block is. -/
inductive FragmentKind
  /-- A token without parts, or a delimiter of a group. -/
  | token
  /-- Two sigils that touch. -/
  | pair
  /-- A site, with the text that is to be evaluated. -/
  | site (payload : String)
  /-- What stands between two neighbours. -/
  | gap

/-- A part of the text of a block, between two offsets of the source. -/
structure Fragment where
  /-- What it is. -/
  kind : FragmentKind
  /-- Where it begins. -/
  start : Nat
  /-- Where it ends. -/
  stop : Nat

namespace Fragment

/-- The text of a fragment in the source. -/
def original (source : List Char) (f : Fragment) : List Char :=
  slice source f.start f.stop

/-- **The text that a fragment stands for**: its own, but one sigil for a pair, and one blank for a
gap with a line break. -/
def image (source : List Char) (f : Fragment) : List Char :=
  match f.kind with
  | .pair => [sigil]
  | .gap => if '\n' ∈ f.original source then [' '] else f.original source
  | .token | .site _ => f.original source

/-- Whether a fragment is to be evaluated. -/
def isSite (f : Fragment) : Bool :=
  match f.kind with
  | .site _ => true
  | .token | .pair | .gap => false

/-- What a sigil makes up with the token after it: a site with a name or with what stands between
round brackets, or a pair with a second sigil that touches it. -/
def led? (source : List Char) (t : Tree) : Tree → Option Fragment
  | .leaf l =>
    if !t.isPunct sigil then none
    else if l.kind = .name then some ⟨.site l.text, t.span.startPos, l.span.stopPos⟩
    else if (Tree.leaf l).isPunct sigil && t.touches (.leaf l) then
      some ⟨.pair, t.span.startPos, l.span.stopPos⟩
    else none
  | .group .parenthesis (c :: cs) span =>
    if !t.isPunct sigil then none
    else
      let payload := slice source c.span.startPos (Tree.lastStop c.span.stopPos cs)
      some ⟨.site (String.ofList payload), t.span.startPos, span.stopPos⟩
  | .group .. => none

mutual

/-- The fragments of a token by itself: a group has one for each delimiter around those of its
inside. -/
def ofTree (source : List Char) : Tree → List Fragment
  | .leaf l => [⟨.token, l.span.startPos, l.span.stopPos⟩]
  | .group _ children span =>
    ⟨.token, span.startPos, span.startPos + 1⟩ ::
      (ofRow source children ++ [⟨.token, span.stopPos - 1, span.stopPos⟩])

/-- **The fragments of a row of tokens**, without the gaps. -/
def ofRow (source : List Char) : List Tree → List Fragment
  | [] => []
  | [t] => ofTree source t
  | t :: u :: ts =>
    match led? source t u with
    | some f => f :: ofRow source ts
    | none => ofTree source t ++ ofRow source (u :: ts)

end

/-- Fragments with the gaps between them. -/
def withGaps : List Fragment → List Fragment
  | [] => []
  | [f] => [f]
  | f :: g :: fs => f :: ⟨.gap, f.stop, g.start⟩ :: withGaps (g :: fs)

/-- **A site is compiled** to an expression that has its text, its place and its meaning. -/
structure Compiles (settings : Settings) (source : List Char) (f : Fragment) (e : Expression) :
    Prop where
  /-- The text of the expression is the name, or what stands between the brackets. -/
  kind_eq : f.kind = .site e.source
  /-- The expression stands where the site does, its sigil included. -/
  span_eq : e.span = .between source f.start f.stop
  /-- The expression is what its text says. -/
  compiled : Expression.ofSource settings e.source e.span = .ok e

/-- A gap is no site. -/
theorem filter_withGaps (fs : List Fragment) :
    (withGaps fs).filter isSite = fs.filter isSite := by
  induction fs with
  | nil => rfl
  | cons f fs ih =>
    cases fs with
    | nil => rfl
    | cons g fs =>
      rw [withGaps, List.filter_cons, List.filter_cons_of_neg (by simp [isSite]), ih, ← List.filter_cons]

section OfRow

variable {source : List Char} {t u : Tree} {ts : List Tree} {f : Fragment}

theorem led?_of_standsAlone (h : standsAlone t (u :: ts) = true) : led? source t u = none := by
  by_cases ht : t.isPunct sigil = true
  · obtain ⟨hpair, -, hname, hgroup⟩ := (standsAlone_cons_iff ht).1 h
    cases u with
    | leaf l =>
      have hkind : l.kind ≠ .name := beq_eq_false_iff_ne.1 hname
      simp [led?, ht, hkind, hpair]
    | group d children span =>
      cases d with
      | parenthesis => exact absurd hgroup (by simp [Tree.isGroup])
      | brace | bracket => rfl
  · unfold led?
    split <;> simp [ht]

/-- A token that stands alone comes before the fragments of the others. -/
theorem ofRow_of_standsAlone (h : standsAlone t ts = true) :
    ofRow source (t :: ts) = ofTree source t ++ ofRow source ts := by
  cases ts with
  | nil => rw [ofRow, ofRow, List.append_nil]
  | cons u ts =>
    rw [ofRow, led?_of_standsAlone h]

theorem ofRow_of_led? (h : led? source t u = some f) :
    ofRow source (t :: u :: ts) = f :: ofRow source ts := by
  rw [ofRow, h]

/-- The first fragment begins where the first token does. -/
theorem exists_ofRow_cons (source : List Char) (t : Tree) (ts : List Tree) :
    ∃ f fs, ofRow source (t :: ts) = f :: fs ∧ f.start = t.span.startPos := by
  have htree : ∃ f fs, ofTree source t = f :: fs ∧ f.start = t.span.startPos := by
    cases t <;> exact ⟨_, _, rfl, rfl⟩
  obtain ⟨f, fs, hf, hstart⟩ := htree
  cases ts with
  | nil => exact ⟨f, fs, hf, hstart⟩
  | cons u ts =>
    rcases hled : led? source t u with _ | g
    · refine ⟨f, fs ++ ofRow source (u :: ts), ?_, hstart⟩
      rw [ofRow, hled]
      simp only [hf, List.cons_append]
    · refine ⟨g, ofRow source ts, ofRow_of_led? hled, ?_⟩
      unfold led? at hled
      grind

end OfRow

end Fragment

/-! ### Pieces and fragments -/

/-- A fragment that a text stands for: a token, or two sigils with nothing between them. -/
def Fragment.IsText (source : List Char) (f : Fragment) : Prop :=
  f.kind = .token ∨ f.kind = .pair ∧ f.original source = [sigil, sigil]

theorem Fragment.IsText.isSite_eq {source : List Char} {f : Fragment} (h : f.IsText source) :
    f.isSite = false := by
  rcases h with h | ⟨h, -⟩ <;> rw [isSite, h]

/-- **A piece stands for a fragment**: for its image, or, if it is a site, for what it is compiled
to. -/
def PieceContent.Shows (settings : Settings) (source : List Char) (f : Fragment) :
    PieceContent → Prop
  | .text s => f.IsText source ∧ s.toList = f.image source
  | .site e => f.Compiles settings source e

/-- **Pieces go through the source in step with fragments**, from one offset to where the last of
them ends, with gaps between them only. -/
inductive Piece.Mirrors (settings : Settings) (source : List Char) :
    Nat → List Piece → List Fragment → Nat → Prop
  /-- There are no more. -/
  | nil {i : Nat} : Mirrors settings source i [] [] i
  /-- A gap, and a piece that stands for a fragment. -/
  | cons {i j : Nat} {p : Piece} {f : Fragment} {ps : List Piece} {fs : List Fragment}
      (hi : i ≤ f.start) (hgap : IsGapRun (slice source i f.start)) (hle : f.start ≤ f.stop)
      (hstart : p.start = f.start) (hstop : p.stop = f.stop)
      (hcontent : p.content.Shows settings source f) (h : Mirrors settings source f.stop ps fs j) :
      Mirrors settings source i (p :: ps) (f :: fs) j

/-- The gap before the first of some tokens. -/
theorem Fills.isGapRun_head {source : List Char} {i j : Nat} {t : Tree} {ts : List Tree}
    (h : Fills source i (t :: ts) j) : IsGapRun (slice source i t.span.startPos) := by
  cases h with
  | leaf _ hgap _ _ _ hspan =>
    rw [Tree.span, hspan]
    exact hgap
  | group _ hgap _ _ hspan =>
    rw [Tree.span, hspan]
    exact hgap

/-- Two tokens that follow each other go from where the first begins to where the second ends. -/
theorem Fills.join_span {source : List Char} {i j : Nat} {t u : Tree} {ts : List Tree}
    (h : Fills source i (t :: u :: ts) j) :
    t.span.join u.span = .between source t.span.startPos u.span.stopPos := by
  obtain ⟨a, b, -, hab, hspan, -, hrest⟩ := h.head
  obtain ⟨c, d, hbc, hcd, hspan', -, hmore⟩ := hrest.head
  have hd := hmore.le.trans hmore.stop_le
  rw [hspan, hspan']
  exact Span.join_between_of_le (by omega) (by omega) hcd.le hd

/-- A punctuation character stands where it is. -/
theorem Fills.slice_of_isPunct {source : List Char} {a b : Nat} {t : Tree} {c : Char}
    (h : Fills source a [t] b) (hspan : t.span = .between source a b) (hc : t.isPunct c = true) :
    slice source a b = [c] := by
  cases h with
  | @leaf _ _ a' b' l _ _ _ _ hpre hb hspan' _ =>
    obtain ⟨rfl, rfl⟩ : a' = a ∧ b' = b := by
      rw [Tree.span, hspan'] at hspan
      exact ⟨congrArg Span.startPos hspan, congrArg Span.stopPos hspan⟩
    rw [Tree.isPunct, Bool.and_eq_true, beq_iff_eq, beq_iff_eq] at hc
    rw [hb, slice_of_isPrefix hpre, hc.2, String.toList_singleton]
  | group => exact absurd hc (by simp [Tree.isPunct])

/-- Two punctuation characters that touch have nothing between them. -/
theorem Fills.pair {source : List Char} {i j : Nat} {t u : Tree} {ts : List Tree} {c : Char}
    (h : Fills source i (t :: u :: ts) j) (ht : t.isPunct c = true) (hu : u.isPunct c = true)
    (htouch : t.touches u = true) :
    slice source t.span.startPos u.span.stopPos = [c, c] := by
  obtain ⟨a, b, -, hab, hspan, hone, hrest⟩ := h.head
  obtain ⟨b', d, hb, hbd, hspan', hone', hmore⟩ := hrest.head
  have hd := hmore.le.trans hmore.stop_le
  obtain rfl : b = b' := by
    rw [Tree.touches, beq_iff_eq, hspan, hspan'] at htouch
    exact (Position.ofOffset_inj (by omega) (by omega)).1 htouch
  rw [hspan, hspan']
  change slice source a d = _
  rw [← slice_append hab.le hbd.le, hone.slice_of_isPunct hspan ht, hone'.slice_of_isPunct hspan' hu]
  rfl

/-- The gap after the last of some tokens. -/
theorem Fills.isGapRun_last {source : List Char} {i j : Nat} {ts : List Tree}
    (h : Fills source i ts j) :
    Tree.lastStop i ts ≤ j ∧ IsGapRun (slice source (Tree.lastStop i ts) j) := by
  induction h with
  | nil hij _ hgap => exact ⟨hij, hgap⟩
  | leaf _ _ _ _ _ hspan _ ih =>
    rw [Tree.lastStop_cons, Tree.span, hspan]
    exact ih
  | group _ _ _ _ hspan _ _ _ ih =>
    rw [Tree.lastStop_cons, Tree.span, hspan]
    exact ih

namespace Piece

variable {settings : Settings} {source : List Char} {i j k : Nat} {t u : Tree} {ts : List Tree}
  {ps qs : List Piece} {fs gs : List Fragment} {r : Region}
  {inner : Region → Except SyntaxError (List Piece)}

theorem Mirrors.append (h : Mirrors settings source i ps fs j)
    (h' : Mirrors settings source j qs gs k) :
    Mirrors settings source i (ps ++ qs) (fs ++ gs) k := by
  induction h with
  | nil => exact h'
  | cons hi hgap hle hstart hstop hcontent _ ih =>
    exact .cons hi hgap hle hstart hstop hcontent (ih h')

/-- **The pieces of a region go in step with its fragments**, wherever the region stands in the
source. -/
def InStep (settings : Settings) (source : List Char)
    (inner : Region → Except SyntaxError (List Piece)) : Prop :=
  ∀ {i j : Nat} {r : Region} {ps : List Piece}, r.source = source → r.settings = settings →
    Fills source i r.tokens j → inner r = .ok ps →
      Mirrors settings source i ps (Fragment.ofRow source r.tokens) (Tree.lastStop i r.tokens)

/-- A text that can be compiled is compiled to an expression that has it. -/
theorem Fragment.compiles_of_ofSource {text : String} {e : Expression} {a b : Nat}
    (h : Expression.ofSource settings text (.between source a b) = .ok e) :
    (⟨.site text, a, b⟩ : Fragment).Compiles settings source e := by
  obtain ⟨-, -, rfl, hspan⟩ := Expression.ofSource_eq_ok_iff.1 h
  exact ⟨rfl, hspan, hspan ▸ h⟩

/-- **What a block begins with stands for fragments** of the source, between two offsets. -/
inductive Sighting.Shows (settings : Settings) (source : List Char) :
    Nat → Sighting → List Fragment → Nat → Prop
  /-- One piece stands for one fragment. -/
  | piece {p : Piece} {f : Fragment} (hle : f.start ≤ f.stop) (hstart : p.start = f.start)
      (hstop : p.stop = f.stop) (hcontent : p.content.Shows settings source f) :
      Shows settings source f.start (.piece p) [f] f.stop
  /-- A group stands for its delimiters and what is between them. -/
  | group {d : Delimiter} {inside : Region} {a b : Nat} (hsource : inside.source = source)
      (hsettings : inside.settings = settings) (hspan : inside.span = .between source a (b + 1))
      (hopen : source[a]? = some d.openChar) (hclose : source[b]? = some d.closeChar)
      (hchildren : Fills source (a + 1) inside.tokens b) :
      Shows settings source a (.group d inside)
        (⟨.token, a, a + 1⟩ :: (Fragment.ofRow source inside.tokens ++ [⟨.token, b, b + 1⟩]))
        (b + 1)

/-- A token by itself stands for its own fragments. -/
theorem shows_plain {a b : Nat} (hsource : r.source = source) (hsettings : r.settings = settings)
    (h : Fills source a [t] b) (hspan : t.span = .between source a b) :
    Sighting.Shows settings source a (plain r t) (Fragment.ofTree source t) b := by
  cases h with
  | @leaf _ _ a' b' l _ _ _ _ hpre hb hspan' h =>
    obtain ⟨rfl, rfl⟩ : a' = a ∧ b' = b := by
      rw [Tree.span, hspan'] at hspan
      exact ⟨congrArg Span.startPos hspan, congrArg Span.stopPos hspan⟩
    have htext : l.text.toList = slice source a' b' := by
      rw [hb, slice_of_isPrefix hpre]
    rw [Tree.span] at hspan
    rw [plain, Fragment.ofTree, hspan]
    exact .piece (f := ⟨.token, a', b'⟩) (by simp only; omega) rfl rfl ⟨.inl rfl, htext⟩
  | @group _ _ a' b' d children _ span _ _ hopen hclose hspan' hchildren h =>
    obtain ⟨rfl, rfl⟩ : a' = a ∧ b' + 1 = b := by
      rw [Tree.span, hspan'] at hspan
      exact ⟨congrArg Span.startPos hspan, congrArg Span.stopPos hspan⟩
    rw [plain, Fragment.ofTree, hspan']
    exact .group hsource hsettings rfl hopen hclose hchildren

/-- **A sighting stands for the first fragments** of a row of tokens, and leaves some tokens. -/
def Sighting.Leads (settings : Settings) (source : List Char) (i : Nat) (s : Sighting)
    (ts rest : List Tree) (j : Nat) : Prop :=
  ∃ a b fs, i ≤ a ∧ IsGapRun (slice source i a) ∧ s.Shows settings source a fs b ∧
    Fragment.ofRow source ts = fs ++ Fragment.ofRow source rest ∧
    Tree.lastStop i ts = Tree.lastStop b rest ∧ Fills source b rest j

/-- What a sigil makes up with the token after it goes from the one to the other. -/
theorem leads_of_led? {content : PieceContent} (kind : FragmentKind)
    (hfills : Fills source i (t :: u :: ts) j)
    (hled : Fragment.led? source t u = some ⟨kind, t.span.startPos, u.span.stopPos⟩)
    (hcontent : content.Shows settings source ⟨kind, t.span.startPos, u.span.stopPos⟩) :
    (Sighting.piece ⟨t.span.startPos, u.span.stopPos, content⟩).Leads settings source i
      (t :: u :: ts) ts j := by
  have hgap := hfills.isGapRun_head
  obtain ⟨a, b, hia, hab, hspan, -, hrest⟩ := hfills.head
  obtain ⟨c, d, hbc, hcd, hspan', -, hmore⟩ := hrest.head
  obtain rfl : t.span.startPos = a := congrArg Span.startPos hspan
  obtain rfl : u.span.stopPos = d := congrArg Span.stopPos hspan'
  have hle : t.span.startPos ≤ u.span.stopPos := by omega
  refine ⟨_, _, _, hia, hgap, .piece (f := ⟨kind, _, _⟩) hle rfl rfl hcontent,
    Fragment.ofRow_of_led? hled, ?_, hmore⟩
  rw [Tree.lastStop_cons, Tree.lastStop_cons]

/-- **What a block begins with** stands for the fragments that its first tokens make up. -/
theorem Takes.leads {s : Sighting} {rest : List Tree} (hsource : r.source = source)
    (hsettings : r.settings = settings) (htakes : Takes r (t :: ts) s rest)
    (hfills : Fills source i (t :: ts) j) : s.Leads settings source i (t :: ts) rest j := by
  cases htakes with
  | @escape _ u _ ht hu htouch =>
    refine leads_of_led? .pair hfills ?_ ⟨.inr ⟨rfl, hfills.pair ht hu htouch⟩, rfl⟩
    cases u with
    | leaf l =>
      have hkind : l.kind ≠ .name := fun h => by simp [isPunct_of_name h] at hu
      simp [Fragment.led?, ht, hkind, hu, htouch, Tree.span]
    | group => exact absurd hu (by simp [Tree.isPunct])
  | @name _ l _ e ht hl hblock hsite =>
    rw [hsettings] at hsite
    refine leads_of_led? (.site l.text) hfills ?_
      (Fragment.compiles_of_ofSource (hfills.join_span ▸ hsite))
    simp [Fragment.led?, ht, hl, Tree.span]
  | @payload _ children span _ e ht hne hsite =>
    obtain ⟨v, vs, rfl⟩ := List.exists_cons_of_ne_nil hne
    rw [Region.textOf_cons, Region.inside, hsettings, hsource] at hsite
    refine leads_of_led? (.site _) hfills ?_
      (Fragment.compiles_of_ofSource (hfills.join_span ▸ hsite))
    rw [Fragment.led?, ht]
    rfl
  | plain halone =>
    have hgap := hfills.isGapRun_head
    obtain ⟨a, b, hia, -, hspan, hone, hrest⟩ := hfills.head
    rw [hspan] at hgap
    refine ⟨a, b, _, hia, hgap, shows_plain hsource hsettings hone hspan,
      Fragment.ofRow_of_standsAlone halone, ?_, hrest⟩
    rw [Tree.lastStop_cons, hspan]
    rfl

/-- **The pieces of a row of tokens go in step with its fragments.** -/
theorem Lists.mirrors (hinner : InStep settings source inner) (hsource : r.source = source)
    (hsettings : r.settings = settings) (h : Lists inner r ts ps) (hfills : Fills source i ts j) :
    Mirrors settings source i ps (Fragment.ofRow source ts) (Tree.lastStop i ts) := by
  -- by induction on the rules, each of which takes what some fragments stand for
  induction h generalizing i with
  | nil => exact .nil
  | piece htakes _ ih =>
    obtain ⟨a, b, fs, hia, hgap, hs, hrow, hlast, hrest⟩ := htakes.leads hsource hsettings hfills
    rw [hrow, hlast]
    cases hs with
    | piece hle hstart hstop hcontent =>
      exact .cons hia hgap hle hstart hstop hcontent (ih hrest)
  | @group t ts rest d inside within ps htakes hwithin _ ih =>
    obtain ⟨a, b, fs, hia, hgap, hs, hrow, hlast, hrest⟩ := htakes.leads hsource hsettings hfills
    rw [hrow, hlast]
    cases hs with
    | group hinsource hinsettings hspan hopen hclose hchildren =>
      have hmirrors := hinner hinsource hinsettings hchildren hwithin
      obtain ⟨hle, hlastgap⟩ := hchildren.isGapRun_last
      rw [hspan, List.cons_append, List.append_assoc]
      -- the first delimiter, the inside, and the second delimiter before the rest
      refine .cons (f := ⟨.token, _, _⟩) hia hgap (Nat.le_succ _) rfl rfl ⟨.inl rfl, ?_⟩
        (hmirrors.append (.cons (f := ⟨.token, _, _⟩) hle hlastgap (Nat.le_succ _) rfl rfl
          ⟨.inl rfl, ?_⟩ (ih hrest)))
      · rw [Fragment.image, Fragment.original, slice_succ hopen]
        exact String.toList_singleton _
      · rw [Fragment.image, Fragment.original, slice_succ hclose]
        exact String.toList_singleton _

theorem inStep_ofRegion (settings : Settings) (source : List Char) (room : Nat) :
    InStep settings source (ofRegion room) := by
  induction room with
  | zero =>
    intro i j r ps hsource hsettings hfills h
    have hinner : InStep settings source fun g =>
        .error (g.errorAt (.tooDeep g.settings.maxDepth) g.span) :=
      fun _ _ _ h => absurd h error_ne_ok
    exact Lists.mirrors hinner hsource hsettings (ofTokens_eq_ok_iff.1 h) hfills
  | succ room ih =>
    intro i j r ps hsource hsettings hfills h
    exact Lists.mirrors ih hsource hsettings (ofTokens_eq_ok_iff.1 h) hfills

theorem Mirrors.le (h : Mirrors settings source i ps fs j) : i ≤ j := by
  induction h with
  | nil => exact le_rfl
  | cons => omega

end Piece

/-! ### Segments and their texts -/

namespace Segment

/-- The text of a segment in the source: a literal has its own, a site that of its place. -/
def original (source : List Char) : Segment → List Char
  | .literal text => text.toList
  | .site e => slice source e.span.startPos e.span.stopPos

/-- What a segment evaluates. -/
def expression? : Segment → Option Expression
  | .literal _ => none
  | .site e => some e

variable {source : List Char} {text more : String} {e : Expression} {segments : List Segment}

theorem addText_literal :
    addText text (.literal more :: segments) = .literal (text ++ more) :: segments := rfl

/-- A text that no literal follows is a literal of its own, unless it is empty. -/
theorem addText_of_not_literal (h : ∀ more rest, segments ≠ .literal more :: rest) :
    addText text segments = if text.isEmpty then segments else .literal text :: segments := by
  rw [addText]
  exact h

/-- A text is added to what the segments come to. -/
theorem flatMap_addText (text : String) (segments : List Segment) :
    (addText text segments).flatMap (original source) =
      text.toList ++ segments.flatMap (original source) := by
  by_cases h : ∃ more rest, segments = .literal more :: rest
  · obtain ⟨more, rest, rfl⟩ := h
    simp [addText_literal, original]
  · rw [addText_of_not_literal fun more rest heq => h ⟨more, rest, heq⟩]
    by_cases htext : text.isEmpty
    · simp [String.isEmpty_iff.1 htext]
    · simp [htext, original]

/-- A text has no site. -/
theorem filterMap_addText (text : String) (segments : List Segment) :
    (addText text segments).filterMap expression? = segments.filterMap expression? := by
  by_cases h : ∃ more rest, segments = .literal more :: rest
  · obtain ⟨more, rest, rfl⟩ := h
    simp [addText_literal, List.filterMap_cons, expression?]
  · rw [addText_of_not_literal fun more rest heq => h ⟨more, rest, heq⟩]
    by_cases htext : text.isEmpty
    · rw [if_pos htext]
    · simp [htext, List.filterMap_cons, expression?]

/-- A gap is what stands there, or one blank. -/
theorem toList_gap (source : List Char) (a b : Nat) :
    (gap source a b).toList = (⟨.gap, a, b⟩ : Fragment).image source := by
  have hbetween : (source.take b).drop a = slice source a b := rfl
  by_cases hbreak : '\n' ∈ slice source a b
  · simp [gap, Fragment.image, Fragment.original, hbetween, hbreak]
  · simp [gap, Fragment.image, Fragment.original, hbetween, hbreak]

end Segment

namespace Piece.Mirrors

variable {settings : Settings} {source : List Char} {i j : Nat} {ps : List Piece} {f : Fragment}
  {fs : List Fragment}

theorem cons_inv (h : Mirrors settings source i ps (f :: fs) j) :
    ∃ p qs, ps = p :: qs ∧ i ≤ f.start ∧ IsGapRun (slice source i f.start) ∧ f.start ≤ f.stop ∧
      p.start = f.start ∧ p.stop = f.stop ∧ p.content.Shows settings source f ∧
      Mirrors settings source f.stop qs fs j := by
  cases h with
  | cons hi hgap hle hstart hstop hcontent h =>
    exact ⟨_, _, rfl, hi, hgap, hle, hstart, hstop, hcontent, h⟩

/-- **The fragments are the source** from where the first of them begins. -/
theorem flatMap_original (h : Mirrors settings source i ps (f :: fs) j) :
    (Fragment.withGaps (f :: fs)).flatMap (Fragment.original source) = slice source f.start j := by
  induction fs generalizing i ps f with
  | nil =>
    obtain ⟨p, qs, rfl, -, -, -, -, -, -, h⟩ := h.cons_inv
    cases h
    simp [Fragment.withGaps, Fragment.original]
  | cons g fs ih =>
    obtain ⟨p, qs, rfl, -, -, hle, -, -, -, h⟩ := h.cons_inv
    have hrest := ih h
    obtain ⟨q, qs, rfl, hfg, -, hle', -, -, -, h⟩ := h.cons_inv
    have hgj := hle'.trans h.le
    rw [Fragment.withGaps, List.flatMap_cons, List.flatMap_cons, hrest]
    -- the fragment, the gap after it, and the fragments from there meet
    change slice source f.start f.stop ++ (slice source f.stop g.start ++ _) = _
    rw [slice_append hfg hgj, slice_append hle (hfg.trans hgj)]

/-- What a fragment of a block is: a text, a site that is compiled, or a gap of white space. -/
theorem mem_withGaps (h : Mirrors settings source i ps fs j) {f : Fragment}
    (hf : f ∈ Fragment.withGaps fs) :
    f.IsText source ∨ (∃ e, f.Compiles settings source e) ∨
      f.kind = .gap ∧ IsGapRun (f.original source) := by
  induction h with
  | nil => exact absurd hf List.not_mem_nil
  | @cons i j p g ps fs _ _ _ _ _ hcontent h ih =>
    have hfirst : f = g → f.IsText source ∨ (∃ e, f.Compiles settings source e) ∨
        f.kind = .gap ∧ IsGapRun (f.original source) := by
      rintro rfl
      cases hp : p.content with
      | text s =>
        rw [hp] at hcontent
        exact .inl hcontent.1
      | site e =>
        rw [hp] at hcontent
        exact .inr (.inl ⟨e, hcontent⟩)
    cases h with
    | nil => exact hfirst (List.mem_singleton.1 hf)
    | cons _ hgap =>
      rw [Fragment.withGaps, List.mem_cons, List.mem_cons] at hf
      rcases hf with hf | rfl | hf
      · exact hfirst hf
      · exact .inr (.inr ⟨rfl, hgap⟩)
      · exact ih hf

/-- **The segments are the image of the fragments.** -/
theorem flatMap_image (h : Mirrors settings source i ps fs j) :
    (Segment.ofPieces source ps).flatMap (Segment.original source) =
      (Fragment.withGaps fs).flatMap (Fragment.image source) := by
  induction h with
  | nil => rfl
  | @cons i j p f ps fs _ _ _ _ hstop hcontent h ih =>
    have hrest : (Segment.afterPiece source p ps).flatMap (Segment.original source) =
        (Fragment.withGaps (f :: fs)).tail.flatMap (Fragment.image source) := by
      cases h with
      | nil => rfl
      | cons _ _ _ hstart =>
        rw [Segment.afterPiece, Segment.flatMap_addText, ih, Segment.toList_gap, hstop, hstart]
        rfl
    have hcons : ∃ gs, Fragment.withGaps (f :: fs) = f :: gs := by
      cases fs <;> exact ⟨_, rfl⟩
    obtain ⟨gs, hgs⟩ := hcons
    rw [hgs, List.tail_cons] at hrest
    rw [hgs, List.flatMap_cons, ← hrest, Segment.ofPieces_cons]
    cases hp : p.content with
    | text s =>
      rw [hp] at hcontent
      simp only
      rw [Segment.flatMap_addText, hcontent.2]
    | site e =>
      rw [hp] at hcontent
      simp only
      rw [List.flatMap_cons, Segment.original, hcontent.span_eq, Fragment.image, hcontent.kind_eq]
      rfl

/-- **The sites of the segments are those of the fragments.** -/
theorem forall₂_compiles (h : Mirrors settings source i ps fs j) :
    List.Forall₂ (Fragment.Compiles settings source) (fs.filter Fragment.isSite)
      ((Segment.ofPieces source ps).filterMap Segment.expression?) := by
  induction h with
  | nil => exact .nil
  | @cons i j p f ps fs _ _ _ _ _ hcontent h ih =>
    have hrest : (Segment.afterPiece source p ps).filterMap Segment.expression? =
        (Segment.ofPieces source ps).filterMap Segment.expression? := by
      cases h with
      | nil => rfl
      | cons => rw [Segment.afterPiece, Segment.filterMap_addText]
    rw [Segment.ofPieces_cons]
    cases hp : p.content with
    | text s =>
      rw [hp] at hcontent
      rw [List.filter_cons_of_neg (by simp [hcontent.1.isSite_eq])]
      simp only
      rwa [Segment.filterMap_addText, hrest]
    | site e =>
      rw [hp] at hcontent
      have hsite : f.isSite = true := by rw [Fragment.isSite, hcontent.kind_eq]
      rw [List.filter_cons_of_pos hsite]
      simp only
      rw [List.filterMap_cons, Segment.expression?, hrest]
      exact .cons hcontent ih

end Piece.Mirrors

/-! ### The text of a block -/

/-- **The fragments of a block**, with the gaps between them: all that stands from the first of its
tokens to the last. -/
def Fragment.ofBlock (source : List Char) (tokens : List Tree) : List Fragment :=
  withGaps (ofRow source tokens)

/-- **The text of a block is a faithful image of its source.** The block is the inside of a group of a
source, at any depth. Its fragments are the source from its first token to its last, and each of them
is a token or a delimiter, a pair of sigils with nothing between them, a site that is compiled, or a
gap of white space. The segments of the block, with every site left as it stands in the source, are
the image of these fragments: one sigil for a pair, one blank for a gap with a line break, and all
else as it is. The sites of the segments are the sites of the block in order, each compiled from its
name or from what stands between its brackets. -/
theorem Segment.ofRegion_faithful {settings : Settings} {source : List Char} {whole : Region}
    {d : Delimiter} {children : List Tree} {span : Span} {room : Nat} {segments : List Segment}
    (hwhole : Region.ofSource settings source = .ok whole)
    (hmem : .group d children span ∈ Tree.allParts whole.tokens)
    (h : ofRegion room (whole.inside children span) = .ok segments) :
    String.ofList ((Fragment.ofBlock source children).flatMap (Fragment.original source)) =
        (whole.inside children span).textOf children ∧
      (∀ f ∈ Fragment.ofBlock source children, f.IsText source ∨
        (∃ e, f.Compiles settings source e) ∨ f.kind = .gap ∧ IsGapRun (f.original source)) ∧
      segments.flatMap (original source) =
        (Fragment.ofBlock source children).flatMap (Fragment.image source) ∧
      List.Forall₂ (Fragment.Compiles settings source)
        ((Fragment.ofBlock source children).filter Fragment.isSite)
        (segments.filterMap expression?) := by
  obtain ⟨ts, hts, hr⟩ := bind_eq_ok_iff.1 hwhole
  obtain rfl := Except.ok.inj hr
  obtain ⟨hfills, -, -⟩ := Tree.fills_of_ofSource hts
  obtain ⟨a, b, -, -, -, hchildren⟩ := hfills.group_inv hmem
  obtain ⟨ps, hps, h⟩ := bind_eq_ok_iff.1 h
  obtain rfl := Except.ok.inj h
  have hmirrors := Piece.inStep_ofRegion settings source room rfl rfl hchildren hps
  refine ⟨?_, fun f => hmirrors.mem_withGaps, hmirrors.flatMap_image, ?_⟩
  · cases children with
    | nil => rfl
    | cons t ts =>
      obtain ⟨f, fs, hrow, hstart⟩ := Fragment.exists_ofRow_cons source t ts
      change Piece.Mirrors _ _ _ _ (Fragment.ofRow source (t :: ts)) _ at hmirrors
      rw [hrow] at hmirrors
      rw [Fragment.ofBlock, hrow, hmirrors.flatMap_original, hstart, Region.textOf_cons]
      rw [← Tree.lastStop_cons (a + 1) t ts]
      rfl
  · rw [Fragment.ofBlock, Fragment.filter_withGaps]
    exact hmirrors.forall₂_compiles


/-- A pair of sigils, a line break, and a site in brackets. -/
theorem Segment.ofRegion_faithful_nested :
    ∃ whole children span segments e, Region.ofSource {} "(##\n [#x])".toList = .ok whole ∧
      .group .parenthesis children span ∈ Tree.allParts whole.tokens ∧
      ofRegion 1 (whole.inside children span) = .ok segments ∧
      (whole.inside children span).textOf children = "##\n [#x]" ∧
      segments.flatMap (original "(##\n [#x])".toList) = "# [#x]".toList ∧
      segments.filterMap expression? = [e] ∧ e.source = "x" := by
  let source := ['(', '#', '#', '\n', ' ', '[', '#', 'x', ']', ')']
  have hsource : "(##\n [#x])".toList = source := rfl
  let span : Span := ⟨⟨1, 1⟩, ⟨2, 7⟩, 0, 10⟩
  let bracket : Span := ⟨⟨2, 2⟩, ⟨2, 6⟩, 5, 9⟩
  let mark (a b : Position) (n : Nat) : Tree := .leaf ⟨.punct, "#", ⟨a, b, n, n + 1⟩⟩
  let name : Leaf := ⟨.name, "x", ⟨⟨2, 4⟩, ⟨2, 5⟩, 7, 8⟩⟩
  let inner : List Tree := [mark ⟨2, 3⟩ ⟨2, 4⟩ 6, .leaf name]
  let children : List Tree :=
    [mark ⟨1, 2⟩ ⟨1, 3⟩ 1, mark ⟨1, 3⟩ ⟨1, 4⟩ 2, .group .bracket inner bracket]
  let whole : Region := ⟨source, {}, span, false, [.group .parenthesis children span]⟩
  have hwhole : Region.ofSource {} source = .ok whole := by cbv
  have hmem : .group .parenthesis children span ∈ Tree.allParts whole.tokens := List.mem_cons_self
  let site : Span := ⟨⟨2, 3⟩, ⟨2, 5⟩, 6, 8⟩
  have hname : Expression.ofSource {} "x" site = .ok ⟨"x", site, .name "x"⟩ := by cbv
  have hinner : Piece.ofRegion 0 (whole.inside inner bracket) = .ok _ :=
    Piece.ofTokens_eq_ok_iff.2 (.piece (.name rfl rfl (by decide) hname) .nil)
  have hpieces : Piece.ofRegion 1 (whole.inside children span) = .ok _ :=
    Piece.ofTokens_eq_ok_iff.2
      (.piece (.escape rfl rfl rfl) (.group (.plain rfl) hinner .nil))
  have hsegments : ofRegion 1 (whole.inside children span) = .ok _ :=
    bind_eq_ok_iff.2 ⟨_, hpieces, rfl⟩
  rw [hsource]
  obtain ⟨htext, -, himage, hsites⟩ := ofRegion_faithful hwhole hmem hsegments
  refine ⟨whole, children, span, _, _, hwhole, hmem, hsegments, ?_, ?_, rfl, rfl⟩
  · rw [← htext]
    rfl
  · rw [himage]
    rfl

end TokenTemplate
