import TokenTemplate.Proofs.Template.Dependence
import TokenTemplate.Proofs.Template.Survey

/-!
# One nesting limit

Three parts of a template reader count how deep they are: the token tree counts brackets, bodies and
groups count themselves, and so do the groups of an interpolation block. All three counts are held
against the same limit, but it is the first of them that is decisive. For, every step inwards of the
other two goes into a bracket at least, `TokenTemplate.Region.Deep`, so neither is ever ahead of the
brackets around the region that it has got to (`TokenTemplate.Call.Entered.deep`,
`TokenTemplate.Piece.Entered.deep`). A source whose brackets are within the limit is never too deep
(`TokenTemplate.Routine.ofSource_depth`).

Which calls are made is read off their failures, `TokenTemplate.Call.Needs`: a call that is needed
hands its failure on, whatever it is. This makes sense of templates that are malformed further on as
well, and the outcome depends on no other calls (`TokenTemplate.Call.step_eq_of_needs`).
-/

namespace TokenTemplate

/-! ### How deep a region lies -/

/-- **A region that lies some brackets deep in another one**, read up to some place. -/
inductive Region.Deep (whole : Region) : Nat → Region → Prop
  /-- The whole region. -/
  | whole : Deep whole 0 whole
  /-- Further on in a region. -/
  | goOn {n : Nat} {r : Region} {ts : List Tree} (h : Deep whole n r) (hts : ts <:+ r.tokens) :
      Deep whole n (r.goOn ts)
  /-- Inside a group. -/
  | inside {n : Nat} {r : Region} {d : Delimiter} {ts : List Tree} {span : Span}
      (h : Deep whole n r) (hmem : .group d ts span ∈ r.tokens) :
      Deep whole (n + 1) (r.inside ts span)

namespace Tree

variable {room : Int} {ts : List Tree}

theorem anyTooDeep?_eq_none_iff :
    anyTooDeep? room ts = none ↔ ∀ t ∈ ts, tooDeep? room t = none := by
  induction ts with
  | nil => simp [anyTooDeep?]
  | cons t ts ih => rw [anyTooDeep?, Option.or_eq_none_iff, ih, List.forall_mem_cons]

theorem tooDeep?_group_eq_none_iff {d : Delimiter} {span : Span} :
    tooDeep? room (.group d ts span) = none ↔ 1 ≤ room ∧ anyTooDeep? (room - 1) ts = none := by
  rw [tooDeep?]
  split
  · next h => exact iff_of_false (Option.some_ne_none _) fun h' => absurd h'.1 (by omega)
  · next h => exact ⟨fun h' => ⟨by omega, h'⟩, And.right⟩

end Tree

/-- **Nothing lies deeper than the limit** that the brackets keep to. -/
theorem Region.Deep.le {whole r : Region} {n : Nat} {limit : Int} (h : whole.Deep n r)
    (hlimit : 0 ≤ limit) (hwhole : Tree.anyTooDeep? limit whole.tokens = none) :
    (n : Int) ≤ limit := by
  suffices hboth : (n : Int) ≤ limit ∧ Tree.anyTooDeep? (limit - n) r.tokens = none from hboth.1
  induction h with
  | whole => exact ⟨hlimit, by rwa [Int.natCast_zero, Int.sub_zero]⟩
  | goOn _ hts ih =>
    refine ⟨ih.1, Tree.anyTooDeep?_eq_none_iff.2 fun t ht => ?_⟩
    exact Tree.anyTooDeep?_eq_none_iff.1 ih.2 t (hts.subset ht)
  | @inside n r d ts span _ hmem ih =>
    obtain ⟨hroom, hinner⟩ :=
      Tree.tooDeep?_group_eq_none_iff.1 (Tree.anyTooDeep?_eq_none_iff.1 ih.2 _ hmem)
    have hsucc : limit - (n + 1 : Nat) = limit - n - 1 := by omega
    exact ⟨by omega, by rwa [hsucc]⟩

/-! ### Complaints about the depth -/

/-- A complaint that is not about the depth, and not one of the encoder. -/
def CompileError.NotDeep : CompileError → Prop
  | .malformed e => ∀ k, e.problem ≠ .tooDeep k
  | .encoder _ => False

/-- The regions of a whole, none of which lies beyond a limit, and the complaints that are not about
the depth. -/
def Survey.ofDeep (whole : Region) (limit : Nat) (hlimit : ∀ n r, whole.Deep n r → n ≤ limit) :
    Survey where
  Covers := whole.Deep
  Allows _ := True
  Bad := CompileError.NotDeep
  limit := limit
  goOn := .goOn
  inside := .inside
  allows_span _ := trivial
  allows_endSpan _ := trivial
  allows_token _ _ := trivial
  allows_join _ _ := trivial
  bad_of_allows _ _ hp := hp
  bad_of_deep _ h hn := absurd (hlimit _ _ h) (Nat.not_le.2 hn)

/-! ### Calls that are needed -/

namespace Call

/-- **A call needs another one** if it fails with whatever that one fails with, while all others are
as usual. -/
def Needs (b : Body) (room : Nat) (c c' : Call) : Prop :=
  ∀ (inside : Inside) (err : CompileError),
    (∀ d : Call, d ≠ c' → d.run inside = d.run (levels b room)) →
      c'.run inside = .error err → c.step b room inside = .error err

/-- **The outcome of a call depends on no calls but those that it needs.** -/
theorem step_eq_of_needs {b : Body} {room : Nat} {c : Call} {inside : Inside}
    (h : ∀ c', Needs b room c c' → c'.run inside = c'.run (levels b room)) :
    c.step b room inside = c.step b room (levels b room) := by
  obtain ⟨calls, hsame, hfail⟩ : Sequential (levels b room) (c.step b room) :=
    Body.placeAll_sequential
  exact hsame inside fun c' hc' => h c' (hfail c' hc')

/-- **The calls that compiling a body needs**, each with the number of levels that are left for it,
whether or not the body is compiled. -/
inductive Entered (b : Body) (r : Region) : Nat → Call → Prop
  /-- The body itself. -/
  | root : Entered b r (b.settings.maxDepth - b.depth + 1).toNat ⟨b.untilComma, b.encoder, r⟩
  /-- What a call needs one level further in. -/
  | needs {room : Nat} {c c' : Call} (h : Entered b r (room + 1) c) (hneeds : Needs b room c c') :
      Entered b r room c'

variable {b : Body} {r : Region} {room limit : Nat} {c : Call}

/-- **Calls are never ahead of the brackets**: what they have used up of their levels, they have also
gone into groups. -/
theorem Entered.deep (hlimit : ∀ n r', r.Deep n r' → n ≤ limit)
    (hroom : (b.settings.maxDepth - b.depth + 1).toNat = limit + 1) (hc : Entered b r room c) :
    ∃ n, r.Deep n c.region ∧ limit + 1 ≤ n + room := by
  let S : Survey := .ofDeep r limit hlimit
  induction hc with
  | root => exact ⟨0, .whole, by omega⟩
  | @needs room c c' _ hneeds ih =>
    obtain ⟨n, hdeep, hn⟩ := ih
    by_contra hnot
    obtain ⟨inside, hagrees, hfails⟩ := exists_failing (levels b room) c' (.encoder (.unsupported ""))
    -- further in the call is not made, so there it may as well fail
    have hkeeps : S.Keeps (n + 1) inside := by
      intro m hm untilComma e r' hr'
      have hne : (⟨untilComma, e, r'⟩ : Call) ≠ c' := by
        rintro rfl
        exact hnot ⟨m, hr', by omega⟩
      have hlevels : S.limit < n + 1 + room := by
        change limit < _
        omega
      have hmeets := Survey.levels_keeps (b := b) hlevels m hm untilComma e r' hr'
      rwa [show inside untilComma e r' = levels b room untilComma e r' from hagrees _ hne]
    have hplace : S.limit < n + 1 + room := by
      change limit < _
      omega
    have hmeets : Meets S.Bad _ (c.step b room inside) :=
      Survey.placeAll_meets hplace hkeeps hdeep List.suffix_rfl
    rw [hneeds inside _ hagrees hfails] at hmeets
    exact hmeets

end Call

/-! ### Interpolation blocks -/

namespace Piece

/-- **The blocks in the regions of calls, and the groups in blocks**, each with the number of levels
that are left for it. -/
inductive Entered (b : Body) (r : Region) : Nat → Region → Prop
  /-- A block. -/
  | block {room : Nat} {c : Call} {t : Tree} {ts : List Tree} {start : Span}
      {inside : Region} {rest : Region} (h : Call.Entered b r (room + 1) c)
      (hts : t :: ts <:+ c.region.tokens)
      (hsight : Construct.sight c.region t ts = .ok (.block start inside, rest)) :
      Entered b r room inside
  /-- A group in a block. -/
  | group {room : Nat} {g inside : Region} {t : Tree} {ts rest : List Tree} {d : Delimiter}
      (h : Entered b r (room + 1) g) (hts : t :: ts <:+ g.tokens)
      (hsight : sight g t ts = .ok (.group d inside, rest)) : Entered b r room inside

/-- **Blocks and their groups are never ahead of the brackets** either. -/
theorem Entered.deep {b : Body} {r g : Region} {room limit : Nat}
    (hlimit : ∀ n r', r.Deep n r' → n ≤ limit)
    (hroom : (b.settings.maxDepth - b.depth + 1).toNat = limit + 1) (hg : Entered b r room g) :
    ∃ n, r.Deep n g ∧ limit + 1 ≤ n + room := by
  let S : Survey := .ofDeep r limit hlimit
  induction hg with
  | block h hts hsight =>
    obtain ⟨n, hdeep, hn⟩ := h.deep hlimit hroom
    have hmeets := Survey.sight_meets (S := S) hdeep hts
    rw [hsight] at hmeets
    exact ⟨n + 1, hmeets.1, by omega⟩
  | group _ hts hsight ih =>
    obtain ⟨n, hdeep, hn⟩ := ih
    have hmeets := Survey.piece_sight_meets (S := S) hdeep hts
    rw [hsight] at hmeets
    exact ⟨n + 1, hmeets.1, by omega⟩

end Piece

/-! ### Templates -/

namespace Routine

/-- **There is one nesting limit.** With a limit that is not negative, compiling a template complains
about its depth exactly if the brackets of the source are nested too deeply, and about the same group.
And wherever the compiler gets to in a source whose brackets are not, be it a body, a group or an
interpolation block: as many levels as it counts, so many brackets at least are around the region,
and no more than the limit. -/
theorem ofSource_depth (settings : Settings) (receiver source : String)
    (h : 0 ≤ settings.maxDepth) :
    (∀ k span name, ofSource settings receiver source = .error (.malformed ⟨.tooDeep k, span, name⟩) ↔
        Tree.ofSource settings source.toList = .error ⟨.tooDeep k, span, name⟩) ∧
      ∀ r, Region.ofSource settings source.toList = .ok r →
        (∀ room c, Call.Entered { receiver, settings } r room c →
          ∃ n, r.Deep n c.region ∧ settings.maxDepth + 1 - room ≤ n ∧ n ≤ settings.maxDepth) ∧
        ∀ room g, Piece.Entered { receiver, settings } r room g →
          ∃ n, r.Deep n g ∧ settings.maxDepth + 1 - room ≤ n ∧ n ≤ settings.maxDepth := by
  obtain ⟨limit, hmax⟩ : ∃ limit : Nat, settings.maxDepth = limit := Int.eq_ofNat_of_zero_le h
  have hroom : (settings.maxDepth - 0 + 1).toNat = limit + 1 := by omega
  have hlimit {r : Region} (hr : Region.ofSource settings source.toList = .ok r) :
      ∀ n r', r.Deep n r' → n ≤ limit := by
    intro n r' hdeep
    obtain ⟨ts, hts, hr⟩ := bind_eq_ok_iff.1 hr
    obtain rfl := Except.ok.inj hr
    obtain ⟨-, -, hshallow⟩ := Tree.fills_of_ofSource hts
    exact Int.ofNat_le.1 (hmax ▸ hdeep.le h hshallow)
  refine ⟨fun k span name => ?_, fun r hr => ⟨fun room c hc => ?_, fun room g hg => ?_⟩⟩
  · rcases hts : Tree.ofSource settings source.toList with err | ts
    · have hfails : ofSource settings receiver source = .error (.malformed err) := by
        rw [ofSource, Region.ofSource, hts]
        rfl
      rw [hfails, Except.error.injEq, Except.error.injEq, CompileError.malformed.injEq]
    · refine iff_of_false (fun hfails => ?_) error_ne_ok.symm
      have hr : Region.ofSource settings source.toList =
          .ok ⟨source.toList, settings, .ofSource source.toList, false, ts⟩ := by
        rw [Region.ofSource, hts]
        rfl
      -- the brackets are within the limit, so a survey of the compiler finds no fault of depth
      let S : Survey := .ofDeep _ limit (hlimit hr)
      have hkeeps : S.Keeps 0 (levels { receiver, settings } (settings.maxDepth - 0 + 1).toNat) := by
        refine Survey.levels_keeps ?_
        change limit < _
        omega
      have hmeets : Meets S.Bad (fun _ => True) (ofSource settings receiver source) := by
        rw [ofSource, hr]
        exact (Survey.compileWith_meets hkeeps .whole).bind fun _ _ => meets_pure trivial
      rw [hfails] at hmeets
      exact hmeets k rfl
  · obtain ⟨n, hdeep, hn⟩ := hc.deep (hlimit hr) hroom
    exact ⟨n, hdeep, by omega, hmax ▸ Int.ofNat_le.2 (hlimit hr n _ hdeep)⟩
  · obtain ⟨n, hdeep, hn⟩ := hg.deep (hlimit hr) hroom
    exact ⟨n, hdeep, by omega, hmax ▸ Int.ofNat_le.2 (hlimit hr n _ hdeep)⟩

/-- An arrow body counts a level less than the brackets do, but the brackets are in the way. -/
theorem ofSource_depth_arrow :
    let e : SyntaxError := ⟨.tooDeep 1, ⟨⟨1, 11⟩, ⟨1, 14⟩, 10, 13⟩, "<template>"⟩
    Tree.ofSource { maxDepth := 1 } "#(if a => [b])".toList = .error e ∧
      ofSource { maxDepth := 1 } "t" "#(if a => [b])" = .error (.malformed e) := by
  have hlex : Tree.ofSource { maxDepth := 1 } "#(if a => [b])".toList =
      .error ⟨.tooDeep 1, ⟨⟨1, 11⟩, ⟨1, 14⟩, 10, 13⟩, "<template>"⟩ := by cbv
  exact ⟨hlex, ((ofSource_depth { maxDepth := 1 } "t" "#(if a => [b])" (by decide)).1 _ _ _).2 hlex⟩

end Routine

end TokenTemplate
