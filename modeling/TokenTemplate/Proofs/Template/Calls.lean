import TokenTemplate.Proofs.Respacing.Routine
import TokenTemplate.Proofs.Template.Coverage

/-!
# The encoders of a template

Compiling a template hands one region after another to be compiled one level further in: a group
goes on with the encoder of the body that it stands in, while a branch, the body or the join of a
loop, an arm and what is under a name for the receiver get an encoder of their own. Such a hand-over
is a `TokenTemplate.Call`, and `TokenTemplate.Call.Reached` are those made while a template is
compiled. Which calls are made is not read off the grammar: a call is made if it matters what
becomes of it (`TokenTemplate.Call.Makes`), and the outcome depends on no others
(`TokenTemplate.Call.step_eq_of_makes`).

Every call that is made concerns a piece of the source (`TokenTemplate.Call.Located.makes`). For,
the text may be taken for a respacing of itself, in which no white space has been changed; and then
regions of the text are all that the outcome depends on. So every encoder accounts for the tokens
that it is given (`TokenTemplate.Routine.ofSource_accounts`).
-/

namespace TokenTemplate

/-! ### Calls -/

/-- A region that is handed over to be compiled, and the encoder that it goes on with. -/
structure Call where
  /-- Whether a comma ends it. -/
  untilComma : Bool
  /-- The encoder. -/
  encoder : Encoder
  /-- The region. -/
  region : Region

namespace Call

/-- What becomes of a call. -/
def run (c : Call) (inside : Inside) : Compiled (Encoder × Region) :=
  inside c.untilComma c.encoder c.region

/-- How a call is run, where `inside` runs the calls that it makes itself. -/
def step (b : Body) (room : Nat) (c : Call) (inside : Inside) : Compiled (Encoder × Region) :=
  b.placeAll inside room c.untilComma c.encoder c.region c.region.tokens

/-- **A call makes another one** if it can be made to fail by what becomes of that one alone. -/
def Makes (b : Body) (room : Nat) (c c' : Call) : Prop :=
  ∃ (inside : Inside) (err : CompileError),
    (∀ d : Call, d ≠ c' → d.run inside = d.run (levels b room)) ∧
      c.step b room inside = .error err

/-- Any call can be made to fail, with all others as usual. -/
theorem exists_failing (usual : Inside) (c : Call) (err : CompileError) :
    ∃ inside : Inside, (∀ d : Call, d ≠ c → d.run inside = d.run usual) ∧
      c.run inside = .error err := by
  classical
  let failing : Inside := fun untilComma e r =>
    if (⟨untilComma, e, r⟩ : Call) = c then .error err else usual untilComma e r
  exact ⟨failing, fun d hd => if_neg hd, if_pos rfl⟩

/-- A call is made if its failure is passed on. -/
theorem makes_of_fails {b : Body} {room : Nat} {c c' : Call}
    (h : ∀ (inside : Inside) (err : CompileError),
      (∀ d : Call, d ≠ c' → d.run inside = d.run (levels b room)) →
      c'.run inside = .error err → c.step b room inside = .error err) : Makes b room c c' := by
  obtain ⟨failing, hagrees, hfails⟩ := exists_failing (levels b room) c' (.encoder (.unsupported ""))
  exact ⟨failing, _, hagrees, h failing _ hagrees hfails⟩

/-- **The calls made while a body is compiled**, each with the number of levels that are left for
it. -/
inductive Reached (b : Body) (r : Region) : Nat → Call → Prop
  /-- The body itself. -/
  | root : Reached b r (b.settings.maxDepth - b.depth + 1).toNat ⟨b.untilComma, b.encoder, r⟩
  /-- What a call makes one level further in. -/
  | makes {room : Nat} {c c' : Call} (h : Reached b r (room + 1) c) (hmakes : Makes b room c c') :
      Reached b r room c'

end Call

/-! ### A text as a respacing of itself -/

namespace Respacing

/-- A text whose white space has not been changed. -/
def unchanged (source : List Char) : Respacing :=
  ⟨source, source, fun _ _ => True⟩

variable {source : List Char} {i i' j : Nat} {ts : List Tree}

theorem Row.unchanged (h : Fills source i ts j) : (unchanged source).Row i i ts ts j j := by
  have hsame {a b : Nat} (hab : a ≤ b) (hgap : IsGapRun (slice source a b)) :
      (Respacing.unchanged source).Gap a a b b :=
    ⟨hab, hab, hgap, hgap, rfl, fun _ => rfl⟩
  induction h with
  | nil hij hj hgap => exact .nil (hsame hij hgap) hj hj
  | leaf hi hgap hspells hpre hb hspan _ ih =>
    exact .leaf (hsame hi hgap) hspells hpre hpre hb hb hspan hspan ih
  | group hi hgap hopen hclose hspan _ _ ihc ih =>
    exact .group (hsame hi hgap) hopen hopen hclose hclose hspan hspan ihc ih

theorem keeps_unchanged (s : Span) : (unchanged source).Keeps s := fun _ _ _ _ => trivial

theorem places_unchanged {place : Option Position}
    (h : ∀ p, place = some p → p = .ofOffset source i) :
    (unchanged source).Places i i place place := by
  cases place with
  | none => exact .none
  | some p =>
    obtain rfl := h p rfl
    exact .some

theorem eq_ofOffset_of_places {place place' : Option Position}
    (h : (unchanged source).Places i i' place place') :
    ∀ p, place' = some p → p = .ofOffset source i' := by
  rintro p rfl
  cases h
  rfl

end Respacing

/-! ### Where calls stand -/

namespace Call

/-- **A call that concerns a piece of a source**: the tokens of its region fill the piece, white
space is counted from where the piece begins, and to no place before its end. -/
structure Located (source : List Char) (i j n : Nat) (c : Call) : Prop where
  /-- The source is that of the region. -/
  source_eq : c.region.source = source
  /-- The tokens of the region are those of the piece. -/
  fills : Fills source i c.region.tokens j
  /-- The piece is not past the end. -/
  le : j ≤ n
  /-- The place that white space is counted from. -/
  place : ∀ p, c.encoder.last.or c.encoder.before = some p → p = .ofOffset source i
  /-- The place that it is counted up to at the end. -/
  after : ∀ p, c.encoder.after = some p → p = .ofOffset source n

variable {b : Body} {r : Region} {room i j n : Nat} {c c' : Call} {source : List Char}

theorem Located.regions (h : c.Located source i j n) :
    (Respacing.unchanged source).Regions i i c.region c.region j j :=
  ⟨h.source_eq, h.source_eq, rfl, .unchanged h.fills, fun s _ => Respacing.keeps_unchanged s⟩

theorem Located.encoders (h : c.Located source i j n) :
    (Respacing.unchanged source).Encoders i i n n c.encoder c.encoder :=
  ⟨rfl, rfl, rfl, rfl, Respacing.places_unchanged h.place, Respacing.places_unchanged h.after⟩

/-- **What a call makes concerns the same source, and succeeds.** A call that does not takes a part
in compiling no piece of the source, so nothing would fail by it. -/
theorem Located.makes {result : Encoder × Region} (h : c.Located source i j n)
    (hok : c.run (levels b (room + 1)) = .ok result) (hmakes : Makes b room c c') :
    (∃ i' j' n', c'.Located source i' j' n') ∧ ∃ result', c'.run (levels b room) = .ok result' := by
  by_contra hnot
  obtain ⟨inside, err, hagrees, hfails⟩ := hmakes
  -- the call is none that compiling a piece of the source could come to, so it may as well fail
  have hkeeps : (Respacing.unchanged source).KeepsInside (levels b room) inside := by
    intro i i' j j' n n' untilComma e e' e₁ r r' rest hr he hn hin hpayloads
    obtain ⟨e₁', rest', k, k', hin', hmore⟩ :=
      Respacing.keepsInside_levels _ b room hr he hn hin hpayloads
    have hne : (⟨untilComma, e', r'⟩ : Call) ≠ c' := by
      rintro rfl
      exact hnot ⟨⟨i', j', n', hr.source_eq', hr.row.fills', hn,
        Respacing.eq_ofOffset_of_places he.place, Respacing.eq_ofOffset_of_places he.after⟩, _,
        hin'⟩
    exact ⟨e₁', rest', k, k', (hagrees _ hne).trans hin', hmore⟩
  obtain ⟨e₁, rest⟩ := result
  obtain ⟨left, hwrites, -⟩ := Body.placeAll_eq_ok_iff.1 hok
  obtain ⟨e₁', left', k, k', hwrites', -⟩ :=
    Respacing.exists_writes hkeeps (levels_extends b room) h.regions h.encoders h.le hwrites
      fun s _ => Respacing.keeps_unchanged s
  have hstep : c.step b room inside = .ok (e₁', c.region.goOn left') :=
    Body.placeAll_eq_ok_iff.2 ⟨left', hwrites', rfl⟩
  exact error_ne_ok (hfails.symm.trans hstep)

/-- **All calls of a body that is compiled succeed and concern its source**, if the body does. -/
theorem Reached.located_and_ok {s : Routine × Region} (h : b.compile r = .ok s)
    (hroot : Located source i j n ⟨b.untilComma, b.encoder, r⟩) (hc : Reached b r room c) :
    (∃ i' j' n', c.Located source i' j' n') ∧ ∃ result, c.run (levels b room) = .ok result := by
  induction hc with
  | root =>
    obtain ⟨e, hin, -⟩ := Body.compileWith_eq_ok_iff.1 h
    exact ⟨⟨i, j, n, hroot⟩, (e, s.2), hin⟩
  | makes _ hmakes ih =>
    obtain ⟨⟨i', j', n', hlocated⟩, result, hok⟩ := ih
    exact hlocated.makes hok hmakes

end Call

/-! ### What encoders account for -/

namespace Routine

variable {settings : Settings} {receiver source : String} {routine : Routine} {b : Body}
  {r region : Region} {room : Nat} {untilComma : Bool}

/-- **Every encoder accounts for its tokens.** Whenever a body is compiled with an encoder of its
own, in the course of compiling a template, the elements that are recorded cover the tokens of its
region, up to the comma that ends it if it is such a body, one after another in the order of the
source. -/
theorem ofSource_accounts (h : ofSource settings receiver source = .ok routine)
    (hr : Region.ofSource settings source.toList = .ok r)
    (hreached : Call.Reached { receiver, settings } r room ⟨untilComma, b.encoder, region⟩) :
    ∃ e, levels { receiver, settings } room untilComma b.encoder region =
        .ok (e, region.goOn (region.tokens.dropWhile (goesOn untilComma))) ∧
      Accounts source.toList b.before b.after (region.tokens.takeWhile (goesOn untilComma))
        e.elements := by
  obtain ⟨ts, rest, hts, hcompile⟩ := ofSource_eq_ok_iff.1 h
  obtain ⟨us, hus, hr⟩ := bind_eq_ok_iff.1 hr
  obtain rfl := Except.ok.inj (hus.symm.trans hts)
  obtain rfl := Except.ok.inj hr
  obtain ⟨hfills, -, -⟩ := Tree.fills_of_ofSource hts
  -- nothing is around the whole template
  have hroot : Call.Located source.toList 0 source.toList.length source.toList.length
      ⟨false, Body.encoder { receiver, settings },
        ⟨source.toList, settings, .ofSource source.toList, false, us⟩⟩ :=
    ⟨rfl, hfills, le_rfl, nofun, nofun⟩
  obtain ⟨⟨i, j, n, hlocated⟩, ⟨e, rest'⟩, hrun⟩ := hreached.located_and_ok hcompile hroot
  obtain ⟨rfl, xs, helements, hcovers⟩ := levels_covers _ room hrun
  -- the tokens up to the comma fill the first part of the piece
  have hpiece := hlocated.fills
  rw [← List.takeWhile_append_dropWhile (p := goesOn untilComma) (l := region.tokens)] at hpiece
  obtain ⟨k, htaken, hleft⟩ := hpiece.append_inv
  refine ⟨e, hrun, ?_⟩
  rw [helements]
  exact hcovers.accounts htaken hlocated.place hlocated.after (hleft.le.trans hlocated.le)

/-- What is under a name for the receiver has an encoder of its own, which goes on with the group in
it. -/
theorem ofSource_accounts_scope_body :
    ∃ r region e, Region.ofSource {} "#(ref q {x [y]})".toList = .ok r ∧
      Call.Reached {} r 64 ⟨false, Body.encoder {}, region⟩ ∧
      levels {} 64 false (Body.encoder {}) region = .ok (e, region.goOn []) ∧
      Accounts "#(ref q {x [y]})".toList none none region.tokens e.elements ∧
      e.elements.map (fun x => (x.cursor.start.column, x.cursor.stop.column)) =
        [(10, 11), (12, 13), (13, 14), (14, 15)] := by
  obtain ⟨routine, h⟩ : ∃ routine, ofSource {} "t" "#(ref q {x [y]})" = .ok routine := ⟨_, by cbv⟩
  generalize hsource : "#(ref q {x [y]})".toList = source
  let body : List Tree := [.leaf ⟨.name, "x", .between source 9 10⟩,
    .group .bracket [.leaf ⟨.name, "y", .between source 12 13⟩] (.between source 11 14)]
  let payload : List Tree := [.leaf ⟨.name, "ref", .between source 2 5⟩,
    .leaf ⟨.name, "q", .between source 6 7⟩, .group .brace body (.between source 8 15)]
  let r : Region := ⟨source, {}, .between source 0 16, false,
    [.leaf ⟨.punct, "#", .between source 0 1⟩, .group .parenthesis payload (.between source 1 16)]⟩
  let region : Region := ⟨source, {}, .between source 8 15, true, body⟩
  have hr : Region.ofSource {} source = .ok r := by
    subst hsource
    exact Eq.trans (by cbv) rfl
  have hreached : Call.Reached {} r 64 ⟨false, Body.encoder {}, region⟩ := by
    refine .makes (c := ⟨false, Body.encoder {}, r⟩) .root ?_
    refine Call.makes_of_fails fun inside err _ hfail => ?_
    have hbody : ({} : Body).bodies inside none false
        ⟨source, {}, .between source 8 15, true, body⟩ = .error err := congrArg (· >>= _) hfail
    -- the first word decides which construct it is, and the brackets hold its body
    have hnode : Construct.payloadNode (({} : Body).bodies inside)
        ⟨source, {}, .between source 1 16, true, payload⟩ = .error err := by
      simp [payload, hbody, Construct.payloadNode, Construct.payloadNode.other, Construct.scope,
        Construct.bracedBody, Region.inside, Region.goOn, Region.peekIs, Region.peek, Tree.isWord,
        Tree.isGroup, Region.expectWord, Region.expect, Region.expectName, Region.expectGroup,
        bind, Except.bind, liftM, monadLift, MonadLift.monadLift, Compiled.ofReading,
        Except.mapError]
    rw [Call.step, Body.placeAll_of_takes rfl (.payload rfl), Body.place]
    exact congrArg (· >>= _) (congrArg (· >>= _) hnode)
  obtain ⟨e, hrun, haccounts⟩ := ofSource_accounts h (hsource ▸ hr) hreached
  subst hsource
  have hcolumns : (levels {} 64 false (Body.encoder {}) region).map (·.1.elements.map
      fun x => (x.cursor.start.column, x.cursor.stop.column)) =
        .ok [(10, 11), (12, 13), (13, 14), (14, 15)] := by cbv
  rw [hrun] at hcolumns
  exact ⟨r, region, e, hr, hreached, hrun, haccounts, Except.ok.inj hcolumns⟩

end Routine

end TokenTemplate
