import TokenTemplate.Proofs.Run.Ending
import TokenTemplate.Proofs.Template.Faithful
import TokenTemplate.Routine.Encoder
import TokenTemplate.Run.Routine

/-!
# Interpolated texts are written at once

The segments of a block are in a normal form, `TokenTemplate.Segment.Normal`: no literal is empty, and
no two literals meet. So a block without sites is one literal at most, and it is lowered to an
instruction of its own, which appends the text and evaluates nothing.

Nothing else tells this instruction from the general one (`TokenTemplate.Segment.lower_ofRegion`). In
either case the segments yield their texts one after another, `TokenTemplate.Segment.Yield`, and then
all of them are written as one text; if a site fails, nothing is written.
-/

namespace TokenTemplate

/-- **A text that is written** is one item more, or nothing if it is empty. -/
theorem Action.gives_writeText (target : Nat) (text : String) (s : Store) :
    (writeText target text).Gives s ()
      (if text = "" then s else s.extend target [.text text]) := by
  by_cases htext : text = ""
  · rw [if_pos htext]
    exact ⟨by rw [writeText, dif_pos htext], by rw [writeText, dif_pos htext]⟩
  · rw [if_neg htext]
    exact ⟨by rw [writeText, dif_neg htext], by rw [writeText, dif_neg htext]⟩

namespace Segment

/-! ### Normal form -/

/-- **Segments in normal form.** -/
structure Normal (segments : List Segment) : Prop where
  /-- No literal is empty. -/
  nonempty : .literal "" ∉ segments
  /-- Of two neighbours one is a site. -/
  apart : segments.IsChain fun x y => x.isSite = true ∨ y.isSite = true

section Normal

variable {source : List Char} {text : String} {e : Expression} {segments : List Segment}

theorem normal_nil : Normal [] :=
  ⟨List.not_mem_nil, .nil⟩

theorem Normal.site (h : Normal segments) (e : Expression) : Normal (.site e :: segments) := by
  refine ⟨fun hmem => ?_, List.isChain_cons.2 ⟨fun _ _ => .inl rfl, h.apart⟩⟩
  rcases List.mem_cons.1 hmem with heq | hmem
  · cases heq
  · exact h.nonempty hmem

/-- A literal that is not empty before segments that do not begin with one. -/
theorem Normal.literal (h : Normal segments) (htext : text ≠ "")
    (hfirst : ∀ more rest, segments ≠ .literal more :: rest) :
    Normal (.literal text :: segments) := by
  refine ⟨fun hmem => ?_, List.isChain_cons.2 ⟨fun x hx => .inr ?_, h.apart⟩⟩
  · rcases List.mem_cons.1 hmem with heq | hmem
    · exact htext (Segment.literal.inj heq).symm
    · exact h.nonempty hmem
  · cases segments with
    | nil => cases hx
    | cons y rest =>
      obtain rfl := Option.some.inj hx
      cases y with
      | literal more => exact absurd rfl (hfirst more rest)
      | site e => rfl

/-- A text before segments in normal form. -/
theorem Normal.addText (h : Normal segments) (text : String) : Normal (addText text segments) := by
  by_cases hfirst : ∃ more rest, segments = .literal more :: rest
  · obtain ⟨more, rest, rfl⟩ := hfirst
    have hmore : more ≠ "" := by
      rintro rfl
      exact h.nonempty List.mem_cons_self
    obtain ⟨hhead, htail⟩ := List.isChain_cons.1 h.apart
    have hrest : Normal rest := ⟨fun hmem => h.nonempty (List.mem_cons_of_mem _ hmem), htail⟩
    rw [addText_literal]
    refine hrest.literal (fun heq => hmore ?_) fun more' rest' heq => ?_
    · exact (String.append_eq_empty_iff.1 heq).2
    · subst heq
      rcases hhead _ rfl with hsite | hsite <;> exact absurd hsite (by simp [isSite])
  · rw [addText_of_not_literal fun more rest heq => hfirst ⟨more, rest, heq⟩]
    by_cases htext : text = ""
    · rwa [if_pos (String.isEmpty_iff.2 htext)]
    · rw [if_neg fun h => htext (String.isEmpty_iff.1 h)]
      exact h.literal htext fun more rest heq => hfirst ⟨more, rest, heq⟩

/-- **Pieces make up segments in normal form.** -/
theorem normal_ofPieces (source : List Char) (ps : List Piece) : Normal (ofPieces source ps) := by
  induction ps with
  | nil => exact normal_nil
  | cons p ps ih =>
    have hrest : Normal (afterPiece source p ps) := by
      cases ps with
      | nil => exact normal_nil
      | cons q ps => exact ih.addText _
    rw [ofPieces_cons]
    cases p.content with
    | text s => exact hrest.addText s
    | site e => exact hrest.site e

/-- Segments in normal form without a site are one literal at most. -/
theorem Normal.length_le (h : Normal segments) (hsite : segments.any isSite = false) :
    segments.length ≤ 1 := by
  rcases segments with _ | ⟨x, _ | ⟨y, rest⟩⟩
  · exact Nat.zero_le 1
  · exact le_rfl
  · rw [List.any_cons, List.any_cons, Bool.or_eq_false_iff, Bool.or_eq_false_iff] at hsite
    rcases (List.isChain_cons.1 h.apart).1 y rfl with hx | hy
    · exact absurd (hx.symm.trans hsite.1) nofun
    · exact absurd (hy.symm.trans hsite.2.1) nofun

end Normal

/-! ### What segments yield -/

/-- **Segments yield texts** one after another, from a store to a store: a literal yields its own text
and a site that of its value, of which the absent one has none. -/
inductive Yield (ev : Evaluator) (env : Environment) (filename : String) :
    List Segment → Store → List String → Store → Prop
  /-- There are no more. -/
  | nil {s : Store} : Yield ev env filename [] s [] s
  /-- A literal. -/
  | literal {text : String} {segments : List Segment} {texts : List String} {s t : Store}
      (h : Yield ev env filename segments s texts t) :
      Yield ev env filename (.literal text :: segments) s (text :: texts) t
  /-- A site with the absent value. -/
  | none {e : Expression} {segments : List Segment} {texts : List String} {s t u : Store}
      (hvalue : (e.evaluate ev env.flatten filename).Gives s .none t)
      (h : Yield ev env filename segments t texts u) :
      Yield ev env filename (.site e :: segments) s ("" :: texts) u
  /-- A site with any other value. -/
  | value {e : Expression} {v : Value} {text : String} {segments : List Segment}
      {texts : List String} {s t u : Store} (hv : v ≠ .none)
      (hvalue : (e.evaluate ev env.flatten filename).Gives s v t) (htext : t.textOf v = .ok text)
      (h : Yield ev env filename segments t texts u) :
      Yield ev env filename (.site e :: segments) s (text :: texts) u

/-- **A site fails**: it cannot be evaluated, or its value has no text. -/
inductive SiteFails (ev : Evaluator) (env : Environment) (filename : String) (e : Expression) :
    Store → Fault → Store → Prop
  /-- It cannot be evaluated. -/
  | value {s t : Store} {p : Fault} (h : (e.evaluate ev env.flatten filename).Fails s p t) :
      SiteFails ev env filename e s p t
  /-- Its value has no text. -/
  | text {v : Value} {s t : Store} {p : Fault} (hv : v ≠ .none)
      (hvalue : (e.evaluate ev env.flatten filename).Gives s v t) (h : t.textOf v = .error p) :
      SiteFails ev env filename e s p t

section Yield

variable {ev : Evaluator} {env : Environment} {filename : String} {segments : List Segment}
  {texts : List String} {text : String} {e : Expression} {s t u : Store} {p : Fault}

/-- The text of a site, once it has been evaluated. -/
theorem text_site (ev : Evaluator) (env : Environment) (filename : String) (e : Expression) :
    Segment.text ev env filename (.site e) =
      e.evaluate ev env.flatten filename >>= fun v =>
        if v = .none then pure "" else Action.ofStore (·.textOf v) := by
  rw [Segment.text]
  refine bind_congr fun v => ?_
  cases v <;> rfl

/-- A segment and those after it. -/
theorem gives_mapM_cons_iff {x : Segment} :
    ((x :: segments).mapM (Segment.text ev env filename)).Gives s texts u ↔
      ∃ text rest t, texts = text :: rest ∧ (x.text ev env filename).Gives s text t ∧
        (segments.mapM (Segment.text ev env filename)).Gives t rest u := by
  rw [List.mapM_cons, Action.gives_bind_iff]
  constructor
  · rintro ⟨text, t, hx, h⟩
    obtain ⟨rest, w, hrest, hpure⟩ := Action.gives_bind_iff.1 h
    obtain ⟨rfl, rfl⟩ := Action.gives_pure_iff.1 hpure
    exact ⟨text, rest, t, rfl, hx, hrest⟩
  · rintro ⟨text, rest, t, rfl, hx, hrest⟩
    exact ⟨text, t, hx, Action.gives_bind_iff.2 ⟨rest, u, hrest, Action.gives_pure_iff.2 ⟨rfl, rfl⟩⟩⟩

theorem gives_text_site_iff : (Segment.text ev env filename (.site e)).Gives s text t ↔
    text = "" ∧ (e.evaluate ev env.flatten filename).Gives s .none t ∨
      ∃ v, v ≠ .none ∧ (e.evaluate ev env.flatten filename).Gives s v t ∧ t.textOf v = .ok text := by
  rw [text_site, Action.gives_bind_iff]
  constructor
  · rintro ⟨v, w, hvalue, h⟩
    split at h
    · next hv =>
      subst hv
      obtain ⟨rfl, rfl⟩ := Action.gives_pure_iff.1 h
      exact .inl ⟨rfl, hvalue⟩
    · next hv =>
      obtain ⟨htext, rfl⟩ := Action.gives_ofStore_iff.1 h
      exact .inr ⟨v, hv, hvalue, htext⟩
  · rintro (⟨rfl, hvalue⟩ | ⟨v, hv, hvalue, htext⟩)
    · exact ⟨.none, t, hvalue, Action.gives_pure_iff.2 ⟨rfl, rfl⟩⟩
    · refine ⟨v, t, hvalue, ?_⟩
      rw [if_neg hv]
      exact Action.gives_ofStore_iff.2 ⟨htext, rfl⟩

theorem fails_text_site_iff : (Segment.text ev env filename (.site e)).Fails s p t ↔
    SiteFails ev env filename e s p t := by
  rw [text_site, Action.fails_bind_iff]
  constructor
  · rintro (h | ⟨v, w, hvalue, h⟩)
    · exact .value h
    · split at h
      · exact absurd h Action.not_fails_pure
      · next hv =>
        obtain ⟨htext, rfl⟩ := Action.fails_ofStore_iff.1 h
        exact .text hv hvalue htext
  · intro h
    cases h with
    | value h => exact .inl h
    | @text v _ _ _ hv hvalue h =>
      refine .inr ⟨v, t, hvalue, ?_⟩
      rw [if_neg hv]
      exact Action.fails_ofStore_iff.2 ⟨h, rfl⟩

/-- **Segments that are evaluated one after another yield their texts.** -/
theorem gives_mapM_iff :
    (segments.mapM (Segment.text ev env filename)).Gives s texts t ↔
      Yield ev env filename segments s texts t := by
  constructor
  · intro h
    induction segments generalizing s texts with
    | nil =>
      obtain ⟨rfl, rfl⟩ := Action.gives_pure_iff.1 h
      exact .nil
    | cons x segments ih =>
      obtain ⟨text, rest, u, rfl, hx, hrest⟩ := gives_mapM_cons_iff.1 h
      cases x with
      | literal text' =>
        obtain ⟨rfl, rfl⟩ := Action.gives_pure_iff.1 hx
        exact .literal (ih hrest)
      | site e =>
        rcases gives_text_site_iff.1 hx with ⟨rfl, hvalue⟩ | ⟨v, hv, hvalue, htext⟩
        · exact .none hvalue (ih hrest)
        · exact .value hv hvalue htext (ih hrest)
  · intro h
    induction h with
    | nil => exact Action.gives_pure_iff.2 ⟨rfl, rfl⟩
    | literal _ ih =>
      exact gives_mapM_cons_iff.2 ⟨_, _, _, rfl, Action.gives_pure_iff.2 ⟨rfl, rfl⟩, ih⟩
    | none hvalue _ ih =>
      exact gives_mapM_cons_iff.2 ⟨_, _, _, rfl, gives_text_site_iff.2 (.inl ⟨rfl, hvalue⟩), ih⟩
    | value hv hvalue htext _ ih =>
      exact gives_mapM_cons_iff.2
        ⟨_, _, _, rfl, gives_text_site_iff.2 (.inr ⟨_, hv, hvalue, htext⟩), ih⟩

/-- **Segments fail at a site**, after those before it have yielded their texts. -/
theorem fails_mapM_iff :
    (segments.mapM (Segment.text ev env filename)).Fails s p u ↔
      ∃ before e after texts t, segments = before ++ .site e :: after ∧
        Yield ev env filename before s texts t ∧ SiteFails ev env filename e t p u := by
  induction segments generalizing s with
  | nil =>
    refine iff_of_false (fun h => Action.not_fails_pure h) ?_
    rintro ⟨before, e, after, -, -, h, -⟩
    exact absurd h.symm (by simp)
  | cons x segments ih =>
    rw [List.mapM_cons, Action.fails_bind_iff]
    constructor
    · rintro (hx | ⟨text, t, hx, h⟩)
      · cases x with
        | literal text => exact absurd hx Action.not_fails_pure
        | site e => exact ⟨[], e, segments, [], s, rfl, .nil, fails_text_site_iff.1 hx⟩
      · rcases Action.fails_bind_iff.1 h with h | ⟨_, _, _, h⟩
        · obtain ⟨before, e, after, texts, w, rfl, hbefore, hfails⟩ := ih.1 h
          refine ⟨x :: before, e, after, text :: texts, w, rfl, gives_mapM_iff.1 ?_, hfails⟩
          exact gives_mapM_cons_iff.2 ⟨_, _, _, rfl, hx, gives_mapM_iff.2 hbefore⟩
        · exact absurd h Action.not_fails_pure
    · rintro ⟨before, e, after, texts, t, heq, hbefore, hfails⟩
      cases before with
      | nil =>
        obtain ⟨rfl, rfl⟩ := List.cons.inj heq
        cases hbefore
        exact .inl (fails_text_site_iff.2 hfails)
      | cons y before =>
        obtain ⟨rfl, rfl⟩ := List.cons.inj heq
        obtain ⟨text, rest, w, rfl, hx, hbefore⟩ := gives_mapM_cons_iff.1 (gives_mapM_iff.2 hbefore)
        refine .inr ⟨text, w, hx, Action.fails_bind_iff.2 (.inl (ih.2 ?_))⟩
        exact ⟨before, e, after, rest, t, rfl, gives_mapM_iff.1 hbefore, hfails⟩

end Yield

/-! ### The instruction of a block -/

section Lower

variable {ev : Evaluator} {env : Environment} {filename : String} {target : Nat}
  {segments : List Segment} {s u : Store} {p : Fault}

/-- The text of a segment that is a literal. -/
def literalText : Segment → String
  | .literal text => text
  | .site _ => ""

/-- Literals are evaluated by doing nothing. -/
theorem mapM_text_of_literals (hsite : segments.any isSite = false) :
    segments.mapM (Segment.text ev env filename) = pure (segments.map literalText) := by
  induction segments with
  | nil => rfl
  | cons x segments ih =>
    rw [List.any_cons, Bool.or_eq_false_iff] at hsite
    rw [List.mapM_cons, ih hsite.2]
    cases x with
    | literal text => rfl
    | site e => exact absurd hsite.1 (by simp [isSite])

theorem gives_interpolate_iff :
    ((Instruction.interpolate segments).execute ev target env filename).Gives s () u ↔
      ∃ texts t, Yield ev env filename segments s texts t ∧
        u = if String.join texts = "" then t else t.extend target [.text (String.join texts)] := by
  rw [Instruction.execute, Action.gives_bind_iff]
  constructor
  · rintro ⟨texts, t, h, hwrite⟩
    exact ⟨texts, t, gives_mapM_iff.1 h, (hwrite.unique (Action.gives_writeText _ _ _)).2⟩
  · rintro ⟨texts, t, h, rfl⟩
    exact ⟨texts, t, gives_mapM_iff.2 h, Action.gives_writeText _ _ _⟩

theorem fails_interpolate_iff :
    ((Instruction.interpolate segments).execute ev target env filename).Fails s p u ↔
      ∃ before e after texts t, segments = before ++ .site e :: after ∧
        Yield ev env filename before s texts t ∧ SiteFails ev env filename e t p u := by
  rw [Instruction.execute, Action.fails_bind_iff, or_iff_left, fails_mapM_iff]
  rintro ⟨_, _, -, hwrite⟩
  exact (Action.gives_writeText _ _ _).not_fails hwrite

/-- **The instruction of a block.** The segments of a block are in normal form, and a block without
sites has one segment at most. Every encoder lowers the block to one instruction: if there is a site
this evaluates the segments, and otherwise it appends a text. It does the same in every environment
and on every receiver as evaluating the segments does. If they all yield their texts, these are
written as one text, or not at all if there is nothing in them; and it fails where a site does, with
nothing written. -/
theorem lower_ofRegion {room : Nat} {r : Region} (h : ofRegion room r = .ok segments) :
    Normal segments ∧ (segments.any isSite = true ↔ ∃ e, .site e ∈ segments) ∧
      ((∀ e, .site e ∉ segments) → segments.length ≤ 1) ∧
      ∃ i : Instruction,
        (i = if segments.any isSite then .interpolate segments
          else .append (String.join (segments.map literalText))) ∧
        (∀ (e : Encoder) (span : Span),
          e.lower span (.interpolation (segments.any isSite) segments) = (e.emit i, none)) ∧
        ∀ ev target env filename,
          i.execute ev target env filename =
              (Instruction.interpolate segments).execute ev target env filename ∧
            (∀ s u, (i.execute ev target env filename).Gives s () u ↔
              ∃ texts t, Yield ev env filename segments s texts t ∧
                u = if String.join texts = "" then t
                  else t.extend target [.text (String.join texts)]) ∧
            ∀ s p u, (i.execute ev target env filename).Fails s p u ↔
              ∃ before e after texts t, segments = before ++ .site e :: after ∧
                Yield ev env filename before s texts t ∧ SiteFails ev env filename e t p u := by
  obtain ⟨ps, -, h⟩ := bind_eq_ok_iff.1 h
  obtain rfl := Except.ok.inj h
  have hnormal := normal_ofPieces r.source ps
  generalize ofPieces r.source ps = segments at hnormal
  have hany : segments.any isSite = true ↔ ∃ e, .site e ∈ segments := by
    rw [List.any_eq_true]
    constructor
    · rintro ⟨x, hmem, hx⟩
      cases x with
      | literal text => cases hx
      | site e => exact ⟨e, hmem⟩
    · exact fun ⟨e, hmem⟩ => ⟨.site e, hmem, rfl⟩
  refine ⟨hnormal, hany, fun hsite => hnormal.length_le ?_, _, rfl, fun e span => ?_,
    fun ev target env filename => ?_⟩
  · exact Bool.eq_false_iff.2 fun h => (hany.1 h).elim hsite
  · cases hsite : segments.any isSite with
    | true => rfl
    | false => rfl
  -- without sites the instruction is simpler, but it does the same, so what it does is shown
  -- of the one with segments
  · have hsame : (if segments.any isSite then Instruction.interpolate segments
        else .append (String.join (segments.map literalText))).execute ev target env filename =
        (Instruction.interpolate segments).execute ev target env filename := by
      cases hsite : segments.any isSite with
      | true => rfl
      | false =>
        rw [Instruction.execute, mapM_text_of_literals hsite, pure_bind]
        rfl
    rw [hsame]
    exact ⟨rfl, fun s u => gives_interpolate_iff, fun s p u => fails_interpolate_iff⟩

/-- Two sigils and a name are one text, which is appended as it is. -/
theorem lower_ofRegion_escape :
    ∃ r segments, ofRegion 0 r = .ok segments ∧ segments.any isSite = false ∧
      (∀ e span, Encoder.lower e span (.interpolation false segments) =
        (e.emit (.append "# a"), none)) ∧
      ∀ ev target env filename, (Instruction.append "# a").execute ev target env filename =
        (Instruction.interpolate segments).execute ev target env filename := by
  let mark (n : Nat) : Tree := .leaf ⟨.punct, "#", ⟨⟨1, n + 1⟩, ⟨1, n + 2⟩, n, n + 1⟩⟩
  let name : Tree := .leaf ⟨.name, "a", ⟨⟨1, 5⟩, ⟨1, 6⟩, 4, 5⟩⟩
  let r : Region := ⟨['(', '#', '#', ' ', 'a', ')'], {}, default, true, [mark 1, mark 2, name]⟩
  have hpieces : Piece.ofRegion 0 r = .ok _ :=
    Piece.ofTokens_eq_ok_iff.2 (.piece (.escape rfl rfl rfl) (.piece (.plain rfl) .nil))
  have h : ofRegion 0 r = .ok [.literal "# a"] := bind_eq_ok_iff.2 ⟨_, hpieces, rfl⟩
  obtain ⟨-, -, -, i, rfl, hlower, hexecute⟩ := lower_ofRegion h
  exact ⟨r, _, h, rfl, hlower, fun ev target env filename => (hexecute ev target env filename).1⟩

end Lower

end Segment

end TokenTemplate
