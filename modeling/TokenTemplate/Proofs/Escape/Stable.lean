import TokenTemplate.Proofs.Escape.Render
import TokenTemplate.Proofs.Token.Shape

/-!
# The layout of an escaped text is stable

A text without quotes is rendered, once escaped, as its tokens in their own layout. Here this is
read again. It has the tokens of the text and the layout of the text, so writing it once more
changes nothing (`TokenTemplate.Template.render_escaped_stable`).

That tokens are neither merged nor split is a matter of what follows them without a gap. A token
that is no literal reaches at most to the next gap, so what begins at a place is decided by the
characters up to there, `TokenTemplate.solid` (`TokenTemplate.Begins.of_solid_eq`), and these are
the same in both texts (`TokenTemplate.Reads.solid_verbatimFrom`).
-/

namespace TokenTemplate

/-! ### Up to the next gap -/

/-- The characters of a text up to the first gap. -/
def solid (cs : List Char) : List Char :=
  cs.takeWhile (!isGap ·)

section Solid

variable {c : Char} {cs cs' text : List Char} {k : LexemeKind}

/-- **A token outside quotes holds no gap.** -/
theorem isGap_eq_false_of_spells (h : Spells k text) (hquote : Unquoted text) :
    ∀ c ∈ text, isGap c = false := by
  have hrun {w : List Char} (hw : IsRun w) : ∀ c ∈ w, isGap c = false :=
    fun c hc => isGap_of_isWord (hw c hc)
  cases h with
  | string => exact absurd List.mem_cons_self hquote.1
  | character => exact absurd List.mem_cons_self hquote.2
  | escaped => exact absurd List.mem_cons_self hquote.2
  | number hd hw =>
    exact List.forall_mem_cons.2 ⟨isGap_of_isWord (Unicode.isWord_of_isDecimal hd), hrun hw⟩
  | decimal hd hw he hv =>
    refine List.forall_mem_cons.2 ⟨isGap_of_isWord (Unicode.isWord_of_isDecimal hd), ?_⟩
    refine List.forall_mem_append.2 ⟨hrun hw, List.forall_mem_cons.2 ⟨by decide, ?_⟩⟩
    exact List.forall_mem_cons.2 ⟨isGap_of_isWord (Unicode.isWord_of_isDecimal he), hrun hv⟩
  | name hc _ hw => exact List.forall_mem_cons.2 ⟨isGap_of_isWord hc, hrun hw⟩
  | punct _ hb =>
    refine List.forall_mem_singleton.2 ?_
    by_contra hgap
    rw [Bool.not_eq_false] at hgap
    rw [isBlank_of_isGap hgap] at hb
    exact Bool.noConfusion hb
  | opening d => exact List.forall_mem_singleton.2 (by cases d <;> decide)
  | closing d => exact List.forall_mem_singleton.2 (by cases d <;> decide)

theorem solid_append (h : ∀ c ∈ text, isGap c = false) (cs : List Char) :
    solid (text ++ cs) = text ++ solid cs :=
  List.takeWhile_append_of_pos fun c hc => by rw [h c hc]; rfl

theorem solid_eq_nil (h : IsGapRun cs) (hne : cs ≠ []) (ds : List Char) :
    solid (cs ++ ds) = [] := by
  obtain ⟨c, cs, rfl⟩ := List.exists_cons_of_ne_nil hne
  rw [solid, List.cons_append, List.takeWhile_cons_of_neg (by simp [h c List.mem_cons_self])]

theorem solid_of_isGapRun (h : IsGapRun cs) : solid cs = [] := by
  rcases eq_or_ne cs [] with rfl | hne
  · rfl
  · rw [← List.append_nil cs, solid_eq_nil h hne]

/-- What begins a text and holds no gap begins every text that is the same up to the first gap. -/
theorem isPrefix_of_solid_eq (h : solid cs = solid cs') (hpre : text <+: cs)
    (hgap : ∀ c ∈ text, isGap c = false) : text <+: cs' := by
  obtain ⟨rest, rfl⟩ := hpre
  rw [solid_append hgap] at h
  have hsolid : text <+: solid cs' := ⟨solid rest, h⟩
  exact hsolid.trans (List.takeWhile_prefix _)

/-- **What token begins a text** is decided by the characters up to the first gap. -/
theorem Begins.of_solid_eq (h : Begins cs k text) (hcs : Unquoted cs) (hcs' : Unquoted cs')
    (hsolid : solid cs = solid cs') : Begins cs' k text := by
  have hunquoted {ds more : List Char} (hds : Unquoted ds) (hpre : more <+: ds) : Unquoted more :=
    hds.of_isPrefix (n := 0) hpre
  refine ⟨?_, h.spells, fun more hpre hspells => ?_, fun _ more hpre hspells => ?_⟩
  · exact isPrefix_of_solid_eq hsolid h.isPrefix
      (isGap_eq_false_of_spells h.spells (hunquoted hcs h.isPrefix))
  · refine h.longest more ?_ hspells
    exact isPrefix_of_solid_eq hsolid.symm hpre
      (isGap_eq_false_of_spells hspells (hunquoted hcs' hpre))
  · have hmore := hunquoted hcs' hpre
    cases hspells with
    | character => exact hmore.2 List.mem_cons_self
    | escaped => exact hmore.2 List.mem_cons_self

end Solid

/-! ### What is written for a gap -/

/-- **Settings that write gaps for gaps**: a line break is a line feed, and indentation is made of
spaces and tabs. -/
structure Settings.Plain (settings : Settings) : Prop where
  /-- A line break is a line feed. -/
  newline_eq : settings.newline = "\n"
  /-- Indentation is made of spaces and tabs. -/
  indentation_mem : ∀ c ∈ settings.indentation.toList, c = ' ' ∨ c = '\t'

/-- The settings that hold by default write gaps for gaps. -/
theorem Settings.plain_of_default {settings : Settings} (hnewline : settings.newline = "\n")
    (hindentation : settings.indentation = "    ") : settings.Plain := by
  refine ⟨hnewline, ?_⟩
  rw [hindentation]
  simp

section Lead

variable {settings : Settings} {source source' : List Char}

theorem Settings.Plain.copies (h : settings.Plain) (n : Nat) :
    ∀ c ∈ (Layout.copies settings.indentation n).toList, isGap c = true ∧ c ≠ '\n' := by
  induction n with
  | zero => simp [Layout.copies]
  | succ n ih =>
    have hsucc : (Layout.copies settings.indentation (n + 1)).toList =
        settings.indentation.toList ++ (Layout.copies settings.indentation n).toList := by
      simp [Layout.copies, List.replicate_succ]
    rw [hsucc]
    refine List.forall_mem_append.2 ⟨fun c hc => ?_, ih⟩
    rcases h.indentation_mem c hc with rfl | rfl <;> decide

/-- With such settings what is written for a gap begins with at most two line feeds. -/
theorem Settings.Plain.toList_lead (h : settings.Plain) (source : List Char) (w : Word)
    (p : Nat) :
    (w.lead settings source (some p)).toList =
      if slice source p w.start = [] then []
      else match (slice source p w.start).count '\n' with
        | 0 => [' ']
        | 1 => '\n' :: (Layout.copies settings.indentation w.braces).toList
        | _ => '\n' :: '\n' :: (Layout.copies settings.indentation w.braces).toList := by
  rw [Word.lead]
  generalize slice source p w.start = gap
  by_cases hnil : gap = []
  · rw [if_pos hnil, if_pos hnil, String.toList_empty]
  · rw [if_neg hnil, if_neg hnil]
    rcases gap.count '\n' with _ | _ | n <;> simp [h.newline_eq]

/-- **What is written for a gap** is a gap that comes to the same. -/
theorem Settings.Plain.lead (h : settings.Plain) (source : List Char) (w : Word)
    (p : Nat) :
    IsGapRun (w.lead settings source (some p)).toList ∧
      Whitespace.ofGap? (w.lead settings source (some p)).toList =
        Whitespace.ofGap? (slice source p w.start) := by
  have hcopies := h.copies w.braces
  have hgap : IsGapRun (Layout.copies settings.indentation w.braces).toList :=
    fun c hc => (hcopies c hc).1
  have hcount : (Layout.copies settings.indentation w.braces).toList.count '\n' = 0 :=
    List.count_eq_zero.2 fun hmem => (hcopies '\n' hmem).2 rfl
  have hfeed : isGap '\n' = true := by decide
  rw [h.toList_lead]
  generalize slice source p w.start = gap
  rcases eq_or_ne gap [] with rfl | hne
  · exact ⟨List.forall_mem_nil _, rfl⟩
  · rw [if_neg hne, Whitespace.ofGap?, Whitespace.ofGap?, if_neg hne]
    rcases gap.count '\n' with _ | _ | n
    · exact ⟨List.forall_mem_singleton.2 (by decide), rfl⟩
    · refine ⟨List.forall_mem_cons.2 ⟨hfeed, hgap⟩, ?_⟩
      simp [hcount]
    · refine ⟨List.forall_mem_cons.2 ⟨hfeed, List.forall_mem_cons.2 ⟨hfeed, hgap⟩⟩, ?_⟩
      simp [hcount]

theorem Settings.Plain.isGapRun_lead (h : settings.Plain) (source : List Char)
    (last : Option Nat) (w : Word) :
    IsGapRun (w.lead settings source last).toList := by
  cases last with
  | none => exact fun c hc => (h.copies w.braces c hc).1
  | some p => exact (h.lead source w p).1

/-- What is written for a gap is known from what the gap comes to. -/
theorem lead_eq_of_ofGap?_eq {w v : Word} {p q : Nat} (hbraces : w.braces = v.braces)
    (hgap : Whitespace.ofGap? (slice source p w.start) =
      Whitespace.ofGap? (slice source' q v.start)) :
    w.lead settings source (some p) = v.lead settings source' (some q) := by
  have hlead (u : Word) (cs : List Char) (n : Nat) : u.lead settings cs (some n) =
      Layout.lead settings (Whitespace.ofGap? (slice cs n u.start)).toList u.braces := by
    have hlist := Layout.lead_ofGap? settings (slice cs n u.start) [] (List.forall_mem_nil _)
      u.braces
    rw [List.append_nil] at hlist
    rw [hlist]
    rfl
  rw [hlead, hlead, hbraces, hgap]

end Lead

/-! ### Words in their own layout -/

/-- What a word is, without its place. -/
def Word.token (w : Word) : LexemeKind × List Char × Nat :=
  (w.kind, w.text, w.braces)

namespace Tree

mutual

/-- The words of a token, apart from their places, are those of its shape. -/
theorem words_shape (braces : Nat) : (t : Tree) →
    (words braces (shape t)).map Word.token = (words braces t).map Word.token
  | leaf l => rfl
  | group d children s => by
    rw [shape, words, words, List.map_cons, List.map_cons, List.map_append, List.map_append,
      allWords_allShapes (bracesInside d braces) children]
    rfl

theorem allWords_allShapes (braces : Nat) : (ts : List Tree) →
    (allWords braces (allShapes ts)).map Word.token = (allWords braces ts).map Word.token
  | [] => rfl
  | t :: ts => by
    rw [allShapes, allWords, allWords, List.map_append, List.map_append, words_shape braces t,
      allWords_allShapes braces ts]

end

theorem allWords_token_congr {ts us : List Tree} (h : allShapes ts = allShapes us) (braces : Nat) :
    (allWords braces ts).map Word.token = (allWords braces us).map Word.token := by
  rw [← allWords_allShapes, h, allWords_allShapes]

end Tree

section Verbatim

variable {settings : Settings} {source source' : List Char} {ws vs : List Word} {i : Nat}

theorem toList_verbatimFrom (settings : Settings) (source : List Char) (last : Option Nat)
    (w : Word) (ws : List Word) :
    (verbatimFrom settings source last (w :: ws)).toList =
      (w.lead settings source last).toList ++
        (w.text ++ (verbatimFrom settings source (some w.stop) ws).toList) := by
  rw [verbatimFrom, String.toList_append, String.toList_append, String.toList_ofList,
    List.append_assoc]

/-- **Words of the same layout are written in the same way.** -/
theorem verbatimFrom_congr {last last' : Option Nat} (h : ws.map Word.token = vs.map Word.token)
    (hlast : last.isSome = last'.isSome)
    (hlayout : layoutOf source (gapsFrom last (ws.map Word.toMark)) =
      layoutOf source' (gapsFrom last' (vs.map Word.toMark))) :
    verbatimFrom settings source last ws = verbatimFrom settings source' last' vs := by
  induction ws generalizing vs last last' with
  | nil =>
    obtain rfl : vs = [] := List.map_eq_nil_iff.1 h.symm
    rfl
  | cons w ws ih =>
    obtain ⟨v, vs, rfl⟩ : ∃ v rest, vs = v :: rest := by
      cases vs with
      | nil => exact absurd h (by simp)
      | cons v rest => exact ⟨v, rest, rfl⟩
    rw [List.map_cons, List.map_cons, List.cons.injEq] at h
    obtain ⟨hword, hrest⟩ := h
    have htext : w.text = v.text := congrArg (·.2.1) hword
    have hbraces : w.braces = v.braces := congrArg (·.2.2) hword
    rw [List.map_cons, List.map_cons, gapsFrom, gapsFrom, layoutOf, layoutOf, List.map_append,
      List.map_append] at hlayout
    obtain ⟨hgap, hgaps⟩ := List.append_inj hlayout (by
      rw [List.length_map, List.length_map]
      cases last <;> cases last' <;> first | rfl | exact absurd hlast (by simp))
    have hlead : w.lead settings source last = v.lead settings source' last' := by
      cases last with
      | none =>
        obtain rfl : last' = none := by simpa using hlast.symm
        rw [Word.lead, Word.lead, hbraces]
      | some p =>
        obtain ⟨q, rfl⟩ := Option.isSome_iff_exists.1 hlast.symm
        exact lead_eq_of_ofGap?_eq hbraces (by simpa using hgap)
    have hwritten := @ih vs (some w.stop) (some v.stop) hrest rfl hgaps
    rw [verbatimFrom, verbatimFrom, hlead, htext, hwritten]

/-- What has no gap before it begins in the same way in both texts. -/
theorem Reads.solid_verbatimFrom (hplain : settings.Plain) (hquote : Unquoted source)
    (h : Reads source i (ws.map Word.toMark) none) :
    solid (source.drop i) = solid (verbatimFrom settings source (some i) ws).toList := by
  induction ws generalizing i with
  | nil =>
    have htiles := h.tiles
    cases htiles with
    | nil hij hj hgap =>
      have hdrop : slice source i source.length = source.drop i := by
        rw [slice, List.take_length]
      rw [Option.getD_none, hdrop] at hgap
      rw [solid_of_isGapRun hgap]
      rfl
  | cons w ws ih =>
    obtain ⟨hi, hlen, hrun, hstop, hbegins, hrest⟩ := h.head
    have hgap := isGap_eq_false_of_spells hbegins.spells
      (hquote.of_isPrefix (n := w.start) hbegins.isPrefix)
    have hdrop : source.drop i = slice source i w.start ++ (w.text ++ source.drop w.stop) := by
      rw [← drop_eq_append hbegins.isPrefix hstop, slice_append_drop hi]
    have hlead := hplain.lead source w i
    rw [toList_verbatimFrom, hdrop]
    rcases eq_or_ne (slice source i w.start) [] with hnil | hne
    · have hnone : w.lead settings source (some i) = "" := by
        rw [Word.lead, if_pos hnil]
      rw [hnil, hnone, List.nil_append, String.toList_empty, List.nil_append, solid_append hgap,
        solid_append hgap, ih hrest]
    · have hsome : (w.lead settings source (some i)).toList ≠ [] := fun hempty => hne <| by
        have hmark := hlead.2
        rw [hempty] at hmark
        exact Whitespace.ofGap?_eq_none_iff.1 hmark.symm
      rw [solid_eq_nil hrun hne, solid_eq_nil hlead.1 hsome]

/-- There are no quotes in what is written. -/
theorem unquoted_verbatimFrom (hplain : settings.Plain) (hquote : Unquoted source)
    {last : Option Nat} (h : ∀ w ∈ ws, w.text <+: source.drop w.start) :
    Unquoted (verbatimFrom settings source last ws).toList := by
  induction ws generalizing last with
  | nil => exact ⟨List.not_mem_nil, List.not_mem_nil⟩
  | cons w ws ih =>
    obtain ⟨hw, hws⟩ := List.forall_mem_cons.1 h
    have hlead := hplain.isGapRun_lead source last w
    have htext : Unquoted w.text := hquote.of_isPrefix (n := w.start) hw
    have hrest := @ih (some w.stop) hws
    rw [toList_verbatimFrom, Unquoted, List.mem_append, List.mem_append, List.mem_append,
      List.mem_append, not_or, not_or, not_or, not_or]
    exact ⟨⟨fun hc => absurd (hlead _ hc) (by decide), htext.1, hrest.1⟩,
      fun hc => absurd (hlead _ hc) (by decide), htext.2, hrest.2⟩

/-- **What is written is read as the same tokens** in the same layout. Here `before` has been
written when the words `ws` are still to come. -/
theorem Reads.exists_reads_verbatimFrom {before written : List Char} {last : Option Nat}
    (hplain : settings.Plain) (hquote : Unquoted source) (hunquoted : Unquoted written)
    (hwritten : before ++ (verbatimFrom settings source last ws).toList = written)
    (hlast : ∀ p ∈ last, p = i) (h : Reads source i (ws.map Word.toMark) none) :
    ∃ marks, Reads written before.length marks none ∧
      (ws.map Word.toMark).map Mark.token = marks.map Mark.token ∧
      layoutOf source (gapsFrom last (ws.map Word.toMark)) =
        layoutOf written (gapsFrom (last.map fun _ => before.length) marks) := by
  induction ws generalizing i last before with
  | nil =>
    have hbefore : before = written := by rwa [verbatimFrom, String.toList_empty,
      List.append_nil] at hwritten
    rw [hbefore]
    exact ⟨[], .done, rfl, rfl⟩
  | cons w ws ih =>
    obtain ⟨hi, hlen, hrun, hstop, hbegins, hrest⟩ := h.head
    have hgap := isGap_eq_false_of_spells hbegins.spells
      (hquote.of_isPrefix (n := w.start) hbegins.isPrefix)
    have hlead := hplain.isGapRun_lead source last w
    rw [toList_verbatimFrom] at hwritten
    -- `l` is the lead of the word
    generalize hl : (w.lead settings source last).toList = l at hlead hwritten
    obtain ⟨marks, hmarks, htokens, hlayout⟩ := @ih w.stop (before ++ l ++ w.text) (some w.stop)
      (by rw [← hwritten]; simp) (by simp) hrest
    rw [List.length_append, List.length_append] at hmarks
    -- in the written text the token stands after `before` and its lead
    have hdrop : written.drop (before.length + l.length) =
        w.text ++ (verbatimFrom settings source (some w.stop) ws).toList := by
      rw [← hwritten, ← List.append_assoc, ← List.length_append, List.drop_left]
    have hslice : slice written before.length (before.length + l.length) = l := by
      refine slice_of_isPrefix ?_
      rw [← hwritten, List.drop_left]
      exact List.prefix_append _ _
    -- up to the next gap both texts go on in the same way, so the same token begins
    have hbegins' : Begins (written.drop (before.length + l.length)) w.kind w.text := by
      refine hbegins.of_solid_eq (hquote.drop _) (hunquoted.drop _) ?_
      rw [hdrop, drop_eq_append hbegins.isPrefix hstop, solid_append hgap, solid_append hgap,
        hrest.solid_verbatimFrom hplain hquote]
    have hpos := List.length_pos_iff.2 hbegins.ne_nil
    have hlength : before.length + l.length < written.length := by
      rw [← hwritten, List.length_append, List.length_append, List.length_append]
      omega
    refine ⟨_ :: marks, .of_gapRun (Nat.le_add_right _ _) hlength.le (by rwa [hslice])
      (.cons hlength hbegins' hmarks), ?_, ?_⟩
    · rw [List.map_cons, List.map_cons, List.map_cons, htokens]
      rfl
    -- the lead has the layout of the gap that it stands for
    · have hfirst : layoutOf source (last.map fun p => (p, w.start)).toList =
          layoutOf written ((last.map fun _ => before.length).map fun p =>
            (p, before.length + l.length)).toList := by
        cases last with
        | none => rfl
        | some p =>
          obtain rfl := hlast p rfl
          simp only [Option.map_some, Option.toList_some, layoutOf, List.map_cons, List.map_nil,
            hslice]
          rw [← hl, (hplain.lead source w p).2]
      rw [List.length_append, List.length_append, Option.map_some] at hlayout
      rw [List.map_cons, gapsFrom, gapsFrom, layoutOf_append, layoutOf_append, hfirst]
      exact congrArg _ hlayout

/-- **A text in its own layout is read again** as the same tree in the same layout. -/
theorem Tree.exists_ofSource_verbatim {ts : List Tree} (hplain : settings.Plain)
    (hquote : Unquoted source) (h : Tree.ofSource settings source = .ok ts) :
    ∃ ts', Tree.ofSource settings (verbatim settings source ts).toList = .ok ts' ∧
      Tree.allShapes ts' = Tree.allShapes ts ∧
      Tree.layout (verbatim settings source ts).toList ts' = Tree.layout source ts ∧
      Unquoted (verbatim settings source ts).toList := by
  obtain ⟨-, hreads, -⟩ := Tree.fills_of_ofSource h
  rw [← Tree.allWords_toMark 0] at hreads
  have hunquoted : Unquoted (verbatim settings source ts).toList :=
    unquoted_verbatimFrom hplain hquote fun w hw =>
      hreads.tiles.isPrefix _ (List.mem_map_of_mem hw)
  obtain ⟨marks, hmarks, htokens, hlayout⟩ :=
    @Reads.exists_reads_verbatimFrom _ _ _ _ [] _ none hplain hquote hunquoted rfl
      (by simp) hreads
  rw [Tree.allWords_toMark] at htokens hlayout
  obtain ⟨ts', hok, rfl, hshapes⟩ := Tree.exists_ofSource_of_tokens_eq h hmarks htokens
  exact ⟨ts', hok, hshapes, hlayout.symm, hunquoted⟩

/-- **Trees of one shape and one layout are written in the same way.** -/
theorem verbatim_congr {ts ts' : List Tree} (hshapes : Tree.allShapes ts' = Tree.allShapes ts)
    (hlayout : Tree.layout source' ts' = Tree.layout source ts) :
    verbatim settings source' ts' = verbatim settings source ts := by
  rw [Tree.layout, Tree.layout, Tree.gaps, Tree.gaps, ← Tree.allWords_toMark 0,
    ← Tree.allWords_toMark 0] at hlayout
  exact verbatimFrom_congr (Tree.allWords_token_congr hshapes 0) rfl hlayout

end Verbatim

/-! ### Rendering twice -/

namespace Template

/-- **The layout of an escaped text is stable.** Let line breaks be line feeds, and indentation be
made of spaces and tabs. A text without quotes that can be read is rendered, once escaped, as a text
with the same tokens, the same groups and the same layout, and this text is, once escaped, rendered
as it is. This holds whenever a template may have a level at all, and else nothing is compiled. -/
theorem render_escaped_stable (settings : Settings) (receiver s : String) {ts : List Tree}
    (hplain : settings.Plain) (hquote : Unquoted s.toList)
    (h : Tree.ofSource settings s.toList = .ok ts) :
    (0 ≤ settings.maxDepth → ∃ text : String,
        (∃ t, ofSource settings receiver (escaped s) = .ok t ∧
          ∀ store, (t.render [] store).outcome = .ok text) ∧
        (∃ ts', Tree.ofSource settings text.toList = .ok ts' ∧
          Tree.allShapes ts' = Tree.allShapes ts ∧
          Tree.layout text.toList ts' = Tree.layout s.toList ts) ∧
        ∃ t, ofSource settings receiver (escaped text) = .ok t ∧
          ∀ store, (t.render [] store).outcome = .ok text) ∧
      (settings.maxDepth < 0 → ofSource settings receiver (escaped s) =
        .error (.malformed
          ⟨.tooDeep settings.maxDepth, .ofSource (escaped s).toList, settings.filename⟩)) := by
  refine ⟨fun hdepth => ?_, ofSource_escaped_of_negative_depth receiver hquote h⟩
  obtain ⟨ts', hok, hshapes, hlayout, hunquoted⟩ :=
    Tree.exists_ofSource_verbatim hplain hquote h
  have hagain := exists_render_of_depth receiver hunquoted hok hdepth
  rw [verbatim_congr hshapes hlayout] at hagain
  exact ⟨_, exists_render_of_depth receiver hquote h hdepth, ⟨ts', hok, hshapes, hlayout⟩, hagain⟩

/-- Numbers that points follow, sigils that touch, and a group in curly brackets that two empty
lines stand in. -/
theorem render_escaped_stable_points :
    ∃ ts, Tree.ofSource {} " 1.5.x ##:\n \x7b y\n\n\n  .z\x7d ".toList = .ok ts ∧ ∃ text : String,
      (∃ t, ofSource {} "t" (escaped " 1.5.x ##:\n \x7b y\n\n\n  .z\x7d ") = .ok t ∧
        ∀ store, (t.render [] store).outcome = .ok text) ∧
      (∃ ts', Tree.ofSource {} text.toList = .ok ts' ∧ Tree.allShapes ts' = Tree.allShapes ts ∧
        Tree.layout text.toList ts' =
          Tree.layout " 1.5.x ##:\n \x7b y\n\n\n  .z\x7d ".toList ts) ∧
      ∃ t, ofSource {} "t" (escaped text) = .ok t ∧
        ∀ store, (t.render [] store).outcome = .ok text := by
  obtain ⟨ts, h⟩ : ∃ ts, Tree.ofSource {} " 1.5.x ##:\n \x7b y\n\n\n  .z\x7d ".toList = .ok ts :=
    ⟨_, by cbv⟩
  have hplain : Settings.Plain {} := Settings.plain_of_default rfl rfl
  exact ⟨ts, h, (render_escaped_stable {} "t" _ hplain ⟨by decide, by decide⟩ h).1 (by decide)⟩

/-- With a negative bound on the depth a text of one word can be read, but it is not rendered. -/
theorem not_render_escaped_stable_of_negative_depth :
    ∃ ts, Tree.ofSource { maxDepth := -1 } "a".toList = .ok ts ∧ Unquoted "a".toList ∧
      Settings.Plain { maxDepth := -1 } ∧
      ¬ ∃ (text : String) (t : Template), ofSource { maxDepth := -1 } "t" (escaped "a") = .ok t ∧
        ∀ store, (t.render [] store).outcome = .ok text := by
  have h : Tree.ofSource { maxDepth := -1 } "a".toList =
      .ok [.leaf ⟨.name, "a", ⟨⟨1, 1⟩, ⟨1, 2⟩, 0, 1⟩⟩] := by
    cbv
  refine ⟨_, h, ⟨by decide, by decide⟩, Settings.plain_of_default rfl rfl, ?_⟩
  rintro ⟨text, t, hok, -⟩
  rw [ofSource_escaped_of_negative_depth "t" ⟨by decide, by decide⟩ h (by decide)] at hok
  exact absurd hok (by simp)

end Template

end TokenTemplate
