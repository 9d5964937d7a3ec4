import TokenTemplate.Proofs.Grammar.Truncation
import TokenTemplate.Proofs.Routine.Record
import TokenTemplate.Proofs.Template.Coverage

/-!
# Groups in place and groups by themselves

A group is compiled in place, by the encoder of what it stands in; the inside of a join is compiled by
an encoder of its own, which is told where the brackets are. Both come to the same
(`TokenTemplate.Body.meet_group`), because what a region records does not depend on the encoder
(`TokenTemplate.levels_records`): there is a row of elements for it, or a complaint, and only the white
space before the first element and after the last one depends on what is around them.

In a source the first element begins with the first token and the last one ends with the last token
(`TokenTemplate.Covers.start_eq`, `TokenTemplate.Covers.stopOf_eq`). So the inside of a group, with the
white space next to its delimiters counted, is the inside by itself between the marks for the two gaps,
`TokenTemplate.spacedIn`.
-/

namespace TokenTemplate

/-! ### What is recorded does not depend on the encoder -/

/-- **A step records elements**: the same ones on every encoder, or there is the same complaint. -/
def Records (step : Encoder → Compiled Encoder) : Prop :=
  ∃ x : Compiled (List Element), ∀ e, step e = x.map e.record

/-- Compiling a region records elements. -/
def Inside.Records (inside : Inside) : Prop :=
  ∀ untilComma r, ∃ x : Compiled (List Element × Region),
    ∀ e, inside untilComma e r = x.map fun s => (e.record s.1, s.2)

/-- The elements of a group: its delimiters around those of its inside. -/
def Delimiter.around (d : Delimiter) (span : Span) (xs : List Element) : List Element :=
  ⟨span, span.cursor.firstCharacter, .opening d⟩ ::
    (xs ++ [⟨span, span.cursor.lastCharacter, .closing d⟩])

section Records

variable {b : Body} {inside : Inside} {room : Nat} {untilComma : Bool} {r : Region}

theorem records_of_neutral {node : Node} (h : node.IsNeutral) {span : Span} {cursor : Cursor} :
    Records fun e => e.write span cursor node :=
  ⟨.ok [⟨span, cursor, node⟩], fun _ => Encoder.write_of_neutral h⟩

/-- A step that does not depend on the encoder, before one that records elements. -/
theorem records_bind {α : Type} {y : Compiled α} {f : α → Encoder → Compiled Encoder}
    (h : ∀ a, y = .ok a → Records (f a)) : Records fun e => y >>= fun a => f a e := by
  cases y with
  | error p => exact ⟨.error p, fun _ => rfl⟩
  | ok a => exact h a rfl

/-- **A group records its delimiters** around what its inside records. -/
theorem place_group_of_records {x : Compiled (List Element × Region)} {group : Region}
    (hinside : ∀ e, inside false e group = x.map fun s => (e.record s.1, s.2)) (d : Delimiter)
    (e : Encoder) :
    b.place inside room e r (.group d group) =
      x.map fun s => e.record (d.around group.span s.1) := by
  have hopening : e.write group.span group.span.cursor.firstCharacter (.opening d) = .ok _ :=
    Encoder.write_of_opened? rfl
  rw [Body.place, hopening]
  change (inside false _ group >>= _) = _
  rw [hinside]
  cases x with
  | error p => rfl
  | ok s =>
    obtain ⟨xs, rest⟩ := s
    -- after the inside the group is the innermost one that is open
    have hopened : (Node.closing d).opened? (d :: e.opened) = some e.opened := by
      rw [Node.opened?, if_pos rfl]
    change Encoder.write _ group.span group.span.cursor.lastCharacter (.closing d) = .ok _
    rw [Encoder.write_of_opened? hopened]
    have haround : ((e.record [⟨group.span, group.span.cursor.firstCharacter, .opening d⟩]).record
        xs).record [⟨group.span, group.span.cursor.lastCharacter, .closing d⟩] =
          e.record (d.around group.span xs) := by
      rw [Encoder.record_append, Encoder.record_append]
      rfl
    exact congrArg Except.ok haround

/-- **A construct records elements.** -/
theorem records_place (hinside : inside.Records) (c : Construct) :
    Records fun e => b.place inside room e r c := by
  cases c with
  | escape | directive | name =>
    simp only [Body.place]
    exact records_of_neutral (by trivial)
  | block start block => exact records_bind fun segments _ => records_of_neutral (by trivial)
  | payload start scope =>
    refine records_bind fun s hnode => records_bind fun _ _ => records_of_neutral ?_
    obtain ⟨node, rest⟩ := s
    cases Construct.payloadNode_eq_ok_iff.1 hnode <;> trivial
  | group d group =>
    obtain ⟨x, hx⟩ := hinside false group
    refine ⟨x.map fun s => d.around group.span s.1, fun e => ?_⟩
    simp only
    rw [place_group_of_records hx d e]
    cases x <;> rfl
  | leaf l =>
    by_cases hkind : l.kind = .string
    · simp only [Body.place, if_pos hkind]
      refine records_bind fun node hnode => records_of_neutral ?_
      obtain ⟨text, -, rfl⟩ := map_eq_ok_iff.1 hnode
      trivial
    · simp only [Body.place, if_neg hkind]
      refine records_bind fun node hnode => records_of_neutral ?_
      obtain rfl := Except.ok.inj hnode
      trivial

/-- **A row of constructs records elements.** -/
theorem records_placeAll (hinside : inside.Records) (ts : List Tree) :
    ∃ x : Compiled (List Element × Region), ∀ e,
      b.placeAll inside room untilComma e r ts = x.map fun s => (e.record s.1, s.2) := by
  -- by induction on the tokens that are left, of which every construct takes one
  induction hn : ts.length using Nat.strongRecOn generalizing r ts with
  | _ n ih =>
    cases ts with
    | nil =>
      refine ⟨.ok ([], r.goOn []), fun e => ?_⟩
      rw [Body.placeAll, Except.map, Encoder.record_nil]
    | cons t ts =>
      rcases hcomma : untilComma && t.isPunct ',' with _ | _
      · rcases hsight : Construct.sight r t ts with err | ⟨c, rest⟩
        · exact ⟨.error (.malformed err), fun e => Body.placeAll_of_error hcomma hsight⟩
        · obtain ⟨rest, htakes, rfl⟩ := Construct.sight_eq_ok_iff.1 hsight
          have hlt : rest.length < n := by
            rw [← hn, List.length_cons]
            exact Nat.lt_succ_of_le htakes.length_le
          have hrecords : Records fun e => b.place inside room e (r.goOn rest) c :=
            records_place hinside c
          obtain ⟨x, hx⟩ := hrecords
          obtain ⟨y, hy⟩ := ih _ hlt (r := r.goOn rest) rest rfl
          refine ⟨x >>= fun xs => y.map fun s => (xs ++ s.1, s.2), fun e => ?_⟩
          have hplace : b.place inside room e (r.goOn rest) c = x.map e.record := hx e
          rw [Body.placeAll_of_takes hcomma htakes, hplace]
          cases x with
          | error p => rfl
          | ok xs =>
            change b.placeAll inside room untilComma (e.record xs) (r.goOn rest) rest = _
            rw [hy]
            cases y with
            | error p => rfl
            | ok s => exact congrArg (fun e' => Except.ok (e', s.2)) (e.record_append xs s.1)
      · refine ⟨.ok ([], r.goOn (t :: ts)), fun e => ?_⟩
        rw [Body.placeAll_of_comma hcomma, Except.map, Encoder.record_nil]

/-- **Every level records elements**, by induction on how much deeper it may go. -/
theorem levels_records (b : Body) (room : Nat) : (levels b room).Records := by
  induction room with
  | zero => exact fun _ r => ⟨.error _, fun _ => rfl⟩
  | succ room ih => exact fun untilComma r => records_placeAll ih r.tokens

end Records

/-! ### Where the elements of a piece of source begin and end -/

section Ends

variable {source : List Char} {i j : Nat} {t u : Tree} {ts between : List Tree} {xs : List Element}
  {place : Option Position}

/-- What a sigil takes goes from its first token to its last. -/
theorem Fills.cursor_join (h : Fills source i (t :: (between ++ u :: ts)) j) :
    t.span.cursor.join u.span.cursor = ⟨t.span.start, u.span.stop⟩ := by
  obtain ⟨a, b, -, hab, hspan, -, hrest⟩ := h.head
  obtain ⟨k, hbetween, hrest⟩ := hrest.append_inv
  obtain ⟨c, d, hkc, hcd, hspan', hone, -⟩ := hrest.head
  have hbk := hbetween.le
  have hd := hone.stop_le
  rw [hspan, hspan', Span.cursor_join_between (by omega) (by omega) (by omega) hd]
  rfl

/-- **The first element begins where the first token does.** -/
theorem Covers.start_eq (h : Covers (t :: ts) xs) (hfills : Fills source i (t :: ts) j) :
    ∃ y ys, xs = y :: ys ∧ y.cursor.start = t.span.start := by
  cases h with
  | token hcursor => exact ⟨_, _, rfl, by rw [hcursor]; rfl⟩
  | sigil _ _ hcursor => exact ⟨_, _, rfl, by rw [hcursor, hfills.cursor_join]⟩
  | group _ hfirst => exact ⟨_, _, rfl, by rw [hfirst]; rfl⟩

/-- **The last element ends where the last token does.** -/
theorem Covers.stopOf_eq (h : Covers ts xs) (hfills : Fills source i ts j) :
    Element.stopOf place xs = (ts.getLast?.map (·.span.stop)).or place := by
  have hcons (v : Tree) (vs : List Tree) (place : Option Position) :
      ((v :: vs).getLast?.map (·.span.stop)).or place =
        (vs.getLast?.map (·.span.stop)).or (some v.span.stop) := by
    rw [List.getLast?_cons]
    cases vs.getLast? <;> rfl
  induction h generalizing i j place with
  | nil => rfl
  | token hcursor _ ih =>
    obtain ⟨a, b, -, -, -, -, hrest⟩ := hfills.head
    rw [Element.stopOf_cons, ih hrest, hcons, hcursor]
    rfl
  | @sigil t u between ts _ _ _ _ hcursor _ ih =>
    obtain ⟨a, b, -, -, -, -, hrest⟩ := hfills.head
    obtain ⟨k, -, hrest⟩ := hrest.append_inv
    obtain ⟨c, d, -, -, -, -, hrest⟩ := hrest.head
    have hlast : (t :: (between ++ u :: ts)).getLast? = (u :: ts).getLast? := by
      rw [← List.cons_append, List.getLast?_append_of_ne_nil _ (List.cons_ne_nil u ts)]
    rw [Element.stopOf_cons, ih hrest, hlast, hcons, hcursor, hfills.cursor_join]
  | group _ _ _ _ hlast _ _ ih =>
    obtain ⟨a, b, -, -, -, -, hrest⟩ := hfills.head
    rw [Element.stopOf_cons, Element.stopOf_append, Element.stopOf_cons, ih hrest, hcons, hlast]
    rfl

/-- The tokens of a filling stand between its ends. -/
theorem Fills.exists_between (h : Fills source i ts j) :
    ∀ t ∈ ts, ∃ a b, i ≤ a ∧ b ≤ j ∧ t.span = .between source a b := by
  induction ts generalizing i with
  | nil => exact List.forall_mem_nil _
  | cons t ts ih =>
    obtain ⟨a, b, hi, hab, hspan, -, hrest⟩ := h.head
    refine List.forall_mem_cons.2 ⟨⟨a, b, hi, hrest.le, hspan⟩, fun u hu => ?_⟩
    obtain ⟨c, d, hbc, hd, hspan'⟩ := ih hrest u hu
    exact ⟨c, d, by omega, hd, hspan'⟩

/-- **The children of a group of a source** fill it from one delimiter to the other. -/
theorem Fills.group_inv {d : Delimiter} {children : List Tree} {span : Span}
    (h : Fills source i ts j) (hmem : .group d children span ∈ Tree.allParts ts) :
    ∃ a b, span = .between source a (b + 1) ∧ source[a]? = some d.openChar ∧
      source[b]? = some d.closeChar ∧ Fills source (a + 1) children b := by
  induction h with
  | nil => exact absurd hmem List.not_mem_nil
  | leaf _ _ _ _ _ _ _ ih =>
    rw [Tree.allParts, Tree.parts, List.singleton_append, List.mem_cons] at hmem
    exact ih (hmem.resolve_left nofun)
  | group _ _ hopen hclose hspan hchildren _ ihc ih =>
    rw [Tree.allParts, Tree.parts, List.cons_append, List.mem_cons, List.mem_append] at hmem
    rcases hmem with heq | hmem | hmem
    · obtain ⟨rfl, rfl, rfl⟩ := Tree.group.inj heq
      exact ⟨_, _, hspan, hopen, hclose, hchildren⟩
    · exact ihc hmem
    · exact ih hmem

end Ends

/-! ### Bodies by themselves -/

namespace Body

/-- A body of the same template, one level further in. -/
def nested (b : Body) : Body where
  receiver := b.receiver
  settings := b.settings
  depth := b.depth + 1

/-- How many levels a body may still go down, its own included. -/
def room (b : Body) : Nat :=
  (b.settings.maxDepth - b.depth + 1).toNat

/-- **What a body does when it meets a construct.** -/
def meet (b : Body) (e : Encoder) (r : Region) (c : Construct) : Compiled Encoder :=
  b.place (levels b b.nested.room) b.nested.room e r c

variable {b : Body} {r : Region} {x : Compiled (List Element × Region)}

/-- The routine of a body that records some elements. -/
def routineOf (b : Body) (xs : List Element) : Routine where
  receiver := b.receiver
  instructions := Element.written b.before xs ++
    b.after.elim [] (spaceMarks (Element.stopOf b.before xs))
  filename := b.settings.filename

theorem compileWith_of_records {inside : Inside}
    (h : ∀ e, inside b.untilComma e r = x.map fun s => (e.record s.1, s.2)) :
    b.compileWith inside r = x.map fun s => (b.routineOf s.1, s.2) := by
  rw [compileWith, h]
  cases x with
  | error p => rfl
  | ok s =>
    have hfinish : (b.encoder.record s.1).finish.2 = .ok (b.routineOf s.1) :=
      Encoder.finish_record rfl
    dsimp only [Except.map, Bind.bind, Except.bind]
    rw [hfinish]
    rfl

/-- A body that meets constructs goes on after each of them. -/
theorem levels_group (h : b.depth ≤ b.settings.maxDepth) (untilComma : Bool) (e : Encoder)
    (d : Delimiter) (children : List Tree) (span : Span) (ts : List Tree) :
    levels b b.room untilComma e (r.goOn (.group d children span :: ts)) =
      b.meet e r (.group d (r.inside children span)) >>= fun e' =>
        levels b b.room untilComma e' (r.goOn ts) := by
  have hroom : b.room = b.nested.room + 1 := by
    simp only [room, nested]
    omega
  have hcomma : (untilComma && (Tree.group d children span).isPunct ',') = false := by
    rw [isPunct_group, Bool.and_false]
  rw [hroom, levels]
  exact placeAll_of_takes hcomma (.plain (standsAlone_of_not_sigil rfl))

/-- The bodies one level further in, between edges, are those by themselves. -/
theorem bodies_eq_compile (b : Body) (edges : Option Span) (r : Region) :
    b.bodies (levels b b.nested.room) edges false r =
      (edges.elim b.nested b.nested.within).compile r := by
  have hlevels : ∀ b' : Body, b.receiver = b'.receiver → b.settings = b'.settings →
      levels b b.nested.room = levels b' b.nested.room := fun b' hreceiver hsettings =>
    levels_congr b b' hreceiver hsettings _
  cases edges with
  | none => exact congrArg (fun inside => b.nested.compileWith inside r) (hlevels b.nested rfl rfl)
  | some span =>
    exact congrArg (fun inside => (b.nested.within span).compileWith inside r)
      (hlevels (b.nested.within span) rfl rfl)

/-- A body by itself, or between edges, is the routine of what is recorded one level further in. -/
theorem compile_of_records (edges : Option Span)
    (h : ∀ e, levels b b.nested.room false e r = x.map fun s => (e.record s.1, s.2)) :
    (edges.elim b.nested b.nested.within).compile r =
      x.map fun s => ((edges.elim b.nested b.nested.within).routineOf s.1, s.2) := by
  rw [← bodies_eq_compile]
  cases edges <;> exact compileWith_of_records h

end Body

/-! ### The white space in a group -/

/-- The marks for a gap. -/
def Whitespace.marks (gap : List Char) : List Instruction :=
  (Whitespace.ofGap? gap).toList.map .layout

theorem spaceMarks_ofOffset {source : List Char} {a b : Nat} (h : a ≤ b) :
    spaceMarks (some (.ofOffset source a)) (.ofOffset source b) =
      Whitespace.marks (slice source a b) := by
  rw [spaceMarks, Option.bind_some, Position.ofOffset_slice h, spacing?_advanceAll, Whitespace.marks]

/-- **What is between the delimiters of a group of a source**, with the white space next to them; if
there is nothing else, the white space is one gap. -/
def spacedIn (source : List Char) (span : Span) (content : List Instruction) :
    List Tree → List Instruction
  | [] => Whitespace.marks (slice source (span.startPos + 1) (span.stopPos - 1))
  | t :: ts => Whitespace.marks (slice source (span.startPos + 1) t.span.startPos) ++ (content ++
      Whitespace.marks (slice source (ts.getLastD t).span.stopPos (span.stopPos - 1)))

/-- **Elements of a group of a source**, with the white space next to its delimiters. -/
theorem Covers.written_within {source : List Char} {d : Delimiter} {a b : Nat} {children : List Tree}
    {xs : List Element} (h : Covers children xs) (hopen : source[a]? = some d.openChar)
    (hclose : source[b]? = some d.closeChar) (hfills : Fills source (a + 1) children b) :
    Element.written (some (Span.between source a (b + 1)).start.right) xs ++
        spaceMarks (Element.stopOf (some (Span.between source a (b + 1)).start.right) xs)
          (Span.between source a (b + 1)).stop.left =
      spacedIn source (.between source a (b + 1)) (Element.written none xs) children := by
  have hright : (Span.between source a (b + 1)).start.right = .ofOffset source (a + 1) :=
    Position.right_ofOffset hopen (by cases d <;> decide)
  have hleft : (Span.between source a (b + 1)).stop.left = .ofOffset source b :=
    Position.left_ofOffset_succ hclose (by cases d <;> decide)
  rw [hright, hleft]
  cases children with
  | nil =>
    cases h
    exact spaceMarks_ofOffset hfills.le
  | cons t ts =>
    obtain ⟨y, ys, rfl, hstart⟩ := h.start_eq hfills
    have hlast : ts.getLastD t ∈ t :: ts := List.getLastD_mem_cons
    obtain ⟨c, d, hac, -, hspan⟩ := hfills.exists_between t List.mem_cons_self
    obtain ⟨f, g, -, hgb, hspan'⟩ := hfills.exists_between _ hlast
    have hstop : Element.stopOf (some (.ofOffset source (a + 1))) (y :: ys) =
        some (.ofOffset source g) := by
      rw [h.stopOf_eq hfills, List.getLast?_cons, ← List.getLastD_eq_getLast?, Option.map_some,
        hspan']
      rfl
    rw [Element.written_some, hstart, hspan, hstop, spacedIn, hspan, hspan', List.append_assoc]
    congr 1
    · exact spaceMarks_ofOffset hac
    · exact congrArg _ (spaceMarks_ofOffset hgb)

/-! ### Groups in place -/

/-- The instructions of a group, after what has been written before it. -/
theorem Encoder.instructions_record_around (e : Encoder) (d : Delimiter) (span : Span)
    (xs : List Element) :
    (e.record (d.around span xs)).instructions = e.instructions ++
      (spaceMarks (e.last.or e.before) span.start ++ (d.openingItems.map Item.instruction ++
        (Element.written (some span.start.right) xs ++
          spaceMarks (Element.stopOf (some span.start.right) xs) span.stop.left ++
            d.closingItems.map Item.instruction))) := by
  have hclosing (place : Option Position) :
      Element.written place [⟨span, span.cursor.lastCharacter, .closing d⟩] =
        spaceMarks place span.stop.left ++ d.closingItems.map Item.instruction :=
    congrArg _ (List.append_nil _)
  rw [Encoder.record, Delimiter.around, Element.written, Element.written_append, hclosing,
    List.append_assoc]
  rfl

theorem map_eq_error_iff {ε α β γ : Type} {x : Except ε α} {f : α → β} {g : α → γ} {p : ε} :
    x.map f = .error p ↔ x.map g = .error p := by
  cases x with
  | error q => exact ⟨fun h => congrArg _ (Except.error.inj h), fun h => congrArg _ (Except.error.inj h)⟩
  | ok a => exact iff_of_false nofun nofun

/-- What a region records covers its tokens. -/
theorem covers_of_records {b : Body} {room : Nat} {e : Encoder} {r : Region}
    {s : List Element × Region} (h : levels b room false e r = .ok (e.record s.1, s.2)) :
    Covers r.tokens s.1 := by
  obtain ⟨-, xs, helements, hcovers⟩ := levels_covers b room h
  have hall : r.tokens.takeWhile (goesOn false) = r.tokens :=
    List.takeWhile_eq_self_iff.2 fun _ _ => rfl
  obtain rfl : s.1 = xs := List.append_cancel_left helements
  rwa [hall] at hcovers

/-- **A group in place is a group by itself.** A body that meets a group hands it to its encoder and
goes on after it. This complains about what compiling the inside between the delimiters, one level
further in, complains about; or it writes the white space before the group, the opening delimiter,
the instructions of the inside, and the closing delimiter. The inside of a join is compiled between
its delimiters in the same way. For a group of a source this is the same as compiling the inside by
itself, with the white space next to the delimiters added. -/
theorem Body.meet_group (b : Body) (r : Region) (d : Delimiter) (children : List Tree)
    (span : Span) :
    (b.depth ≤ b.settings.maxDepth → ∀ untilComma e ts,
      levels b b.room untilComma e (r.goOn (.group d children span :: ts)) =
        b.meet e r (.group d (r.inside children span)) >>= fun e' =>
          levels b b.room untilComma e' (r.goOn ts)) ∧
    (∀ e p, b.meet e r (.group d (r.inside children span)) = .error p ↔
      (b.nested.within span).compile (r.inside children span) = .error p) ∧
    (∀ e routine rest, (b.nested.within span).compile (r.inside children span) = .ok (routine, rest) →
      ∃ e', b.meet e r (.group d (r.inside children span)) = .ok e' ∧
        e'.instructions = e.instructions ++ (spaceMarks (e.last.or e.before) span.start ++
          (d.openingItems.map Item.instruction ++
            (routine.instructions ++ d.closingItems.map Item.instruction))) ∧
        e'.last = some span.stop ∧ e'.opened = e.opened) ∧
    b.bodies (levels b b.nested.room) (some span) false (r.inside children span) =
      (b.nested.within span).compile (r.inside children span) ∧
    ∀ settings source whole, Region.ofSource settings source = .ok whole →
      .group d children span ∈ Tree.allParts whole.tokens →
      (∀ p, (b.nested.within span).compile (r.inside children span) = .error p ↔
        b.nested.compile (r.inside children span) = .error p) ∧
      ∀ content rest, b.nested.compile (r.inside children span) = .ok (content, rest) →
        (b.nested.within span).compile (r.inside children span) = .ok ({ content with
          instructions := spacedIn source span content.instructions children }, rest) := by
  -- what is recorded for the inside does not depend on the encoder, nor on the edges
  obtain ⟨x, hx⟩ := levels_records b b.nested.room false (r.inside children span)
  have hmeet : ∀ e, b.meet e r (.group d (r.inside children span)) =
      x.map fun s => e.record (d.around span s.1) := fun e => place_group_of_records hx d e
  have hwithin : (b.nested.within span).compile (r.inside children span) = x.map _ :=
    compile_of_records (some span) hx
  have halone : b.nested.compile (r.inside children span) = x.map _ := compile_of_records none hx
  refine ⟨fun h untilComma e ts => levels_group h untilComma e d children span ts, fun e p => ?_,
    fun e routine rest h => ?_, bodies_eq_compile b (some span) _,
    fun settings source whole hwhole hmem => ⟨fun p => ?_, fun content rest h => ?_⟩⟩
  · rw [hmeet, hwithin]
    exact map_eq_error_iff
  · rw [hwithin] at h
    cases x with
    | error p => cases h
    | ok s =>
      obtain ⟨rfl, rfl⟩ := Prod.mk.inj (Except.ok.inj h)
      refine ⟨_, hmeet e, e.instructions_record_around d span s.1, ?_, rfl⟩
      change Element.stopOf e.last (d.around span s.1) = _
      rw [Delimiter.around, Element.stopOf_cons, Element.stopOf_append]
      rfl
  · rw [hwithin, halone]
    exact map_eq_error_iff
  · rw [halone] at h
    cases x with
    | error p => cases h
    | ok s =>
      obtain ⟨rfl, rfl⟩ := Prod.mk.inj (Except.ok.inj h)
      obtain ⟨ts, hts, hr⟩ := bind_eq_ok_iff.1 hwhole
      obtain rfl := Except.ok.inj hr
      obtain ⟨hfills, -, -⟩ := Tree.fills_of_ofSource hts
      -- in a whole source it is known where the delimiters stand
      obtain ⟨i, j, rfl, hopen, hclose, hchildren⟩ := hfills.group_inv hmem
      have hcovers : Covers children s.1 := covers_of_records (hx b.encoder)
      have hcontent : (b.nested.routineOf s.1).instructions = Element.written none s.1 :=
        List.append_nil _
      have hinstructions := hcovers.written_within hopen hclose hchildren
      rw [← hcontent] at hinstructions
      rw [hwithin]
      exact congrArg (fun is => Except.ok ((⟨b.receiver, is, b.settings.filename⟩ : Routine), s.2))
        hinstructions

/-- A comma in brackets has a blank on either side. -/
theorem Body.meet_group_comma :
    ∃ whole children span content rest, Region.ofSource {} "( , )".toList = .ok whole ∧
      .group .parenthesis children span ∈ Tree.allParts whole.tokens ∧
      Body.compile (Body.nested {}) (whole.inside children span) = .ok (content, rest) ∧
      content.instructions = [.append ","] ∧
      Body.bodies {} (levels {} (Body.nested {}).room) (some span) false
          (whole.inside children span) =
        .ok ({ content with instructions := [.layout .space, .append ",", .layout .space] }, rest) := by
  let span : Span := ⟨⟨1, 1⟩, ⟨1, 6⟩, 0, 5⟩
  let comma : Tree := .leaf ⟨.punct, ",", ⟨⟨1, 3⟩, ⟨1, 4⟩, 2, 3⟩⟩
  let whole : Region := ⟨"( , )".toList, {}, span, false, [.group .parenthesis [comma] span]⟩
  have hwhole : Region.ofSource {} "( , )".toList = .ok whole := by cbv
  have hmem : .group .parenthesis [comma] span ∈ Tree.allParts whole.tokens := List.mem_cons_self
  have hcontent : Body.compile (Body.nested {}) (whole.inside [comma] span) =
      .ok (⟨"t", [.append ","], "<template>"⟩, (whole.inside [comma] span).goOn []) := by cbv
  obtain ⟨-, -, -, hjoin, hedges⟩ := Body.meet_group {} whole .parenthesis [comma] span
  refine ⟨whole, [comma], span, _, _, hwhole, hmem, hcontent, rfl, ?_⟩
  rw [hjoin]
  exact (hedges _ _ _ hwhole hmem).2 _ _ hcontent

end TokenTemplate
