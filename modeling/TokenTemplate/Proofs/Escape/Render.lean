import TokenTemplate.Proofs.Escape.Compile
import TokenTemplate.Proofs.Run.Writing
import TokenTemplate.Proofs.Token.Lossless

/-!
# Escaped texts are rendered as they stand

A text without quotes, with every sigil doubled, is a template that needs no bindings and writes the
tokens of the text in the layout of the text (`TokenTemplate.Template.render_escaped`). The only
bound is the one on the depth: the outermost level of a template lies at depth zero, so with a
negative bound nothing is compiled, not even a text without groups, which can be read all the same
(`TokenTemplate.Template.ofSource_of_negative_depth`).
-/

namespace TokenTemplate

/-- A text with every sigil written twice. -/
def escaped (s : String) : String :=
  String.ofList (doubled s.toList)

variable {settings : Settings} {s : String} {ts : List Tree}

/-- The words of a source are not empty, so neither are their texts among the items. -/
theorem empty_notMem_itemsFrom {source : List Char} {ws : List Word} (last : Option Nat)
    (h : ∀ w ∈ ws, w.text ≠ []) : Item.text "" ∉ itemsFrom source last ws := by
  induction ws generalizing last with
  | nil => exact List.not_mem_nil
  | cons w ws ih =>
    obtain ⟨hw, hws⟩ := List.forall_mem_cons.1 h
    rw [itemsFrom, List.mem_append, List.mem_append, not_or, not_or]
    refine ⟨⟨by simp, ?_⟩, ih _ hws⟩
    rw [Word.items]
    split
    · rw [List.mem_singleton, Item.text.injEq]
      exact fun hempty => hw (String.ofList_eq_empty_iff.1 hempty.symm)
    · next d _ => cases d <;> decide
    · next d _ => cases d <;> decide

/-- The words of a source that can be read are not empty. -/
theorem text_ne_nil_of_mem_allWords (h : Tree.ofSource settings s.toList = .ok ts) :
    ∀ w ∈ Tree.allWords 0 ts, w.text ≠ [] := by
  obtain ⟨-, hreads, -⟩ := Tree.fills_of_ofSource h
  intro w hw hempty
  have hmark : w.toMark ∈ Tree.allMarks ts := by
    rw [← Tree.allWords_toMark 0]
    exact List.mem_map_of_mem hw
  have hpos := length_pos_of_spells (hreads.tiles.spells _ hmark)
  rw [hempty] at hpos
  exact absurd hpos (lt_irrefl 0)

theorem Body.compileWith_of_finish {body : Body} {inside : Inside} {r r' : Region} {e : Encoder}
    {routine : Routine} (h : inside body.untilComma body.encoder r = .ok (e, r'))
    (hfinish : e.finish.2 = .ok routine) : body.compileWith inside r = .ok (routine, r') := by
  rw [compileWith, h]
  simp only [bind, Except.bind, hfinish]
  rfl

/-- **What an escaped text is compiled to.** -/
theorem Routine.ofSource_escaped (receiver : String) (hquote : Unquoted s.toList)
    (h : Tree.ofSource settings s.toList = .ok ts) (hdepth : 0 ≤ settings.maxDepth) :
    ∃ routine, Routine.ofSource settings receiver (escaped s) = .ok routine ∧
      routine.instructions =
        (itemsFrom s.toList none (Tree.allWords 0 ts)).map Item.instruction := by
  obtain ⟨hfills, -, hshallow⟩ := Tree.fills_of_ofSource h
  obtain ⟨room, hroom⟩ := Int.eq_ofNat_of_zero_le hdepth
  rw [hroom] at hshallow
  let body : Body := { receiver, settings }
  let r : Region := ⟨doubled s.toList, settings, .ofSource (doubled s.toList), false,
    Tree.allDoubled s.toList ts⟩
  have hregion : Region.ofSource settings (escaped s).toList = .ok r := by
    rw [escaped, String.toList_ofList, Region.ofSource, Tree.ofSource_doubled hquote h]
    rfl
  have hstands : body.encoder.StandsAt s.toList none 0 :=
    ⟨rfl, fun p hp => absurd hp (Option.not_mem_none p)⟩
  obtain ⟨e, hok, hwrote⟩ := Body.placeAll_doubled body r 0 hquote hfills hshallow hstands
  have hlevels : (body.settings.maxDepth - body.depth + 1).toNat = room + 1 := by
    change (settings.maxDepth - 0 + 1).toNat = room + 1
    omega
  have hfinish := Encoder.finish_of_closed_of_after hwrote.opened_eq hwrote.after_eq
  have hcompile : body.compile r =
      .ok (⟨e.receiver, e.instructions, e.filename⟩, r.goOn []) := by
    rw [Body.compile, hlevels]
    exact Body.compileWith_of_finish hok hfinish
  refine ⟨⟨e.receiver, e.instructions, e.filename⟩, ?_, hwrote.instructions_eq⟩
  rw [Routine.ofSource, hregion]
  change (body.compile r >>= _) = _
  rw [hcompile]
  rfl

namespace Template

/-- With a negative bound on the depth nothing that can be read is compiled. -/
theorem ofSource_of_negative_depth (receiver : String)
    (h : Tree.ofSource settings s.toList = .ok ts) (hdepth : settings.maxDepth < 0) :
    ofSource settings receiver s =
      .error (.malformed ⟨.tooDeep settings.maxDepth, .ofSource s.toList, settings.filename⟩) := by
  let body : Body := { receiver, settings }
  have hlevels : (body.settings.maxDepth - body.depth + 1).toNat = 0 := by
    change (settings.maxDepth - 0 + 1).toNat = 0
    omega
  have hcompile (r : Region) : body.compile r =
      .error (.malformed (r.errorAt (.tooDeep settings.maxDepth) r.span)) := by
    rw [Body.compile, hlevels]
    rfl
  rw [ofSource, Routine.ofSource, Region.ofSource, h]
  change (body.compile ⟨s.toList, settings, .ofSource s.toList, false, ts⟩ >>= _) >>= _ = _
  rw [hcompile]
  rfl

/-- **What an escaped text is rendered as**, in every store and without bindings. -/
theorem exists_render_of_depth (receiver : String) (hquote : Unquoted s.toList)
    (h : Tree.ofSource settings s.toList = .ok ts) (hdepth : 0 ≤ settings.maxDepth) :
    ∃ t, ofSource settings receiver (escaped s) = .ok t ∧
      ∀ store, (t.render [] store).outcome = .ok (verbatim settings s.toList ts) := by
  obtain ⟨routine, hok, hinstructions⟩ := Routine.ofSource_escaped receiver hquote h hdepth
  refine ⟨⟨escaped s, receiver, settings, routine⟩, ?_, fun store => ?_⟩
  · rw [ofSource, hok]
    rfl
  · have hitems := @empty_notMem_itemsFrom s.toList _ none (text_ne_nil_of_mem_allWords h)
    rw [render_items _ hitems hinstructions, format_itemsFrom]

theorem ofSource_escaped_of_negative_depth (receiver : String) (hquote : Unquoted s.toList)
    (h : Tree.ofSource settings s.toList = .ok ts) (hdepth : settings.maxDepth < 0) :
    ofSource settings receiver (escaped s) =
      .error (.malformed
        ⟨.tooDeep settings.maxDepth, .ofSource (escaped s).toList, settings.filename⟩) := by
  have hescaped : Tree.ofSource settings (escaped s).toList = .ok (Tree.allDoubled s.toList ts) := by
    rw [escaped, String.toList_ofList]
    exact Tree.ofSource_doubled hquote h
  exact ofSource_of_negative_depth receiver hescaped hdepth

/-- **An escaped text is rendered as it stands.** A text without quotes that can be read, with every
sigil doubled, is compiled whenever a template may have a level at all. Then it needs no bindings,
and in every store it is rendered as the tokens of the text in their own layout. -/
theorem render_escaped (settings : Settings) (receiver s : String) (hquote : Unquoted s.toList)
    (h : Tree.ofSource settings s.toList = .ok ts) :
    (0 ≤ settings.maxDepth → ∃ t, ofSource settings receiver (escaped s) = .ok t ∧
        ∀ store, (t.render [] store).outcome = .ok (verbatim settings s.toList ts)) ∧
      (settings.maxDepth < 0 → ofSource settings receiver (escaped s) =
        .error (.malformed
          ⟨.tooDeep settings.maxDepth, .ofSource (escaped s).toList, settings.filename⟩)) :=
  ⟨exists_render_of_depth receiver hquote h, ofSource_escaped_of_negative_depth receiver hquote h⟩

/-- A sigil, a line break and a group in curly brackets with an empty line in it. -/
theorem render_escaped_three_lines :
    ∃ t, ofSource {} "t" (escaped " #f:\nx \x7b y\n\n  z\x7d ") = .ok t ∧
      ∀ store, (t.render [] store).outcome = .ok "#f:\nx \x7b y\n\n    z\x7d" := by
  obtain ⟨ts, h, hverbatim⟩ : ∃ ts, Tree.ofSource {} " #f:\nx \x7b y\n\n  z\x7d ".toList = .ok ts ∧
      verbatim {} " #f:\nx \x7b y\n\n  z\x7d ".toList ts = "#f:\nx \x7b y\n\n    z\x7d" := by
    refine ⟨_, by cbv, ?_⟩
    cbv
  rw [← hverbatim]
  exact (render_escaped {} "t" _ ⟨by decide, by decide⟩ h).1 (by decide)

/-- A text of one word can be read with a negative bound on the depth, but is not compiled. -/
theorem not_render_escaped_of_negative_depth :
    ∃ ts, Tree.ofSource { maxDepth := -1 } "a".toList = .ok ts ∧ Unquoted "a".toList ∧
      ¬ ∃ t, ofSource { maxDepth := -1 } "t" (escaped "a") = .ok t ∧
        ∀ store, (t.render [] store).outcome = .ok (verbatim { maxDepth := -1 } "a".toList ts) := by
  have h : Tree.ofSource { maxDepth := -1 } "a".toList =
      .ok [.leaf ⟨.name, "a", ⟨⟨1, 1⟩, ⟨1, 2⟩, 0, 1⟩⟩] := by
    cbv
  refine ⟨_, h, ⟨by decide, by decide⟩, ?_⟩
  rintro ⟨t, hok, -⟩
  have hescaped : escaped "a" = "a" := by decide
  rw [hescaped, ofSource_of_negative_depth "t" h (by decide)] at hok
  exact absurd hok (by simp)

end Template

end TokenTemplate
