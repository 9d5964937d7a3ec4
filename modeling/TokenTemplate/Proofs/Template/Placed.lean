import TokenTemplate.Proofs.Token.Language
import TokenTemplate.Region

/-!
# Complaints about a place of the source

A complaint about a template is of use only if it names the template and a place of its source,
`TokenTemplate.SyntaxError.Concerns`. Whether it does is a matter of where the regions stand that
the complaint is made from, and `TokenTemplate.Region.Placed` is all that has to be known of a
region for this: its own span, its end and all its tokens lie in the source. Going on in a region
keeps it, and so does going into a group.

The end of a region has to be mentioned apart. For the inside of a group it is made up from the last
offset of the group, and stands for a place of the source only because a closing delimiter is one
character of the line that it ends on.
-/

namespace TokenTemplate

/-! ### Outcomes -/

/-- **What is known of an outcome**: one thing of a complaint, and another of a result. -/
def Meets {ε α : Type} (bad : ε → Prop) (good : α → Prop) : Except ε α → Prop
  | .error e => bad e
  | .ok a => good a

section Meets

variable {ε α β : Type} {bad : ε → Prop} {good good' : α → Prop} {goal : β → Prop} {x : Except ε α}

theorem meets_ok {a : α} (h : good a) : Meets bad good (.ok a) := h

theorem meets_pure {a : α} (h : good a) : Meets bad good (pure a) := h

theorem meets_error {e : ε} (h : bad e) : Meets bad good (.error e) := h

theorem Meets.mono (h : Meets bad good x) (himp : ∀ a, good a → good' a) : Meets bad good' x := by
  cases x with
  | error e => exact h
  | ok a => exact himp a h

/-- **One step after another.** -/
theorem Meets.bind {f : α → Except ε β} (h : Meets bad good x)
    (hf : ∀ a, good a → Meets bad goal (f a)) : Meets bad goal (x >>= f) := by
  cases x with
  | error e => exact h
  | ok a => exact hf a h

end Meets

/-- **A complaint about a source**: it has the name of the template, and its span lies in the
source. -/
structure SyntaxError.Concerns (settings : Settings) (source : List Char) (e : SyntaxError) :
    Prop where
  /-- The name is that of the template. -/
  filename_eq : e.filename = settings.filename
  /-- The span is one of the source. -/
  span_liesIn : e.span.LiesIn source

/-! ### Tokens of a source -/

namespace Tree

variable {source : List Char} {t u : Tree} {ts : List Tree} {d : Delimiter} {span : Span}

/-- **A token that stands in a source**, with all tokens inside it. -/
def Placed (source : List Char) (t : Tree) : Prop :=
  ∀ u ∈ parts t, u.span.LiesIn source ∧ u.IsCutOut source

theorem Placed.span_liesIn (h : t.Placed source) : t.span.LiesIn source :=
  (h t (self_mem_parts t)).1

/-- What stands inside a group of a source stands in the source. -/
theorem Placed.children (h : (group d ts span).Placed source) : ∀ t ∈ ts, t.Placed source :=
  fun t ht u hu => h u (List.mem_cons_of_mem _ (mem_allParts_iff.2 ⟨t, ht, hu⟩))

/-- **The closing delimiter of a group** is a piece of the source. -/
theorem Placed.last_liesIn (h : (group d ts span).Placed source) :
    Span.LiesIn source ⟨span.stop.left, span.stop, span.stopPos - 1, span.stopPos⟩ := by
  obtain ⟨hspan, hlt, -, hclose, -⟩ := h _ (self_mem_parts _)
  have hlast := hspan.stopPos_le
  refine ⟨Nat.sub_le _ _, hlast, ?_, hspan.stop_eq⟩
  have hpos : span.stopPos - 1 + 1 = span.stopPos := by omega
  have hchar : source[span.stopPos - 1]? = some d.closeChar := by
    have hlen : span.stopPos - 1 < source.length := by
      change span.stopPos ≤ source.length at hlast
      omega
    have hone := List.getElem?_eq_getElem hlen
    have hslice := slice_succ hone
    rw [hpos, hclose] at hslice
    rw [hone, (List.cons.inj hslice).1]
  have hne : d.closeChar ≠ '\n' := by cases d <;> decide
  have hleft := Position.left_ofOffset_succ hchar hne
  rw [hpos] at hleft
  rw [← hleft]
  exact congrArg Position.left hspan.stop_eq

theorem placed_of_mem_allParts (h : ∀ u ∈ allParts ts, u.span.LiesIn source ∧ u.IsCutOut source) :
    ∀ t ∈ ts, t.Placed source :=
  fun t ht u hu => h u (mem_allParts_iff.2 ⟨t, ht, hu⟩)

end Tree

/-! ### Regions of a source -/

namespace Region

/-- **A region of a source.** -/
structure Placed (settings : Settings) (source : List Char) (r : Region) : Prop where
  /-- The source is the one that payloads are cut out of. -/
  source_eq : r.source = source
  /-- The settings are those of the template. -/
  settings_eq : r.settings = settings
  /-- The whole region lies in the source. -/
  span_liesIn : r.span.LiesIn source
  /-- So does its end. -/
  endSpan_liesIn : r.endSpan.LiesIn source
  /-- So do the tokens that are still to come. -/
  tokens_placed : ∀ t ∈ r.tokens, t.Placed source

variable {settings : Settings} {source : List Char} {r : Region}

theorem Placed.goOn {ts : List Tree} (h : r.Placed settings source)
    (hts : ∀ t ∈ ts, t.Placed source) : (r.goOn ts).Placed settings source :=
  ⟨h.source_eq, h.settings_eq, h.span_liesIn, h.endSpan_liesIn, hts⟩

theorem Placed.inside {d : Delimiter} {ts : List Tree} {span : Span} (h : r.Placed settings source)
    (hg : (Tree.group d ts span).Placed source) : (r.inside ts span).Placed settings source := by
  refine ⟨h.source_eq, h.settings_eq, hg.span_liesIn, ?_, hg.children⟩
  rw [Region.endSpan, Region.inside, if_pos rfl]
  exact hg.last_liesIn

/-! ### What is complained about -/

theorem Placed.errorAt {span : Span} (h : r.Placed settings source) (problem : SyntaxProblem)
    (hspan : span.LiesIn source) : (r.errorAt problem span).Concerns settings source :=
  ⟨congrArg Settings.filename h.settings_eq, hspan⟩

/-! ### Payloads -/

/-- A payload and what is left after it are all tokens that there were. -/
theorem splitFrom_append (r : Region) (stop : Stop) (last : Option Tree) (ts : List Tree) :
    (splitFrom r stop last ts).1 ++ (splitFrom r stop last ts).2 = ts := by
  induction ts generalizing last with
  | nil => rfl
  | cons t ts ih =>
    rw [splitFrom]
    split
    · rfl
    · rw [List.cons_append, ih]

/-! ### The whole of a template -/

/-- **The region of a source**, or a complaint about the source. -/
theorem ofSource_meets (settings : Settings) (source : List Char) :
    Meets (SyntaxError.Concerns settings source) (Placed settings source)
      (Region.ofSource settings source) := by
  obtain ⟨marks, stop, h⟩ := exists_reads (Nat.zero_le source.length)
  rcases Tree.ofSource_cases settings h with
    ⟨⟨ts, hok⟩, -⟩ | ⟨e, herror, hname, hoffence⟩
  · rw [Region.ofSource, hok]
    have hspan : Span.ofSource source = .between source 0 source.length := by
      have hwhole : Span.ofText (.ofOffset source 0) 0 source = _ :=
        Span.ofText_eq_between (List.prefix_refl source)
      rwa [Position.ofOffset_zero, Nat.zero_add] at hwhole
    have hlies := hspan ▸ Span.liesIn_between (Nat.zero_le source.length) le_rfl
    obtain ⟨hfills, -, -⟩ := Tree.fills_of_ofSource hok
    refine meets_ok ⟨rfl, rfl, hlies, ?_, Tree.placed_of_mem_allParts fun u hu => ?_⟩
    · rw [endSpan, if_neg Bool.false_ne_true, hspan]
      exact Span.LiesIn.point le_rfl
    · obtain ⟨hlu, hcut, -⟩ := hfills.mem_allParts u hu
      exact ⟨hlu, hcut⟩
  · rw [Region.ofSource, herror]
    exact meets_error ⟨hname, hoffence.liesIn h⟩

end Region

end TokenTemplate
