import TokenTemplate.Proofs.Template.Survey

/-!
# What compiling a template reports

A template is compiled, or there is a complaint about a place of its source; the encoder never has
anything to complain about (`TokenTemplate.Routine.ofSource_reports`). The compiler is followed through
the regions of the source, at whatever level, with complaints about the source being those allowed.
-/

namespace TokenTemplate

variable {settings : Settings} {source : List Char}

/-- **A complaint of the compiler about a source**: never one of the encoder. -/
def CompileError.Concerns (settings : Settings) (source : List Char) : CompileError → Prop
  | .malformed e => e.Concerns settings source
  | .encoder _ => False

/-- The regions of a source, and the complaints about it. -/
def Survey.ofSource (settings : Settings) (source : List Char) : Survey where
  Covers _ r := r.Placed settings source
  Allows span := span.LiesIn source
  Bad := CompileError.Concerns settings source
  limit := 0
  goOn h hts := h.goOn fun t ht => h.tokens_placed t (hts.subset ht)
  inside h hmem := h.inside (h.tokens_placed _ hmem)
  allows_span h := h.span_liesIn
  allows_endSpan h := h.endSpan_liesIn
  allows_token h ht := (h.tokens_placed _ ht).span_liesIn
  allows_join h h' := h.join h'
  bad_of_allows h hs _ := h.errorAt _ hs
  bad_of_deep _ h _ := h.errorAt _ h.span_liesIn

/-! ### Bodies -/

/-- **What compiles a region on an encoder hands its open groups back.** -/
def Inside.Balanced (settings : Settings) (source : List Char) (inside : Inside) : Prop :=
  ∀ untilComma e r, r.Placed settings source →
    Meets (CompileError.Concerns settings source)
      (fun s => s.1.opened = e.opened ∧ s.2.Placed settings source) (inside untilComma e r)

theorem Body.compileWith_meets {b : Body} {inside : Inside} {r : Region}
    (hi : inside.Balanced settings source) (h : r.Placed settings source) :
    Meets (CompileError.Concerns settings source) (fun s => s.2.Placed settings source)
      (b.compileWith inside r) :=
  Survey.compileWith_meets (S := .ofSource settings source) (n := 0) (fun _ _ => hi) h

/-- **Every level is balanced**, the last one too: the level of a region does not matter here. -/
theorem levels_balanced (b : Body) (room : Nat) : (levels b room).Balanced settings source :=
  Survey.levels_keeps (S := .ofSource settings source) (n := 1) (by change 0 < _; omega) 1 le_rfl

/-! ### Templates -/

/-- **What compiling a template reports.** Whatever the source, the name of the receiver and the
settings, there is a routine or a complaint that has the name of the template and is about a piece
of its source. No source makes the encoder fail. -/
theorem Routine.ofSource_reports (settings : Settings) (receiver source : String) :
    (∃ routine, Routine.ofSource settings receiver source = .ok routine) ∨
      ∃ e, Routine.ofSource settings receiver source = .error (.malformed e) ∧
        e.filename = settings.filename ∧ e.span.LiesIn source.toList := by
  have h : Meets (CompileError.Concerns settings source.toList) (fun _ => True)
      (Routine.ofSource settings receiver source) :=
    (Region.ofSource_meets settings source.toList).lift.bind fun r hr =>
      (Body.compileWith_meets (levels_balanced _ _) hr).bind fun _ _ => meets_pure trivial
  rcases hx : Routine.ofSource settings receiver source with (e | p) | routine
  · rw [hx] at h
    exact Or.inr ⟨e, rfl, h.filename_eq, h.span_liesIn⟩
  · rw [hx] at h
    exact h.elim
  · exact Or.inl ⟨routine, rfl⟩

end TokenTemplate
