import TokenTemplate.Proofs.Payload.CaseText

/-!
# The head of a case

The tokens of a case are read as a program. The bracket before the pattern is closed by the one behind it if the
tokens of the pattern close all brackets that they open. If they do not, it can only be closed behind the guard, and
then the word that begins the guard would be read as a part of a pattern, which it never is
(`TokenTemplate.Payload.PatternGrammar.rest_of_grouped`). So what is accepted is one case with one pattern and one
guard, `TokenTemplate.Case.Wraps`, with both of them complete by themselves: `TokenTemplate.Payload.Isolated`.
-/

namespace TokenTemplate

namespace Payload

open Reader

variable {us more : List Token} {t : Token} {after : List String} {s s' : ReadState} {p : Pattern}
  {guard : Option Expr} {depth : Nat}

/-! ### The pattern -/

namespace PatternGrammar

theorem closes_grouped (depth : Nat) : (grouped (pattern depth)).Closes noCondition ")" :=
  (closes_sequence (matched_pattern depth) ")").bind_still fun r => still_openSequence r.1 r.2

/-- **The bracket before a pattern is closed behind it**: a condition that follows is no part of a pattern. -/
theorem rest_of_grouped (hrun : (grouped (pattern depth)).run s = some (p, s'))
    (hs : s.rest = us ++ mark ")" :: t :: more) (htrack : track? [] us = some after)
    (ht : after = [] ∨ t = keyword "if") : after = [] ∧ s'.rest = t :: more := by
  rcases (closes_grouped depth).cases hrun hs htrack with hclosed | ⟨ts, hts, hne, hall⟩
  · exact hclosed
  · obtain rfl := ht.resolve_left hne
    cases ts with
    | nil => exact absurd (List.cons.inj hts).1 (by decide)
    | cons u ts =>
      obtain ⟨rfl, -⟩ := List.cons.inj hts
      exact absurd rfl (hall _ List.mem_cons_self)

end PatternGrammar

/-- What is read of the head of a case after its pattern. -/
def guardAndColon (depth : Nat) : Reader (Option Expr) := do
  let guard ← (do
    if ← takes (keyword "if") then return some (← (grammar depth).named) else return none :
    Reader (Option Expr))
  needs (mark ":")
  return guard

/-- **The head of a case** has one pattern, which is what stands in the brackets that it begins with. -/
theorem enclosesPattern_of_caseHead (hrun : (caseHead (depth + 1)).run s = some ((p, guard), s'))
    (hs : s.rest = mark "(" :: (us ++ mark ")" :: t :: more)) (hend : t ∈ PatternGrammar.ending)
    (htrack : track? [] us = some after) (ht : after = [] ∨ t = keyword "if") :
    after = [] ∧ EnclosesPattern us p ∧
      ∃ s₁, s₁.rest = t :: more ∧ (guardAndColon (depth + 1)).run s₁ = some (guard, s') := by
  let inside : ReadState := ⟨us ++ mark ")" :: t :: more, [], s.assignments⟩
  have hclosed {q : Pattern} {s₁ : ReadState}
      (hq : (PatternGrammar.grouped (PatternGrammar.pattern depth)).run inside = some (q, s₁)) :
      after = [] ∧ s₁.rest = t :: more :=
    PatternGrammar.rest_of_grouped hq rfl htrack ht
  have heq : (PatternGrammar.pattern (depth + 1)).run ⟨s.rest, [], s.assignments⟩ =
      (PatternGrammar.grouped (PatternGrammar.pattern depth)).run inside :=
    PatternGrammar.run_pattern hs fun q s₁ hq => (hclosed hq).2 ▸ .cons hend more
  have hpart : (PatternGrammar.part (PatternGrammar.pattern (depth + 1))).run ⟨s.rest, [], s.assignments⟩ =
      (PatternGrammar.grouped (PatternGrammar.pattern depth)).run inside := by
    have hstar : s.rest[0]? ≠ some (mark "*") := by
      rw [hs]
      exact fun heq => absurd (Option.some.inj heq) (by decide)
    exact Eq.trans (Reads.run_bind (s := ⟨s.rest, [], s.assignments⟩) (reads_not_takes hstar)) heq
  -- one part is read, and no comma after it
  obtain ⟨⟨⟨parts, comma⟩, s₂⟩, hlist, hrun⟩ := Option.bind_eq_some_iff.1
    (show ((commaList (fun t => t == mark ":" || t == keyword "if")
      (PatternGrammar.part (PatternGrammar.pattern (depth + 1))) (s.rest.length + 1)).run
        ⟨s.rest, [], s.assignments⟩).bind _ = some ((p, guard), s') from hrun)
  obtain ⟨q, rfl, rfl, hq⟩ := run_commaList hlist (by rw [hs]; rfl) fun q s₁ hq => by
    rw [(hclosed (hpart ▸ hq)).2]
    rintro heq
    obtain rfl := Option.some.inj heq
    exact absurd hend (by decide)
  rw [hpart] at hq
  obtain ⟨hafter, hrest⟩ := hclosed hq
  have hq' : EnclosesPattern us q := ⟨depth, _, s₂, hq, by rw [hrest]⟩
  obtain ⟨⟨r, s₃⟩, hr, hrun⟩ := Option.bind_eq_some_iff.1
    (show ((PatternGrammar.openSequence [q] false).run s₂).bind _ = some ((p, guard), s') from hrun)
  obtain ⟨rfl, rfl⟩ : q = r ∧ s₂ = s₃ := by
    rw [PatternGrammar.openSequence] at hr
    split at hr
    · exact absurd hr nofun
    · exact Prod.mk.inj (Option.some.inj hr)
  obtain ⟨⟨e, s₄⟩, he, hrun⟩ := Option.bind_eq_some_iff.1 hrun
  obtain ⟨⟨_, s₅⟩, hcolon, hrun⟩ := Option.bind_eq_some_iff.1 hrun
  obtain ⟨hpe, rfl⟩ := Prod.mk.inj (Option.some.inj hrun)
  obtain ⟨rfl, rfl⟩ := Prod.mk.inj hpe
  refine ⟨hafter, hq', ⟨s₂.rest, s₂.bound ++ s.bound, s₂.assignments⟩, hrest, ?_⟩
  exact Option.bind_eq_some_iff.2 ⟨(e, s₄), he, Option.bind_eq_some_iff.2 ⟨((), s₅), hcolon, rfl⟩⟩

/-! ### The guard -/

theorem guardAndColon_of_colon (hrun : (guardAndColon depth).run s = some (guard, s'))
    (hs : s.rest = mark ":" :: more) : guard = none ∧ s'.rest = more := by
  obtain ⟨ts, bound, assignments⟩ := s
  obtain rfl : ts = mark ":" :: more := hs
  obtain ⟨rfl, rfl⟩ := Prod.mk.inj (Option.some.inj hrun)
  exact ⟨rfl, rfl⟩

/-- **The guard of a case** is what stands in the brackets behind the word that it begins with. -/
theorem encloses_of_guardAndColon (hrun : (guardAndColon (depth + 1)).run s = some (guard, s'))
    (hs : s.rest = keyword "if" :: mark "(" :: (us ++ mark ")" :: mark ":" :: more))
    (htrack : track? [] us = some []) : ∃ e, guard = some e ∧ Encloses us e ∧ s'.rest = more := by
  obtain ⟨ts, bound, assignments⟩ := s
  obtain rfl : ts = keyword "if" :: mark "(" :: (us ++ mark ")" :: mark ":" :: more) := hs
  let before : ReadState := ⟨mark "(" :: (us ++ mark ")" :: mark ":" :: more), bound, assignments⟩
  let inside : ReadState := ⟨us ++ mark ")" :: mark ":" :: more, bound, assignments⟩
  have hclosed {x : Expr} {s₁ : ReadState} (hx : (grammar depth).parenthesised.run inside = some (x, s₁)) :
      s₁.rest = mark ":" :: more :=
    Grammar.rest_of_parenthesised hx rfl htrack
  -- no name comes first, so nothing is assigned
  have hnamed : (grammar (depth + 1)).named.run before = (grammar depth).parenthesised.run inside := by
    have hbracket : (grammar depth).next.expression.run before = (grammar depth).parenthesised.run inside :=
      Grammar.run_next_expression rfl fun x s₁ hx => hclosed hx ▸ .cons (by decide) more
    refine Eq.trans ?_ hbracket
    obtain ⟨o, ho, rfl | ⟨n, rest, -, -, hs⟩⟩ := run_seesNameAnd ":=" before
    · rw [Grammar.named, StateT.run_bind, ho]
      rfl
    · exact absurd (List.cons.inj hs).1 nofun
  obtain ⟨⟨_, s₁⟩, hguard, hrun⟩ := Option.bind_eq_some_iff.1 hrun
  obtain ⟨⟨e, s₂⟩, he, heq⟩ := Option.bind_eq_some_iff.1
    (show ((grammar (depth + 1)).named.run before).bind _ = some (_, s₁) from hguard)
  obtain ⟨rfl, rfl⟩ := Prod.mk.inj (Option.some.inj heq)
  rw [hnamed] at he
  obtain ⟨⟨_, s₃⟩, hcolon, hrun⟩ := Option.bind_eq_some_iff.1 hrun
  obtain ⟨rfl, rfl⟩ := Prod.mk.inj (Option.some.inj hrun)
  have hneeds := reads_needs (mark ":") more s₂.bound s₂.assignments
  rw [← hclosed he] at hneeds
  obtain ⟨-, rfl⟩ := Prod.mk.inj (Option.some.inj (hneeds.symm.trans hcolon))
  exact ⟨e, rfl, ⟨depth, _, s₂, he, by rw [hclosed he]⟩, rfl⟩

/-! ### The program -/

section Program

variable (depth fuel : Nat) (bound : List String) (assignments : Nat)

theorem run_compound_opening (fuel : Nat) (read : Bool → Reader (List Statement)) (ts : List Token) :
    (Statement.compound fuel (grammar (depth + 3)) read false).run
        ⟨keyword "match" :: .word "__subject__" :: mark ":" :: .lineEnd :: .indent :: ts, bound, assignments⟩ =
      ((Statement.arms fuel (grammar (depth + 3)) read false (ts.length + 1)).run ⟨ts, bound, assignments⟩).bind
        fun r => some ([.cases (.name "__subject__") r.1], r.2) := by
  rfl

set_option maxRecDepth 10000 in
theorem run_block_lines :
    (Statement.block (grammar (depth + 8)) (Statement.statements (depth + 8) (fuel + 7)) false).run
        ⟨.lineEnd :: lineTokens, bound, assignments⟩ =
      some (Case.reply, ⟨[.dedent, keyword "return", keyword "None", .lineEnd], "captured" :: bound, assignments⟩) := by
  rfl

theorem run_statements_last :
    (Statement.statements (depth + 8) (fuel + 7) false).run
        ⟨[keyword "return", keyword "None", .lineEnd], bound, assignments⟩ =
      some ([.result (some (.constant .none))], ⟨[], bound, assignments⟩) := by
  rfl

end Program

/-- **The program of a case** has one case, with what is read of its head. -/
theorem exists_caseHead_of_programOf? {program : Program} {ts : List Token}
    (h : programOf? (openingTokens ++ ts) = some program) :
    ∃ depth p guard s, (caseHead (depth + 1)).run ⟨mark "(" :: ts, [], 0⟩ = some ((p, guard), s) ∧
      (s.rest = .lineEnd :: lineTokens → program.statements =
        [.cases (.name Case.subjectName) [(p, guard, Case.reply)], .result (some (.constant .none))]) := by
  obtain ⟨⟨statements, s'⟩, hwhole, rfl⟩ := Option.map_eq_some_iff.1 h
  have hlength : (openingTokens ++ ts).length = ts.length + 7 := rfl
  rw [hlength] at hwhole
  obtain ⟨⟨first, s₁⟩, hfirst, hrun⟩ := Option.bind_eq_some_iff.1 (run_of_whole? hwhole)
  have hopening := run_compound_opening (ts.length + 5) [] 0 (ts.length + 8)
    (Statement.statements (ts.length + 8) (ts.length + 7)) (keyword "case" :: mark "(" :: ts)
  obtain ⟨⟨arms, s₂⟩, harms, heq⟩ := Option.bind_eq_some_iff.1 (hopening.symm.trans hfirst)
  obtain ⟨rfl, rfl⟩ := Prod.mk.inj (Option.some.inj heq)
  obtain ⟨⟨⟨p, guard⟩, s₃⟩, hhead, harms⟩ := Option.bind_eq_some_iff.1
    (show ((caseHead (ts.length + 8)).run ⟨mark "(" :: ts, [], 0⟩).bind _ = some (arms, s₂) from harms)
  refine ⟨ts.length + 7, p, guard, s₃, hhead, fun hrest => ?_⟩
  have hs₃ : s₃ = ⟨.lineEnd :: lineTokens, s₃.bound, s₃.assignments⟩ := by rw [← hrest]
  obtain ⟨⟨body, s₄⟩, hbody, harms⟩ := Option.bind_eq_some_iff.1 harms
  rw [hs₃] at hbody
  have hlines := run_block_lines ts.length ts.length s₃.bound s₃.assignments
  obtain ⟨rfl, rfl⟩ := Prod.mk.inj (Option.some.inj (hlines.symm.trans hbody))
  obtain ⟨rfl, rfl⟩ := Prod.mk.inj (Option.some.inj harms)
  have hlast := run_statements_last ts.length ts.length ("captured" :: s₃.bound) s₃.assignments
  have hall : ((Statement.statements (ts.length + 8) (ts.length + 7) false).run
      ⟨[keyword "return", keyword "None", .lineEnd], "captured" :: s₃.bound, s₃.assignments⟩).bind
        (fun r => some (.cases (.name Case.subjectName) [(p, guard, Case.reply)] :: r.1, r.2)) =
      some (statements, s') := hrun
  rw [hlast] at hall
  obtain ⟨rfl, rfl⟩ := Prod.mk.inj (Option.some.inj hall)
  rfl

/-! ### Texts of cases -/

/-- **The texts of a case keep to their brackets**, and what the pattern begins does not end in the guard. -/
structure Apart (source : String) (guard : Option String) : Prop where
  /-- The text of the pattern. -/
  pattern : Sealed (Text.unifyBreaks source.toList)
  /-- The text of the pattern, where a guard follows. -/
  ends : guard ≠ none → ¬ RunsOn (Text.unifyBreaks source.toList)
  /-- The text of the guard. -/
  guard : ∀ g ∈ guard, Sealed (Text.unifyBreaks g.toList)

/-- **A case that is accepted** has one pattern and the guard that it is given, each of them complete by
itself, if the texts keep to their brackets. -/
theorem isPattern_of_ofSource {settings : Settings} {source : String} {span : Span} {guard : Option String}
    {c : Case} (h : Case.ofSource settings source span guard = .ok c) (hapart : Apart source guard) :
    ∃ p e, c.Wraps p e ∧ IsPattern (Text.unifyBreaks source.toList) p ∧
      Option.Rel (fun g e => IsExpression (Text.unifyBreaks g.toList) e) guard e := by
  obtain ⟨-, -, hprogram, -⟩ := Case.ofSource_eq_ok_iff.1 h
  obtain ⟨ts, htokens, hprogram⟩ := Option.bind_eq_some_iff.1 hprogram
  obtain ⟨row, last, more, fuel, hrow, hmore, rfl⟩ := exists_row_of_programTokens? htokens
  rw [List.append_assoc] at hprogram
  obtain ⟨depth, p, e, s, hhead, hstatements⟩ := exists_caseHead_of_programOf? hprogram
  cases guard with
  | none =>
    rcases exists_scans_of_head hrow with hescapes | ⟨us, hscan, rfl, rfl⟩
    · exact absurd hescapes hapart.pattern.1
    obtain rfl := hmore rfl
    have hne : us ≠ [] := by
      rintro rfl
      exact hapart.pattern.2 hscan
    obtain ⟨-, hpattern, s₁, hs₁, hguard⟩ :=
      enclosesPattern_of_caseHead hhead (by rw [List.append_assoc]; rfl) (by decide) hscan.track (.inl rfl)
    obtain ⟨rfl, hrest⟩ := guardAndColon_of_colon hguard hs₁
    exact ⟨p, none, hstatements hrest, ⟨us, ⟨hne, hscan⟩, hpattern⟩, .none⟩
  | some g =>
    rcases exists_scans_of_guarded hrow with hescapes | hruns | ⟨us, after, vs, hscan, rfl, hvs⟩
    · exact absurd hescapes hapart.pattern.1
    · exact absurd hruns (hapart.ends nofun)
    obtain ⟨rfl, hpattern, s₁, hs₁, hguard⟩ :=
      enclosesPattern_of_caseHead hhead (by rw [List.append_assoc]; rfl) (by decide) hscan.track (.inr rfl)
    have hne : us ≠ [] := by
      rintro rfl
      exact hapart.pattern.2 hscan
    -- the brackets of the pattern are closed, so the guard is read behind it
    obtain ⟨fuel', hvs⟩ := hvs rfl
    rcases exists_scans_of_head hvs with hescapes | ⟨ws, hscan', rfl, rfl⟩
    · exact absurd hescapes (hapart.guard g rfl).1
    obtain rfl := hmore rfl
    have hne' : ws ≠ [] := by
      rintro rfl
      exact (hapart.guard g rfl).2 hscan'
    have hbracket : s₁.rest = keyword "if" :: mark "(" :: (ws ++ mark ")" :: mark ":" :: .lineEnd :: lineTokens) :=
      hs₁.trans (by simp)
    obtain ⟨e, rfl, he, hrest⟩ := encloses_of_guardAndColon hguard hbracket hscan'.track
    exact ⟨p, some e, hstatements hrest, ⟨us, ⟨hne, hscan⟩, hpattern⟩, .some ⟨ws, ⟨hne', hscan'⟩, he⟩⟩

/-! ### Accepted texts -/

/-- **What is accepted is complete by itself.** An expression is one exactly if its text keeps to its brackets; and
if the texts of a case do, it has one pattern and the guard that it is given, and nothing else. -/
theorem complete_of_accepted (settings : Settings) :
    (∀ source span x, Expression.ofSource settings source span = .ok x →
      (Sealed (Text.unifyBreaks (source.toList ++ ['\n'])) ↔
        IsExpression (Text.unifyBreaks (source.toList ++ ['\n'])) x.tree)) ∧
    ∀ source span guard c, Case.ofSource settings source span guard = .ok c → Apart source guard →
      ∃ p e, c.Wraps p e ∧ IsPattern (Text.unifyBreaks source.toList) p ∧
        Option.Rel (fun g e => IsExpression (Text.unifyBreaks g.toList) e) guard e := by
  refine ⟨fun source span x h => ⟨isExpression_of_ofSource h, ?_⟩, fun source span guard c => isPattern_of_ofSource⟩
  rintro ⟨ts, hcomplete, -⟩
  exact hcomplete.sealed

/-- Names, in texts and by themselves. -/
theorem complete_of_accepted_names :
    (∃ x, Expression.ofSource {} "a" default = .ok x ∧ IsExpression ['a', '\n'] x.tree) ∧
      ∃ c p e, Case.ofSource {} "x" default (some "y") = .ok c ∧ c.Wraps p (some e) ∧ IsPattern ['x'] p ∧
        IsExpression ['y'] e := by
  obtain ⟨tree, htree⟩ : ∃ tree, Expression.tree? "a" = some tree := Option.isSome_iff_exists.1 (by decide +kernel)
  obtain ⟨program, hprogram⟩ : ∃ program, Case.program? "x" (some "y") = some program :=
    Option.isSome_iff_exists.1 (by decide +kernel)
  have hx : Expression.ofSource {} "a" default = .ok ⟨"a", default, tree⟩ :=
    Expression.ofSource_eq_ok_iff.2 ⟨by decide +kernel, htree, rfl, rfl⟩
  have hc : Case.ofSource {} "x" default (some "y") = .ok ⟨"x", default, some "y", program⟩ := by
    refine Case.ofSource_eq_ok_iff.2 ⟨by decide +kernel, ?_, hprogram, rfl, rfl, rfl⟩
    rintro g hg
    obtain rfl := Option.some.inj hg
    decide +kernel
  have hexpression : Complete ['a', '\n'] [.word "a"] := ⟨nofun, .of_scan 2 rfl⟩
  have hpattern : Complete ['x'] [.word "x"] := ⟨nofun, .of_scan 1 rfl⟩
  have hguard : Complete ['y'] [.word "y"] := ⟨nofun, .of_scan 1 rfl⟩
  have hends : ¬ RunsOn ['x'] := not_runsOn [.word "x"] rfl (by decide) (by decide)
  refine ⟨⟨_, hx, ((complete_of_accepted {}).1 "a" default _ hx).1 ?_⟩, ?_⟩
  · exact hexpression.sealed
  · obtain ⟨p, e, hwraps, hp, he⟩ := (complete_of_accepted {}).2 "x" default (some "y") _ hc
      ⟨hpattern.sealed, fun _ => hends, fun g hg => Option.some.inj hg ▸ hguard.sealed⟩
    cases he with
    | some he => exact ⟨_, p, _, hc, hwraps, hp, he⟩

/-- Whether a program is one case with a guard, and one more statement. -/
def Program.isGuarded (program : Program) : Bool :=
  match program.statements with
  | [.cases _ [(_, some _, _)], _] => true
  | _ => false

/-- **A text is accepted that is no expression**: it closes the bracket before it and opens the one after it. A
pattern can bring a guard in this way. -/
theorem accepted_of_escapes :
    (∃ x, Expression.ofSource {} "a) + (b" default = .ok x ∧
      ∀ e, ¬ IsExpression (Text.unifyBreaks ("a) + (b".toList ++ ['\n'])) e) ∧
    ∃ c subject p e body last, Case.ofSource {} "x) if (y" default none = .ok c ∧
      c.program.statements = [.cases subject [(p, some e, body)], last] := by
  constructor
  · obtain ⟨tree, htree⟩ : ∃ tree, Expression.tree? "a) + (b" = some tree :=
      Option.isSome_iff_exists.1 (by decide +kernel)
    refine ⟨⟨"a) + (b", default, tree⟩, Expression.ofSource_eq_ok_iff.2 ⟨by decide +kernel, htree, rfl, rfl⟩, ?_⟩
    rintro e ⟨ts, hcomplete, -⟩
    have hescapes : Escapes (Text.unifyBreaks ("a) + (b".toList ++ ['\n'])) :=
      ⟨[.word "a"], ')', _, .of_scan 1 rfl, rfl⟩
    exact hescapes.not_complete ts hcomplete
  · have hguarded : (Case.program? "x) if (y" none).any Program.isGuarded = true := by decide +kernel
    obtain ⟨program, hprogram, hstatements⟩ := (Option.any_eq_true _ _).1 hguarded
    rw [Program.isGuarded] at hstatements
    split at hstatements
    · next heq =>
      exact ⟨⟨"x) if (y", default, none, program⟩, _, _, _, _, _,
        Case.ofSource_eq_ok_iff.2 ⟨by decide +kernel, fun g hg => absurd hg (Option.some_ne_none g).symm,
          hprogram, rfl, rfl, rfl⟩, heq⟩
    · exact absurd hstatements Bool.false_ne_true

end Payload

end TokenTemplate
