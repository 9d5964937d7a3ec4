import TokenTemplate.Proofs.Payload.Ladder
import TokenTemplate.Proofs.Payload.Matched
import TokenTemplate.Proofs.Payload.Name
import TokenTemplate.Proofs.Routine.Bare
import TokenTemplate.Proofs.Run.Trial

/-!
# Payloads between their brackets

An expression is read between a bracket that is written before its text and one that is written after it, and the
pattern and the guard of a case likewise. The text may well close the first bracket and open the last one
itself: what is accepted then is no complete expression or pattern. This file tells texts for which
this happens from all others, by what is read of them alone.

* A text escapes if it closes the bracket before it (`TokenTemplate.Payload.Escapes`), and is hollow if
  nothing is read of it (`TokenTemplate.Payload.Hollow`). If it does neither, it is
  `TokenTemplate.Payload.Sealed`.
* An expression whose text is sealed is accepted only if it is a complete one by itself
  (`TokenTemplate.Payload.isExpression_of_ofSource`), and no other text is complete.
-/

namespace TokenTemplate

namespace Payload

open Reader

/-! ### Texts by themselves -/

/-- **A text closes the bracket that stands before it.** -/
def Escapes (cs : List Char) : Prop :=
  EscapesFrom [] cs

/-- A text of which no token is read: it is made of blanks, line breaks and comments. -/
def Hollow (cs : List Char) : Prop :=
  Scans [] cs [] [] []

/-- **A text keeps to its brackets**: it does not close the one before it, and something is read of it. -/
def Sealed (cs : List Char) : Prop :=
  ¬ Escapes cs ∧ ¬ Hollow cs

/-- **A text does not end what it begins**: a comment or a string literal runs over its end. -/
def RunsOn (cs : List Char) : Prop :=
  ∃ ts after rest, Scans [] cs ts after rest ∧ (OpensComment rest ∨ OpensLiteral rest)

/-- **A text is complete by itself**: some tokens are read of it, up to its end, and every bracket is closed. -/
def Complete (cs : List Char) (ts : List Token) : Prop :=
  ts ≠ [] ∧ Scans [] cs ts [] []

/-- Some tokens, and no others, are what stands in round brackets, and make up an expression. -/
def Encloses (ts : List Token) (e : Expr) : Prop :=
  ∃ depth s s', (grammar depth).parenthesised.run s = some (e, s') ∧ s.rest = ts ++ mark ")" :: s'.rest

/-- Some tokens, and no others, are what stands in round brackets, and make up a pattern. -/
def EnclosesPattern (ts : List Token) (p : Pattern) : Prop :=
  ∃ depth s s', (PatternGrammar.grouped (PatternGrammar.pattern depth)).run s = some (p, s') ∧
    s.rest = ts ++ mark ")" :: s'.rest

/-- **A text by itself is one complete expression**: it is complete, and its tokens are what stands in round
brackets. -/
def IsExpression (cs : List Char) (e : Expr) : Prop :=
  ∃ ts, Complete cs ts ∧ Encloses ts e

/-- **A text by itself is one complete pattern.** -/
def IsPattern (cs : List Char) (p : Pattern) : Prop :=
  ∃ ts, Complete cs ts ∧ EnclosesPattern ts p

section Stuck

variable {closers middle after : List String} {cs rest last : List Char} {ts us : List Token}

/-- **Reading a text is determined by it**: where nothing more can be read, all of it has been read. -/
theorem Scans.extends (h : Scans closers cs ts after rest) (hstuck : piece? after rest = none)
    (h' : Scans closers cs us middle last) : ∃ vs, ts = us ++ vs ∧ Scans middle last vs after rest := by
  induction h' generalizing ts with
  | refl => exact ⟨ts, rfl, h⟩
  | step hpiece _ ih =>
    cases h with
    | refl => exact absurd (hstuck.symm.trans hpiece) nofun
    | step hpiece' hrest =>
      obtain ⟨rfl, rfl, rfl⟩ := by simpa using hpiece.symm.trans hpiece'
      obtain ⟨vs, rfl, hvs⟩ := ih hrest
      exact ⟨vs, (List.append_assoc ..).symm, hvs⟩

/-- Nothing can be read where a bracket is closed that has not been opened. -/
theorem piece?_of_closes {c : Char} (hc : closes c = true) (cs : List Char) : piece? [] (c :: cs) = none := by
  have hbrackets : c = ')' ∨ c = ']' ∨ c = '\x7d' := by
    simpa [closes, or_assoc] using hc
  rcases hbrackets with rfl | rfl | rfl <;> rfl

/-- **A text that closes the bracket before it is not complete.** -/
theorem Escapes.not_complete (h : Escapes cs) (ts : List Token) : ¬ Complete cs ts := by
  rintro ⟨-, hcomplete⟩
  obtain ⟨us, c, rest, hscan, hc⟩ := h
  obtain ⟨vs, -, hvs⟩ := hcomplete.extends rfl hscan
  have hstuck := piece?_of_closes hc rest
  cases hvs with
  | step hpiece _ => exact absurd (hstuck.symm.trans hpiece) nofun

/-- **A text of which no token is read is not complete.** -/
theorem Hollow.not_complete (h : Hollow cs) (ts : List Token) : ¬ Complete cs ts := by
  rintro ⟨hne, hcomplete⟩
  obtain ⟨vs, hvs, -⟩ := h.extends rfl hcomplete
  exact hne (List.append_eq_nil_iff.1 hvs.symm).1

/-- **A text that is complete keeps to its brackets.** -/
theorem Complete.sealed (h : Complete cs ts) : Sealed cs :=
  ⟨fun hescapes => hescapes.not_complete ts h, fun hhollow => hhollow.not_complete ts h⟩

/-- A text of one piece without a quote and a comment does not run on. -/
theorem not_runsOn (ts : List Token) (hpiece : piece? [] cs = some (ts, [], []))
    (hcomment : '#' ∉ cs) (hquote : '"' ∉ cs ∧ '\'' ∉ cs) : ¬ RunsOn cs := by
  rintro ⟨us, after, rest, hscan, hopen⟩
  have hrest : ∀ c ∈ rest, c ∈ cs := by
    cases hscan with
    | refl => exact fun c hc => hc
    | step hpiece' hrest =>
      obtain ⟨rfl, rfl, rfl⟩ := by simpa using hpiece.symm.trans hpiece'
      cases hrest with
      | refl => exact fun c hc => absurd hc List.not_mem_nil
      | step hnone _ => exact absurd hnone nofun
  rcases hopen with ⟨more, rfl, -⟩ | ⟨w, q, more, rfl, -, rfl | rfl, -⟩
  · exact hcomment (hrest _ (by simp))
  · exact hquote.1 (hrest _ (by simp))
  · exact hquote.2 (hrest _ (by simp))

end Stuck

/-! ### The bracket that is closed -/

variable {α : Type} {allowed : Token → Prop} {r : Reader α} {s s' : ReadState} {x : α}
  {ts rest : List Token} {after : List String}

/-- **Which bracket a reader closes** that takes tokens up to the bracket that closes them: the one behind some
tokens if these close all that they open, and else one further behind. -/
theorem Reader.Closes.cases (h : r.Closes allowed ")") (hrun : r.run s = some (x, s'))
    (hs : s.rest = ts ++ mark ")" :: rest) (htrack : track? [] ts = some after) :
    after = [] ∧ s'.rest = rest ∨
      ∃ more, rest = more ++ mark ")" :: s'.rest ∧ after ≠ [] ∧ ∀ t ∈ more, allowed t := by
  obtain ⟨us, hus, hallowed, htrack'⟩ := h s x s' hrun
  have hclosed (more : List Token) : track? [] (mark ")" :: more) = none := rfl
  rcases List.append_eq_append_iff.1 (hus.symm.trans hs) with ⟨vs, rfl, hvs⟩ | ⟨vs, rfl, hvs⟩
  · cases vs with
    | nil =>
      obtain ⟨-, rfl⟩ := List.cons.inj hvs
      rw [List.append_nil, htrack'] at htrack
      exact .inl ⟨(Option.some.inj htrack).symm, rfl⟩
    | cons v vs =>
      obtain ⟨rfl, -⟩ := List.cons.inj hvs
      rw [track?_append, htrack', Option.bind_some, hclosed] at htrack
      exact absurd htrack nofun
  · cases vs with
    | nil =>
      obtain ⟨-, rfl⟩ := List.cons.inj hvs
      rw [List.append_nil, htrack] at htrack'
      exact .inl ⟨Option.some.inj htrack', rfl⟩
    | cons v vs =>
      obtain ⟨rfl, rfl⟩ := List.cons.inj hvs
      refine .inr ⟨vs, rfl, ?_, fun t ht => hallowed t (by simp [ht])⟩
      rintro rfl
      rw [track?_append, htrack, Option.bind_some, hclosed] at htrack'
      exact absurd htrack' nofun

/-- What stands in round brackets is read up to the bracket that closes them. -/
theorem Grammar.rest_of_parenthesised {depth : Nat} {e : Expr}
    (hrun : (grammar depth).parenthesised.run s = some (e, s')) (hs : s.rest = ts ++ mark ")" :: rest)
    (htrack : track? [] ts = some []) : s'.rest = rest := by
  rcases (closes_parenthesised (matched_grammar depth)).cases hrun hs htrack with ⟨-, hrest⟩ | ⟨_, -, hne, -⟩
  · exact hrest
  · exact absurd rfl hne

/-- What a row is read as is read of it, up to its end. -/
theorem Reader.run_of_whole? (h : r.whole? ts = some (x, s')) : r.run ⟨ts, [], 0⟩ = some (x, s') := by
  rw [Reader.whole?] at h
  split at h
  · next hrun =>
    obtain ⟨-, heq⟩ := Option.ite_none_right_eq_some.1 h
    obtain ⟨rfl, rfl⟩ := Prod.mk.inj (Option.some.inj heq)
    exact hrun
  · exact absurd h (Option.some_ne_none _).symm

/-! ### Reading a row -/

theorem unifyBreaks_append {c : Char} (hc : c ≠ '\n') (cs ds : List Char) :
    Text.unifyBreaks (cs ++ c :: ds) = Text.unifyBreaks cs ++ Text.unifyBreaks (c :: ds) := by
  fun_induction Text.unifyBreaks cs with
  | case1 => rfl
  | case2 cs ih =>
    rw [List.cons_append, List.cons_append, Text.unifyBreaks, ih]
    rfl
  | case3 d cs hline ih =>
    rw [List.cons_append, Text.unifyBreaks, ih]
    · rfl
    · rintro ds' rfl heq
      cases cs with
      | nil => exact hc (List.cons.inj heq).1
      | cons e cs => exact hline cs rfl (by rw [(List.cons.inj heq).1])

theorem unifyBreaks_append_left {cs : List Char} (h : '\r' ∉ cs) (ds : List Char) :
    Text.unifyBreaks (cs ++ ds) = cs ++ Text.unifyBreaks ds := by
  induction cs with
  | nil => rfl
  | cons c cs ih =>
    rw [List.mem_cons, not_or] at h
    rw [List.cons_append, Text.unifyBreaks, ih h.2, if_neg (Ne.symm h.1)]
    · rfl
    · rintro ds' rfl
      exact absurd rfl h.1

/-- A piece that is known is read first. -/
theorem rowFrom?_of_piece (ts : List Token) {fuel : Nat} {closers : List String} {c : Char} {cs left : List Char}
    {us : List Token} {last : Option (List Char)} (h : rowFrom? fuel closers (c :: cs) = some (us, last))
    (hopen : closers = [] → c ≠ '\n') (hpiece : piece? closers (c :: cs) = some (ts, after, left)) :
    ∃ fuel' vs, us = ts ++ vs ∧ rowFrom? fuel' after left = some (vs, last) := by
  cases fuel with
  | zero => exact absurd h nofun
  | succ fuel =>
    obtain ⟨ts', after', left', vs, hpiece', rfl, hvs⟩ := rowFrom?_cons hopen h
    obtain ⟨rfl, rfl, rfl⟩ : ts = ts' ∧ after = after' ∧ left = left' := by
      simpa using hpiece.symm.trans hpiece'
    exact ⟨fuel, vs, rfl, hvs⟩

/-- A row that is at its end inside brackets is refused. -/
theorem rowFrom?_nil {fuel : Nat} {closers : List String} {us : List Token} {last : Option (List Char)}
    (h : rowFrom? fuel closers [] = some (us, last)) : closers = [] ∧ us = [] ∧ last = none := by
  have hnil : rowFrom? fuel closers [] = if closers.isEmpty then some ([], none) else none := by
    cases fuel <;> rfl
  rw [hnil] at h
  obtain ⟨hempty, heq⟩ := Option.ite_none_right_eq_some.1 h
  obtain ⟨rfl, rfl⟩ := Prod.mk.inj (Option.some.inj heq)
  exact ⟨List.isEmpty_iff.1 hempty, rfl, rfl⟩

theorem eq_nil_of_tail {closers : List String} {closer : String} (h : (closers ++ [closer]).tail = []) :
    closers = [] := by
  cases closers with
  | nil => rfl
  | cons c closers => exact absurd h (by simp)

theorem not_endsLiteral_bracket {q : Char} (hq : q = '"' ∨ q = '\'') : ¬ EndsLiteral q [')'] := by
  rintro ⟨n, hn, hends⟩
  obtain rfl | rfl : n = 0 ∨ n = 1 := by omega
  all_goals rcases hq with rfl | rfl <;> revert hends <;> decide

/-! ### Expressions -/

/-- **The tokens of a text in brackets**, on lines of its own. -/
theorem exists_scans_of_tokens? {text : List Char}
    (h : tokens? ('(' :: '\n' :: text ++ ['\n', ')']) = some ts) :
    Escapes (Text.unifyBreaks (text ++ ['\n'])) ∨
      ∃ us, ts = mark "(" :: us ++ [mark ")"] ∧ Scans [] (Text.unifyBreaks (text ++ ['\n'])) us [] [] := by
  have htext : Text.unifyBreaks ('(' :: '\n' :: text ++ ['\n', ')']) =
      '(' :: '\n' :: Text.unifyBreaks (text ++ ['\n']) ++ [')'] := by
    have hsplit := unifyBreaks_append (c := ')') (by decide) ('(' :: '\n' :: (text ++ ['\n'])) []
    rw [List.cons_append, List.cons_append, List.append_assoc] at hsplit
    exact hsplit
  rw [tokens?, htext] at h
  split at h
  · next row hrow =>
    obtain rfl := Option.some.inj h
    obtain ⟨_, vs, rfl, hvs⟩ := rowFrom?_of_piece [mark "("] hrow (fun _ => by decide) rfl
    obtain ⟨_, us, rfl, hus⟩ := rowFrom?_of_piece [] hvs (fun hnil => absurd hnil (List.cons_ne_nil _ _)) rfl
    cases (rowFrom?_append hus : Split [] _ _ _ _) with
    | escapes h => exact .inl h
    | comment hscan hopen hus hvs =>
      obtain ⟨hnil, -⟩ := rowFrom?_nil hvs
      exact absurd hnil (by simp)
    | literal hscan hopen hq hends => exact absurd hends (not_endsLiteral_bracket hq)
    | ends hscan hus hvs =>
      obtain ⟨hafter, rfl, -⟩ := rowFrom?_nil hvs
      obtain rfl := eq_nil_of_tail hafter
      exact .inr ⟨_, by rw [hus]; rfl, hscan⟩
  · exact absurd h (Option.some_ne_none _).symm

/-- **What stands in brackets is the expression.** -/
theorem encloses_of_expressionOf? {e : Expr} (h : expressionOf? (mark "(" :: ts ++ [mark ")"]) = some e)
    (htrack : track? [] ts = some []) : Encloses ts e := by
  obtain ⟨⟨e', s'⟩, hwhole, rfl⟩ := Option.map_eq_some_iff.1 h
  set row := mark "(" :: ts ++ [mark ")"] with hrow
  have hrun : (expressions (grammar row.length).next).run ⟨row, [], 0⟩ = some (e', s') := run_of_whole? hwhole
  have hclosed {x : Expr} {s₁ : ReadState}
      (hx : (grammar row.length).parenthesised.run ⟨ts ++ [mark ")"], [], 0⟩ = some (x, s₁)) :
      s₁.rest = [] :=
    Grammar.rest_of_parenthesised hx rfl htrack
  have heq : (grammar row.length).next.expression.run ⟨row, [], 0⟩ =
      (grammar row.length).parenthesised.run ⟨ts ++ [mark ")"], [], 0⟩ :=
    Grammar.run_next_expression rfl fun x s₁ hx => hclosed hx ▸ .nil
  -- one expression is read, and no comma after it
  obtain ⟨⟨⟨es, comma⟩, s₁⟩, hlist, hlast⟩ := Option.bind_eq_some_iff.1 hrun
  obtain ⟨x, rfl, rfl, hx⟩ := run_commaList hlist rfl fun x s₁ hx => by
    rw [hclosed (heq ▸ hx)]
    exact nofun
  rw [heq] at hx
  obtain ⟨rfl, rfl⟩ := Prod.mk.inj (Option.some.inj hlast)
  exact ⟨row.length, _, _, hx, by rw [hclosed hx]⟩

/-- **An expression that is accepted** is one by itself if its text keeps to its brackets. -/
theorem isExpression_of_ofSource {settings : Settings} {source : String} {span : Span} {x : Expression}
    (h : Expression.ofSource settings source span = .ok x)
    (hsealed : Sealed (Text.unifyBreaks (source.toList ++ ['\n']))) :
    IsExpression (Text.unifyBreaks (source.toList ++ ['\n'])) x.tree := by
  obtain ⟨-, htree, -⟩ := Expression.ofSource_eq_ok_iff.1 h
  obtain ⟨ts, htokens, hexpression⟩ := Option.bind_eq_some_iff.1 htree
  rcases exists_scans_of_tokens? htokens with hescapes | ⟨us, rfl, hscan⟩
  · exact absurd hescapes hsealed.1
  · refine ⟨us, ⟨?_, hscan⟩, encloses_of_expressionOf? hexpression hscan.track⟩
    rintro rfl
    exact hsealed.2 hscan

end Payload

end TokenTemplate
