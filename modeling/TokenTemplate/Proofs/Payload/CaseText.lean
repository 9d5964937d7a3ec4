import TokenTemplate.Proofs.Payload.Wrapper

/-!
# The text of a case

A case is read as a small program, `TokenTemplate.Case.text`, in which its pattern and its guard stand between brackets
and lines that are written around them. Here the tokens of that program are taken apart: those of the lines are
always the same, and those of the pattern and the guard are what is read of their texts alone
(`TokenTemplate.Payload.exists_complete_of_programTokens?`).

This needs that what is written behind the pattern and the guard closes no bracket that they leave open
and ends no comment or string literal. It is true of the lines. But a guard is written behind the pattern as
well, and can end a comment or a literal that begins there.
-/

namespace TokenTemplate

namespace Payload

open Reader

variable {closers outer after : List String} {cs rest : List Char} {ts us : List Token}
  {last : Option (List Char)} {fuel : Nat}

/-! ### Reading inside further brackets -/

theorem piece?_append_outer (h : piece? closers cs = some (ts, after, rest)) (outer : List String) :
    piece? (closers ++ outer) cs = some (ts, after ++ outer, rest) := by
  cases cs with
  | nil => exact absurd h nofun
  | cons c cs =>
    have hnothing {left : List Char} (h : some ([], closers, left) = some (ts, after, rest)) :
        some ([], closers ++ outer, left) = some (ts, after ++ outer, rest) := by
      obtain ⟨rfl, rfl, rfl⟩ : [] = ts ∧ closers = after ∧ left = rest := by simpa using h
      rfl
    rw [piece?] at h ⊢
    split_ifs at h ⊢
    · exact hnothing h
    · exact hnothing h
    · exact hnothing h
    · obtain ⟨⟨t, left⟩, htoken, h⟩ := Option.bind_eq_some_iff.1 h
      obtain ⟨middle, hshift, heq⟩ := Option.map_eq_some_iff.1 h
      obtain ⟨rfl, rfl, rfl⟩ : [t] = ts ∧ middle = after ∧ left = rest := by simpa using heq
      rw [htoken, Option.bind_some, shift?_append hshift]
      rfl

/-- **What is read of a text by itself is read inside further brackets as well.** -/
theorem Scans.exists_rowFrom? (h : Scans closers cs ts after rest) (houter : outer ≠ [])
    (hrow : rowFrom? fuel (closers ++ outer) cs = some (us, last)) :
    ∃ fuel' vs, us = ts ++ vs ∧ rowFrom? fuel' (after ++ outer) rest = some (vs, last) := by
  induction h generalizing fuel us with
  | refl => exact ⟨fuel, us, rfl, hrow⟩
  | @step closers _ _ cs _ _ _ _ hpiece _ ih =>
    cases cs with
    | nil => exact absurd hpiece nofun
    | cons c cs =>
      have hopen (hnil : closers ++ outer = []) : c ≠ '\n' := absurd (List.append_eq_nil_iff.1 hnil).2 houter
      obtain ⟨_, vs, rfl, hvs⟩ := rowFrom?_of_piece _ hrow hopen (piece?_append_outer hpiece outer)
      obtain ⟨fuel', ws, rfl, hws⟩ := ih hvs
      exact ⟨fuel', ws, (List.append_assoc ..).symm, hws⟩

/-- A text that closes no other bracket leaves open those around it, so the row does not end with it. -/
theorem Scans.rowFrom?_eq_none (h : Scans [] cs ts [] []) (houter : outer ≠ []) :
    rowFrom? fuel outer cs = none := by
  refine Option.eq_none_iff_forall_ne_some.2 fun ⟨us, last⟩ hrow => ?_
  obtain ⟨_, vs, -, hvs⟩ := h.exists_rowFrom? houter hrow
  exact houter (rowFrom?_nil hvs).1

/-! ### The lines of a case -/

/-- What is written before the pattern of a case. -/
def opening : List Char :=
  ("    match " ++ Case.subjectName ++ ":\n" ++ "        case (").toList

/-- The lines that are written behind a case. -/
def lines : List Char :=
  ("            " ++ Case.resultName ++ " = dict(locals())\n" ++
    "            del " ++ Case.resultName ++ "['" ++ Case.subjectName ++ "']\n" ++
    "            return " ++ Case.resultName ++ "\n" ++ "    return None\n").toList

/-- The tokens that are written before the pattern of a case. -/
def openingTokens : List Token :=
  [keyword "match", .word "__subject__", mark ":", .lineEnd, .indent, keyword "case", mark "("]

/-- The tokens of the lines that are written behind a case. -/
def lineTokens : List Token :=
  [.indent, .word "captured", mark "=", .word "dict", mark "(", .word "locals", mark "(", mark ")", mark ")",
    .lineEnd, keyword "del", .word "captured", mark "[", .text "__subject__", mark "]", .lineEnd,
    keyword "return", .word "captured", .lineEnd, .dedent, .dedent, keyword "return", keyword "None", .lineEnd]

/-- The text of a case behind its pattern and the bracket that closes it. -/
def closingText (guard : Option String) : List Char :=
  match guard with
  | none => ':' :: '\n' :: lines
  | some g => " if (".toList ++ Text.unifyBreaks g.toList ++ ')' :: ':' :: '\n' :: lines

theorem toList_text (source : String) (guard : Option String) :
    (Case.text source guard).toList = opening ++ source.toList ++ ')' :: (match guard with
      | none => ':' :: '\n' :: lines
      | some g => " if (".toList ++ g.toList ++ ')' :: ':' :: '\n' :: lines) := by
  have hbracket : ")".toList = [')'] := rfl
  have hcolon : ":\n".toList = [':', '\n'] := rfl
  unfold Case.text opening lines
  cases guard with
  | none =>
    simp only [String.toList_append, List.append_assoc]
    rw [hbracket, hcolon, String.toList_empty]
    rfl
  | some g =>
    simp only [String.toList_append, List.append_assoc]
    rw [hbracket, hcolon]
    rfl

theorem unifyBreaks_text (source : String) (guard : Option String) :
    Text.unifyBreaks (Case.text source guard).toList =
      opening ++ Text.unifyBreaks source.toList ++ ')' :: closingText guard := by
  have hopening : '\r' ∉ opening := by decide +kernel
  have hlines : '\r' ∉ ')' :: ':' :: '\n' :: lines := by decide +kernel
  have hif : '\r' ∉ ')' :: " if (".toList := by decide +kernel
  rw [toList_text, List.append_assoc, unifyBreaks_append_left hopening, unifyBreaks_append (by decide),
    ← List.append_assoc]
  cases guard with
  | none => rw [unifyBreaks_eq_self hlines, closingText]
  | some g =>
    have hguard := unifyBreaks_append_left hif (g.toList ++ ')' :: ':' :: '\n' :: lines)
    rw [unifyBreaks_append (by decide), unifyBreaks_eq_self hlines] at hguard
    simp only [closingText, List.append_assoc, List.cons_append] at hguard ⊢
    rw [hguard]

set_option maxRecDepth 4000 in
/-- What is written behind a case does not close a bracket that is open before it. -/
theorem scans_lines : ∃ ts, Scans [] ('\n' :: lines) ts [] [] :=
  ⟨_, .of_scan 150 (by rfl)⟩

set_option maxRecDepth 4000 in
theorem programFrom?_lines {fuel : Nat} {ts : List Token}
    (h : programFrom? 2 fuel [⟨8, 8⟩, ⟨4, 4⟩, ⟨0, 0⟩] lines = some ts) : ts = lineTokens := by
  have hfew : ∀ k < 5, programFrom? 2 k [⟨8, 8⟩, ⟨4, 4⟩, ⟨0, 0⟩] lines = none := by decide +kernel
  match fuel with
  | 0 | 1 | 2 | 3 | 4 => exact absurd (h.symm.trans (hfew _ (by decide))) nofun
  | k + 5 =>
    have hlines : programFrom? 2 (k + 5) [⟨8, 8⟩, ⟨4, 4⟩, ⟨0, 0⟩] lines = some lineTokens := by rfl
    exact Option.some.inj (h.symm.trans hlines)

/-- **A line of a program** is read as a row, and then the lines behind it. -/
theorem programFrom?_line {kept fuel : Nat} {around : List Indentation} {n : Indentation} {c : Char}
    {cs l : List Char} {us : List Token} (hindent : indentation ⟨0, 0⟩ cs = (n, c :: l))
    (hline : c ≠ '\n') (hcomment : c ≠ '#') (h : programFrom? kept fuel around cs = some us) :
    ∃ change around' row last more fuel', changeIndentation? n around = some (change, around') ∧
      rowFrom? (c :: l).length [] (c :: l) = some (row, last) ∧
      programFrom? kept fuel' around' (last.getD []) = some more ∧ us = change ++ row ++ .lineEnd :: more := by
  cases fuel with
  | zero => exact absurd h nofun
  | succ fuel =>
    rw [programFrom?, hindent] at h
    simp only [if_neg hline, if_neg hcomment] at h
    obtain ⟨⟨change, around'⟩, hchange, h⟩ := Option.bind_eq_some_iff.1 h
    obtain ⟨⟨row, last⟩, hrow, h⟩ := Option.bind_eq_some_iff.1 h
    obtain ⟨more, hmore, h⟩ := Option.bind_eq_some_iff.1 h
    exact ⟨change, around', row, last, more, fuel, hchange, hrow, hmore, (Option.some.inj h).symm⟩

/-- **The tokens of a case** are those before its pattern, a row that begins with the pattern, and if this row
is ended by the first line break behind it, those of the lines behind it. -/
theorem exists_row_of_programTokens? {source : String} {guard : Option String}
    (h : programTokens? 4 (Case.text source guard).toList = some ts) :
    ∃ row last more fuel,
      rowFrom? fuel [")"] (Text.unifyBreaks source.toList ++ ')' :: closingText guard) = some (row, last) ∧
      (last = some lines → more = lineTokens) ∧ ts = openingTokens ++ row ++ .lineEnd :: more := by
  rw [programTokens?, unifyBreaks_text, List.append_assoc] at h
  generalize Text.unifyBreaks source.toList ++ ')' :: closingText guard = cs at h ⊢
  -- the line of the subject
  obtain ⟨change, around, row, last, more, fuel, hchange, hrow, hmore, rfl⟩ :=
    programFrom?_line (n := ⟨4, 4⟩) (c := 'm') (l := "atch __subject__:\n        case (".toList ++ cs) rfl
      (by decide) (by decide) h
  obtain ⟨rfl, rfl⟩ : [] = change ∧ [⟨4, 4⟩, ⟨0, 0⟩] = around := by
    simpa using (show some ([], [⟨4, 4⟩, ⟨0, 0⟩]) = some (change, around) from hchange)
  have hsubject (k : Nat) (ds : List Char) :
      rowFrom? (k + 30) [] ("match __subject__:\n".toList ++ ds) =
        some ([keyword "match", .word "__subject__", mark ":"], some ds) := rfl
  have hlength : ('m' :: ("atch __subject__:\n        case (".toList ++ cs)).length = cs.length + 3 + 30 := by
    rw [List.length_cons, List.length_append, Nat.add_right_comm]
    exact Nat.add_comm 33 _
  rw [hlength] at hrow
  obtain ⟨rfl, rfl⟩ := Prod.mk.inj (Option.some.inj
    ((hsubject (cs.length + 3) ("        case (".toList ++ cs)).symm.trans hrow))
  -- the line of the case
  obtain ⟨change, around, row, last, more', fuel', hchange', hrow', hmore', rfl⟩ :=
    programFrom?_line (n := ⟨8, 8⟩) (c := 'c') (l := "ase (".toList ++ cs) rfl (by decide) (by decide) hmore
  obtain ⟨rfl, rfl⟩ : [.indent] = change ∧ [⟨8, 8⟩, ⟨4, 4⟩, ⟨0, 0⟩] = around := by
    simpa using (show some ([.indent], [⟨8, 8⟩, ⟨4, 4⟩, ⟨0, 0⟩]) = some (change, around) from hchange')
  obtain ⟨_, us, rfl, hus⟩ := rowFrom?_of_piece [keyword "case"] hrow' (fun _ => by decide) rfl
  obtain ⟨_, vs, rfl, hvs⟩ := rowFrom?_of_piece [] hus (fun _ => by decide) rfl
  obtain ⟨k, ws, rfl, hws⟩ := rowFrom?_of_piece [mark "("] hvs (fun _ => by decide) rfl
  refine ⟨ws, last, more', k, hws, ?_, rfl⟩
  rintro rfl
  exact programFrom?_lines hmore'

/-! ### The texts of a case -/

theorem rowFrom?_lines (houter : outer ≠ []) : rowFrom? fuel outer ('\n' :: lines) = none := by
  obtain ⟨ts, hlines⟩ := scans_lines
  exact hlines.rowFrom?_eq_none houter

theorem rowFrom?_colon (houter : outer ≠ []) : rowFrom? fuel outer (':' :: '\n' :: lines) = none := by
  obtain ⟨ts, hlines⟩ := scans_lines
  have hcolon : piece? [] (':' :: '\n' :: lines) = some ([mark ":"], [], '\n' :: lines) := rfl
  exact (Scans.step hcolon hlines).rowFrom?_eq_none houter

/-- What is written behind a case ends no string literal. -/
theorem not_endsLiteral_lines {q : Char} (hq : q = '"' ∨ q = '\'') :
    ¬ EndsLiteral q (')' :: ':' :: '\n' :: lines) := by
  rintro ⟨n, hn, hends⟩
  obtain rfl | rfl : n = 0 ∨ n = 1 := by omega
  all_goals rcases hq with rfl | rfl <;> revert hends <;> decide +kernel

/-- **A text before the bracket and the colon that end the head of a case** is read by itself, up to its end. -/
theorem exists_scans_of_head {row : List Token}
    (h : rowFrom? fuel [")"] (cs ++ ')' :: ':' :: '\n' :: lines) = some (row, last)) :
    Escapes cs ∨ ∃ us, Scans [] cs us [] [] ∧ row = us ++ [mark ")", mark ":"] ∧ last = some lines := by
  cases (rowFrom?_append h : Split [] _ _ _ _) with
  | escapes h => exact .inl h
  | comment _ _ _ hvs => exact absurd (hvs.symm.trans (rowFrom?_lines (by simp))) nofun
  | literal _ _ hq hends => exact absurd hends (not_endsLiteral_lines hq)
  | @ends us vs after fuel hscan hus hvs =>
    cases after with
    | cons c after => exact absurd (hvs.symm.trans (rowFrom?_colon (by simp))) nofun
    | nil =>
      have hcolon : piece? [] (':' :: '\n' :: lines) = some ([mark ":"], [], '\n' :: lines) := rfl
      obtain ⟨fuel, ws, rfl, hws⟩ := rowFrom?_of_piece _ hvs (fun _ => by decide) hcolon
      cases fuel with
      | zero => exact absurd hws nofun
      | succ fuel =>
        obtain ⟨rfl, rfl⟩ := Prod.mk.inj (Option.some.inj hws)
        exact .inr ⟨us, hscan, hus, rfl⟩

/-- **A pattern before a guard** is read by itself, up to its end. If it closes all brackets, the guard is read
behind it. -/
theorem exists_scans_of_guarded {row : List Token} {g : String}
    (h : rowFrom? fuel [")"] (cs ++ ')' :: closingText (some g)) = some (row, last)) :
    Escapes cs ∨ RunsOn cs ∨ ∃ us after vs, Scans [] cs us after [] ∧
      row = us ++ mark ")" :: keyword "if" :: mark "(" :: vs ∧
      (after = [] → ∃ fuel', rowFrom? fuel' [")"] (Text.unifyBreaks g.toList ++ ')' :: ':' :: '\n' :: lines) =
        some (vs, last)) := by
  cases (rowFrom?_append h : Split [] _ _ _ _) with
  | escapes h => exact .inl h
  | comment hscan hopen => exact .inr (.inl ⟨_, _, _, hscan, .inl hopen⟩)
  | literal hscan hopen => exact .inr (.inl ⟨_, _, _, hscan, .inr hopen⟩)
  | @ends us vs after fuel hscan hus hvs =>
    rw [closingText, List.append_assoc] at hvs
    have hif (k : List String) (ds : List Char) :
        piece? k ("if (".toList ++ ds) = some ([keyword "if"], k, " (".toList ++ ds) := rfl
    have hbracket (k : List String) (ds : List Char) :
        piece? k ('(' :: ds) = some ([mark "("], ")" :: k, ds) := rfl
    obtain ⟨_, ws, rfl, hws⟩ := rowFrom?_of_piece [] hvs (fun _ => by decide) rfl
    obtain ⟨_, xs, rfl, hxs⟩ := rowFrom?_of_piece _ hws (fun _ => by decide) (hif _ _)
    obtain ⟨_, ys, rfl, hys⟩ := rowFrom?_of_piece [] hxs (fun _ => by decide) rfl
    obtain ⟨fuel', zs, rfl, hzs⟩ := rowFrom?_of_piece _ hys (fun _ => by decide) (hbracket _ _)
    refine .inr (.inr ⟨us, after, zs, hscan, hus, ?_⟩)
    rintro rfl
    exact ⟨fuel', hzs⟩

end Payload

end TokenTemplate
