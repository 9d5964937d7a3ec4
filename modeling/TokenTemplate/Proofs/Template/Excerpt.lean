import TokenTemplate.Proofs.Source.Line
import TokenTemplate.Proofs.Template.Report

/-!
# What a message shows of a malformed template

The message about a malformed template shows the line on which the piece that is wrong begins, with
carets under that piece (`TokenTemplate.Routine.ofSource_excerpt`): the line is the one between line
feeds, and the carets begin under the first character of the piece and are as many as it has
characters on the line.

This needs the lines up to that one to be ended by line feeds only. A form feed is white space to a
scan, but it ends a line of an excerpt, which then shows less
(`TokenTemplate.Routine.excerpt_of_form_feed`).
-/

namespace TokenTemplate

open Text

namespace Diagnostic

variable {source : String} {s : Span} {before after : List (List Char)} {line : List Char}

/-- **The carets under a piece of a source** begin where it begins on its line and go to where it
ends; there is one if it ends on a later line, and one if it is empty. -/
theorem carets_eq (h : s.LiesIn source.toList)
    (hline : OnLine source.toList s.startPos before line after) :
    carets s = String.ofList (List.replicate (s.startPos - (ended before).length) ' ' ++
      List.replicate (if s.stopPos ≤ (ended before).length + line.length
        then max (s.stopPos - s.startPos) 1 else 1) '^') := by
  have hle := h.startPos_le
  have hsame := hline.line_ofOffset_eq_iff hle h.stopPos_le
  rw [← h.start_eq, ← h.stop_eq] at hsame
  have hstart : s.start.column = (s.startPos - (ended before).length : Nat) + 1 := by
    rw [h.start_eq, hline.ofOffset_eq]
  have hblanks : (s.start.column - 1).toNat = s.startPos - (ended before).length := by omega
  rw [carets, hblanks]
  by_cases hstop : s.stopPos ≤ (ended before).length + line.length
  · have hend : OnLine source.toList s.stopPos before line after :=
      ⟨hline.splitOn_eq, hline.length_le.trans hle, hstop⟩
    have hcolumn : s.stop.column = (s.stopPos - (ended before).length : Nat) + 1 := by
      rw [h.stop_eq, hend.ofOffset_eq]
    have hwidth : (max (s.stop.column - s.start.column) 1).toNat =
        max (s.stopPos - s.startPos) 1 := by
      have := hline.length_le
      omega
    simp only [if_pos (hsame.2 hstop), if_pos hstop, hwidth]
  · simp only [if_neg (mt hsame.1 hstop), if_neg hstop, Int.toNat_one]

/-- **The excerpt for a piece of a source** is the line it begins on, with carets under it. -/
theorem excerpt?_eq (h : s.LiesIn source.toList)
    (hline : OnLine source.toList s.startPos before line after)
    (hfeeds : OnlyFeeds before line after) (hne : line ≠ []) :
    excerpt? source s = some ["    " ++ String.ofList (shown line after), "    " ++ carets s] := by
  have hnumber : s.start.line = before.length + 1 := by
    rw [h.start_eq, hline.ofOffset_eq]
  have hindex : (s.start.line - 1).toNat = before.length := by omega
  simp only [excerpt?]
  rw [if_pos (by omega), hindex, hline.lines_getElem hfeeds hne, Option.map_some]

end Diagnostic

/-- The message about a malformed template: the place and the problem, then the excerpt. -/
theorem SyntaxError.render_diagnostic (e : SyntaxError) {source : String} {excerpt : List String}
    (h : Diagnostic.excerpt? source e.span = some excerpt) :
    e.diagnostic.render (some source) =
      "\n".intercalate ((e.diagnostic.location ++ ": error: " ++ e.problem.message) :: excerpt) := by
  have hhead : s!"{e.diagnostic.location}: {e.diagnostic.severity}: {e.diagnostic.message}" =
      e.diagnostic.location ++ ": error: " ++ e.problem.message := by
    have hwords : (": " ++ "error" : String) ++ ": " = ": error: " := rfl
    rw [← hwords, ← String.append_assoc, ← String.append_assoc]
    rfl
  have hexcerpt : (Diagnostic.excerpt? source e.span).getD [] = excerpt := by
    rw [h, Option.getD_some]
  unfold Diagnostic.render
  rw [hhead]
  change "\n".intercalate (_ :: (Diagnostic.excerpt? source e.span).getD [] ++ []) = _
  rw [hexcerpt, List.append_nil]

/-- **A message shows the line of what is wrong.** If a source is malformed, the piece that is wrong
begins on a line of the source, and unless that line is empty or something other than a line feed
ends a line up to it, the message is the place and the problem, then the line, then carets under the
piece. -/
theorem Routine.ofSource_excerpt {settings : Settings} {receiver source : String} {e : SyntaxError}
    (h : Routine.ofSource settings receiver source = .error (.malformed e)) :
    ∃ before line after, OnLine source.toList e.span.startPos before line after ∧
      e.span.start.line = before.length + 1 ∧
      (OnlyFeeds before line after → line ≠ [] →
        e.diagnostic.render (some source) = "\n".intercalate [
          e.diagnostic.location ++ ": error: " ++ e.problem.message,
          "    " ++ String.ofList (shown line after),
          "    " ++ String.ofList (List.replicate (e.span.startPos - (ended before).length) ' ' ++
            List.replicate (if e.span.stopPos ≤ (ended before).length + line.length
              then max (e.span.stopPos - e.span.startPos) 1 else 1) '^')]) := by
  have hlies : e.span.LiesIn source.toList := by
    rcases Routine.ofSource_reports settings receiver source with ⟨routine, hok⟩ | ⟨e', he', -, hl⟩
    · rw [h] at hok
      cases hok
    · rw [h] at he'
      cases he'
      exact hl
  obtain ⟨before, line, after, hline⟩ := exists_onLine (hlies.startPos_le.trans hlies.stopPos_le)
  refine ⟨before, line, after, hline, ?_, fun hfeeds hne => ?_⟩
  · rw [hlies.start_eq, hline.ofOffset_eq]
  · have hexcerpt := Diagnostic.excerpt?_eq hlies hline hfeeds hne
    rw [Diagnostic.carets_eq hlies hline] at hexcerpt
    exact e.render_diagnostic hexcerpt

/-- The line of an unknown directive is shown, without the carriage return of the line before it and
whatever comes after it. -/
theorem Routine.ofSource_excerpt_directive :
    ∃ e, Routine.ofSource {} "t" "a\r\n#<no>\n\x0c" = .error (.malformed e) ∧
      e.diagnostic.render (some "a\r\n#<no>\n\x0c") =
        "\n".intercalate [e.diagnostic.location ++ ": error: " ++ e.problem.message,
          "    #<no>", "      ^^"] := by
  have h : Routine.ofSource {} "t" "a\r\n#<no>\n\x0c" = .error (.malformed
      ⟨.unknownDirective "no" ["space", "push", "line", "indent", "unindent"],
        ⟨⟨2, 3⟩, ⟨2, 5⟩, 5, 7⟩, "<template>"⟩) := by cbv
  refine ⟨_, h, ?_⟩
  obtain ⟨before, line, after, hline, hnumber, hshown⟩ := Routine.ofSource_excerpt h
  have hdirective : OnLine "a\r\n#<no>\n\x0c".toList 5 ["a\r".toList] "#<no>".toList
      ["\x0c".toList] := ⟨by decide, by decide, by decide⟩
  have hlen : before.length = 1 := by
    simp only at hnumber
    omega
  obtain ⟨rfl, rfl⟩ := hline.eq_of_length_eq hdirective hlen
  obtain rfl : after = ["\x0c".toList] := by
    have hsplit := hline.splitOn_eq.symm.trans hdirective.splitOn_eq
    exact (List.cons.inj (List.append_cancel_left hsplit)).2
  exact hshown ⟨by decide, by decide⟩ (by decide)

/-- After a form feed the line between line feeds is not what is shown: a closing delimiter that
closes nothing is complained about, but the excerpt ends before it. -/
theorem Routine.excerpt_of_form_feed :
    ∃ e, Routine.ofSource {} "t" "a\x0cb)" = .error (.malformed e) ∧
      OnLine "a\x0cb)".toList e.span.startPos [] "a\x0cb)".toList [] ∧
      e.diagnostic.render (some "a\x0cb)") = "\n".intercalate
        [e.diagnostic.location ++ ": error: " ++ e.problem.message, "    a", "       ^"] ∧
      e.diagnostic.render (some "a\x0cb)") ≠ "\n".intercalate
        [e.diagnostic.location ++ ": error: " ++ e.problem.message, "    a\x0cb)", "       ^"] := by
  have h : Routine.ofSource {} "t" "a\x0cb)" = .error (.malformed
      ⟨.unbalancedClosing .parenthesis, ⟨⟨1, 4⟩, ⟨1, 5⟩, 3, 4⟩, "<template>"⟩) := by cbv
  exact ⟨_, h, ⟨by decide, by decide, by decide⟩, by decide +kernel, by decide +kernel⟩

end TokenTemplate
