import Mathlib.Data.List.Infix
import TokenTemplate.Proofs.Payload.Name
import TokenTemplate.Proofs.Token.Rule

/-!
# Texts as string literals

Every text can be written as a string literal, `TokenTemplate.Text.literal`: double quotes stand around
it, and a backslash before each backslash and each double quote in it, while line breaks of both kinds are
written with a letter. Two readers have to find the way back.

The rules for the tokens of a template are one of them. They look for the end of a literal and not at what is
inside, so the literal is the token that begins where it stands (`TokenTemplate.Text.begins_literal`). The
payload tokens are the other one, and replace the escapes: what is read is the text
(`TokenTemplate.Payload.tokens?_literal`).

All that has to be known of single characters is `TokenTemplate.Text.escapeOf_cases`.
-/

namespace TokenTemplate

namespace Text

/-! ### Escaping -/

/-- A character as it is written in a string literal. -/
def escapeOf : Char → List Char
  | '\\' => ['\\', '\\']
  | '"' => ['\\', '"']
  | '\n' => ['\\', 'n']
  | '\r' => ['\\', 'r']
  | c => [c]

/-- A text as it is written in a string literal. -/
def escape (cs : List Char) : List Char :=
  cs.flatMap escapeOf

/-- **A text as a string literal.** -/
def literal (v : String) : String :=
  String.ofList ('"' :: (escape v.toList ++ ['"']))

theorem toList_literal (v : String) : (literal v).toList = '"' :: (escape v.toList ++ ['"']) :=
  String.toList_ofList

theorem escape_cons (c : Char) (cs : List Char) : escape (c :: cs) = escapeOf c ++ escape cs :=
  rfl

/-- A character is written with a letter that is its escape, or stands for itself. -/
theorem escapeOf_cases (c : Char) :
    (∃ d, escapeOf c = ['\\', d] ∧ letterEscape? d = some c ∧ d ≠ '\n' ∧ d ≠ '\r') ∨
      (escapeOf c = [c] ∧ c ≠ '\\' ∧ c ≠ '"' ∧ c ≠ '\n' ∧ c ≠ '\r') := by
  unfold escapeOf
  split
  · exact .inl ⟨'\\', rfl, rfl, by decide, by decide⟩
  · exact .inl ⟨'"', rfl, rfl, by decide, by decide⟩
  · exact .inl ⟨'n', rfl, rfl, by decide, by decide⟩
  · exact .inl ⟨'r', rfl, rfl, by decide, by decide⟩
  · next hback hquote hline hreturn => exact .inr ⟨rfl, hback, hquote, hline, hreturn⟩

/-- **What is escaped may stand inside a literal.** -/
theorem stringBody_escape (cs : List Char) : StringBody (escape cs) := by
  induction cs with
  | nil => exact .nil
  | cons c cs ih =>
    rw [escape_cons]
    rcases escapeOf_cases c with ⟨d, heq, -, hline, -⟩ | ⟨heq, hback, hquote, hline, -⟩
    · rw [heq]
      exact .escape hline ih
    · rw [heq]
      exact .plain hquote hback hline ih

theorem return_notMem_escape (cs : List Char) : '\r' ∉ escape cs := by
  rw [escape, List.mem_flatMap]
  rintro ⟨c, -, hmem⟩
  rcases escapeOf_cases c with ⟨d, heq, -, -, hreturn⟩ | ⟨heq, -, -, -, hreturn⟩
  · rw [heq, List.mem_pair] at hmem
    exact hmem.elim (by decide) (Ne.symm hreturn)
  · rw [heq, List.mem_singleton] at hmem
    exact hreturn hmem.symm

/-! ### Reading escapes -/

/-- An escape of one letter. -/
theorem unescape_letter {c d : Char} (h : letterEscape? d = some c) (cs : List Char) :
    unescape ('\\' :: d :: cs) = (unescape cs).map (c :: ·) := by
  have hne (e : Char) (he : letterEscape? e = none) : d ≠ e := by
    rintro rfl
    exact absurd (h.symm.trans he) (Option.some_ne_none c)
  have hline : d ≠ '\n' := hne _ rfl
  have hmarks : ¬ (d = 'x' ∨ d = 'u' ∨ d = 'U' ∨ d = 'N') := by
    simp [hne 'x' rfl, hne 'u' rfl, hne 'U' rfl, hne 'N' rfl]
  have hnil : unescape [] = some [] := unescape.eq_1
  rcases cs with _ | ⟨a, _ | ⟨b, cs⟩⟩
  · rw [hnil, unescape.eq_9] <;> simp_all
  · rw [unescape.eq_8, Option.map_eq_bind]
    · rw [if_neg hmarks, h]
      rfl
    all_goals simp_all
  · rw [unescape.eq_7, Option.map_eq_bind]
    · rw [if_neg hmarks, h]
      rfl
    all_goals simp_all

theorem unescape_plain {c : Char} (h : c ≠ '\\') (cs : List Char) :
    unescape (c :: cs) = (unescape cs).map (c :: ·) := by
  rw [unescape, Option.map_eq_bind]
  · rfl
  all_goals simp [h]

/-- **Escapes are replaced by what they were written for.** -/
theorem unescape_escape (cs : List Char) : unescape (escape cs) = some cs := by
  induction cs with
  | nil => rw [escape, List.flatMap_nil, unescape]
  | cons c cs ih =>
    rw [escape_cons]
    rcases escapeOf_cases c with ⟨d, heq, hletter, -⟩ | ⟨heq, hback, -⟩
    · rw [heq, List.cons_append, List.cons_append, List.nil_append, unescape_letter hletter, ih]
      rfl
    · rw [heq, List.singleton_append, unescape_plain hback, ih]
      rfl

end Text

/-! ### A literal as a payload -/

namespace Payload

/-- The inside of a literal ends at the first double quote that no backslash takes. -/
theorem shortBody?_of_stringBody {body : List Char} (h : StringBody body) (rest : List Char) :
    shortBody? '"' (body ++ '"' :: rest) = some (body, rest) := by
  induction h with
  | nil => rw [List.nil_append, shortBody?, if_pos rfl]; simp
  | @plain c cs hquote hback hline _ ih =>
    rw [List.cons_append, shortBody?.eq_3 _ _ _ fun _ _ hc => absurd hc hback, if_neg hquote,
      if_neg (not_or.2 ⟨hline, hback⟩), ih]
    rfl
  | escape _ _ ih =>
    rw [List.cons_append, List.cons_append, shortBody?, ih]
    rfl

/-- No inside of a literal is mistaken for that of a literal in three quotes. -/
theorem body?_of_stringBody {body : List Char} (h : StringBody body) :
    body? '"' (body ++ ['"']) = some (body, []) := by
  have hshort := shortBody?_of_stringBody h []
  cases h with
  | nil => exact hshort
  | @plain c cs hquote _ _ _ =>
    obtain ⟨b, rest, hrest⟩ := List.exists_cons_of_ne_nil (List.concat_ne_nil '"' cs)
    rw [List.cons_append, hrest] at hshort ⊢
    rw [body?, if_neg (fun hq => hquote hq.1), hshort]
  | @escape c cs _ _ =>
    rw [List.cons_append, List.cons_append] at hshort ⊢
    rw [body?, if_neg (fun hq => absurd hq.1 (by decide)), hshort]

theorem token?_literal (v : String) :
    token? ('"' :: (Text.escape v.toList ++ ['"'])) = some (.text v, []) := by
  have hliteral : stringLiteral? false '"' (Text.escape v.toList ++ ['"']) = some (v, []) := by
    rw [stringLiteral?, body?_of_stringBody (Text.stringBody_escape _)]
    simp [Text.unescape_escape]
  rw [token?, if_pos (.inl rfl), hliteral]
  rfl

/-- **A literal is read as the text that it was written for.** -/
theorem tokens?_literal (v : String) : tokens? (Text.literal v).toList = some [.text v] := by
  have hbreak : '\r' ∉ '"' :: (Text.escape v.toList ++ ['"']) := by
    simpa using Text.return_notMem_escape v.toList
  have hrow (fuel : Nat) : rowFrom? (fuel + 1) [] ('"' :: (Text.escape v.toList ++ ['"'])) =
      some ([.text v], none) := by
    rw [rowFrom?.eq_def]
    simp only [token?_literal]
    change (rowFrom? fuel [] []).bind _ = _
    rw [rowFrom?]
    rfl
  rw [Text.toList_literal, tokens?, unifyBreaks_eq_self hbreak, List.length_cons, hrow]

end Payload

/-! ### A literal as a token of a template -/

namespace Text

theorem spells_literal (v : String) : Spells (.leaf .string) (literal v).toList := by
  rw [toList_literal]
  exact .string (stringBody_escape _)

/-- **Where a literal stands, it is the token that begins there**, whatever follows it. -/
theorem begins_literal {v : String} {cs : List Char} (h : (literal v).toList <+: cs) :
    Begins cs (.leaf .string) (literal v).toList := by
  obtain ⟨rest, rfl⟩ := h
  have hrest := stringRest?_append_doubleQuote (stringBody_escape v.toList) rest
  have hbegins := begins_of_stringRest? hrest
  rwa [toList_literal, List.cons_append, List.append_assoc, List.singleton_append]

end Text

end TokenTemplate
