import Mathlib.Data.List.TakeWhile
import Mathlib.Order.Nat
import TokenTemplate.Token.Lexeme

/-!
# The rules of tokens

Which texts are tokens of which kind, said without a scan: `TokenTemplate.Spells`, one constructor
per rule of the grammar. The inside of a string literal has a grammar of its own,
`TokenTemplate.StringBody`.

From the rules follows which token begins a text, `TokenTemplate.Begins`: the longest one of its
kind, where a single quote is punctuation only if no character literal begins with it. The main
statement is that `TokenTemplate.munch` finds exactly this token
(`TokenTemplate.munch_eq_some_iff`). In one direction every branch of `TokenTemplate.munch` obeys
its rule; in the other the first character of a token decides which branch is taken, and then two
longest tokens of one kind are the same.
-/

namespace TokenTemplate

/-! ### The grammar -/

/-- The inside of a string literal: characters of one line, where a backslash takes the next one
with it. -/
inductive StringBody : List Char → Prop
  /-- Nothing. -/
  | nil : StringBody []
  /-- A character that stands for itself. -/
  | plain {c : Char} {cs : List Char} (hquote : c ≠ '"') (hback : c ≠ '\\') (hline : c ≠ '\n')
      (h : StringBody cs) : StringBody (c :: cs)
  /-- A backslash and a character. -/
  | escape {c : Char} {cs : List Char} (hline : c ≠ '\n') (h : StringBody cs) :
      StringBody ('\\' :: c :: cs)

/-- A run of word characters. -/
def IsRun (w : List Char) : Prop :=
  ∀ c ∈ w, Unicode.isWord c = true

/-- **The rules of tokens**: which texts are tokens of a kind. -/
inductive Spells : LexemeKind → List Char → Prop
  /-- A string literal stands between double quotes. -/
  | string {body : List Char} (h : StringBody body) :
      Spells (.leaf .string) ('"' :: (body ++ ['"']))
  /-- A character literal holds a character other than a quote, a backslash or a line feed. -/
  | character {c : Char} (hquote : c ≠ '\'') (hback : c ≠ '\\') (hline : c ≠ '\n') :
      Spells (.leaf .char) ['\'', c, '\'']
  /-- Or it holds a backslash, a character and a run. -/
  | escaped {c : Char} {w : List Char} (hline : c ≠ '\n') (hw : IsRun w) :
      Spells (.leaf .char) ('\'' :: '\\' :: c :: (w ++ ['\'']))
  /-- A number begins with a digit. -/
  | number {d : Char} {w : List Char} (hd : Unicode.isDecimal d = true) (hw : IsRun w) :
      Spells (.leaf .number) (d :: w)
  /-- It may hold one point, which a digit follows. -/
  | decimal {d e : Char} {w v : List Char} (hd : Unicode.isDecimal d = true) (hw : IsRun w)
      (he : Unicode.isDecimal e = true) (hv : IsRun v) :
      Spells (.leaf .number) (d :: (w ++ '.' :: e :: v))
  /-- A word begins with no digit. -/
  | name {c : Char} {w : List Char} (hc : Unicode.isWord c = true)
      (hd : Unicode.isDecimal c = false) (hw : IsRun w) : Spells (.leaf .name) (c :: w)
  /-- Punctuation is a character that is in no word, white, a delimiter or a double quote. -/
  | punct {c : Char} (hw : Unicode.isWord c = false) (hb : Unicode.isBlank c = false)
      (ho : ∀ d : Delimiter, c ≠ d.openChar) (hc : ∀ d : Delimiter, c ≠ d.closeChar)
      (hquote : c ≠ '"') : Spells (.leaf .punct) [c]
  /-- The character that opens a group. -/
  | opening (d : Delimiter) : Spells (.opening d) [d.openChar]
  /-- The character that closes a group. -/
  | closing (d : Delimiter) : Spells (.closing d) [d.closeChar]

/-- **The token that begins a text**: the longest of its kind, and punctuation only where no
character literal begins. -/
structure Begins (cs : List Char) (k : LexemeKind) (text : List Char) : Prop where
  /-- The text begins with it. -/
  isPrefix : text <+: cs
  /-- It is a token of its kind. -/
  spells : Spells k text
  /-- No token of its kind that begins there is longer. -/
  longest : ∀ more, more <+: cs → Spells k more → more.length ≤ text.length
  /-- Character literals come before punctuation. -/
  unquoted : k = .leaf .punct → ∀ more, more <+: cs → ¬Spells (.leaf .char) more

/-! ### Classes of characters -/

namespace Unicode

/-- Every run of decimal digits beyond ASCII lies in one range of alphanumeric characters. -/
theorem decimalZeros_alphanumeric :
    (decimalZeros.all fun z =>
      z == 0x30 || alphanumericRanges.any fun r => r.1.ble z && (z + 9).ble r.2) = true := by
  decide +kernel

/-- **A decimal digit may stand in a word.** -/
theorem isWord_of_isDecimal {c : Char} (h : isDecimal c = true) : isWord c = true := by
  rw [isWord, Bool.or_eq_true]
  refine Or.inl ?_
  rw [isDecimal] at h
  rw [isAlphanumeric]
  by_cases hascii : c.val < 128
  · rw [if_pos hascii] at h ⊢
    rw [Char.isAlphanum, h, Bool.or_true]
  · rw [if_neg hascii] at h ⊢
    rw [decimalValue?, Option.isSome_map, List.find?_isSome] at h
    obtain ⟨z, hz, hrange⟩ := h
    rw [Bool.and_eq_true, decide_eq_true_eq, decide_eq_true_eq] at hrange
    have htable := List.all_eq_true.1 decimalZeros_alphanumeric z hz
    rw [Bool.or_eq_true, beq_iff_eq, List.any_eq_true] at htable
    rcases htable with rfl | ⟨r, hr, hin⟩
    · have hval : ¬c.toNat < 128 := fun hlt => hascii (UInt32.lt_iff_toNat_lt.2 hlt)
      omega
    · rw [Bool.and_eq_true, Nat.ble_eq, Nat.ble_eq] at hin
      exact Ranges.has_iff.2 ⟨r, hr, by omega, by omega⟩

theorem isDecimal_eq_false {c : Char} (h : isWord c = false) : isDecimal c = false := by
  by_contra hd
  rw [Bool.not_eq_false] at hd
  rw [isWord_of_isDecimal hd] at h
  exact Bool.noConfusion h

theorem isWord_openChar (d : Delimiter) : isWord d.openChar = false := by
  cases d <;> decide

theorem isWord_closeChar (d : Delimiter) : isWord d.closeChar = false := by
  cases d <;> decide

theorem isWord_quote : isWord '\'' = false := by decide

theorem isWord_doubleQuote : isWord '"' = false := by decide

theorem isWord_point : isWord '.' = false := by decide

end Unicode

namespace Delimiter

theorem ofOpen?_eq_none_iff {c : Char} : ofOpen? c = none ↔ ∀ d : Delimiter, c ≠ d.openChar := by
  rw [Option.eq_none_iff_forall_ne_some]
  exact forall_congr' fun d => not_congr ofOpen?_eq_some_iff

theorem ofClose?_eq_none_iff {c : Char} :
    ofClose? c = none ↔ ∀ d : Delimiter, c ≠ d.closeChar := by
  rw [Option.eq_none_iff_forall_ne_some]
  exact forall_congr' fun d => not_congr ofClose?_eq_some_iff

theorem ofOpen?_closeChar (d : Delimiter) : ofOpen? d.closeChar = none := by
  cases d <;> rfl

theorem openChar_ne_doubleQuote (d : Delimiter) : d.openChar ≠ '"' := by
  cases d <;> decide

theorem closeChar_ne_doubleQuote (d : Delimiter) : d.closeChar ≠ '"' := by
  cases d <;> decide

/-- A word character is no delimiter. -/
theorem ofOpen?_of_isWord {c : Char} (h : Unicode.isWord c = true) : ofOpen? c = none := by
  refine ofOpen?_eq_none_iff.2 fun d hd => ?_
  rw [hd, Unicode.isWord_openChar] at h
  exact Bool.noConfusion h

theorem ofClose?_of_isWord {c : Char} (h : Unicode.isWord c = true) : ofClose? c = none := by
  refine ofClose?_eq_none_iff.2 fun d hd => ?_
  rw [hd, Unicode.isWord_closeChar] at h
  exact Bool.noConfusion h

end Delimiter

/-! ### Runs of word characters -/

theorem isRun_takeWhile (cs : List Char) : IsRun (cs.takeWhile Unicode.isWord) :=
  fun _ hc => List.mem_takeWhile_imp hc

/-- A run that something else follows is all that is taken. -/
theorem takeWhile_run {w : List Char} (hw : IsRun w) {c : Char} (hc : Unicode.isWord c = false)
    (rest : List Char) : (w ++ c :: rest).takeWhile Unicode.isWord = w := by
  rw [List.takeWhile_append_of_pos hw, List.takeWhile_cons_of_neg (Bool.eq_false_iff.1 hc),
    List.append_nil]

theorem dropWhile_run {w : List Char} (hw : IsRun w) {c : Char} (hc : Unicode.isWord c = false)
    (rest : List Char) : (w ++ c :: rest).dropWhile Unicode.isWord = c :: rest := by
  rw [List.dropWhile_append_of_pos hw, List.dropWhile_cons_of_neg (Bool.eq_false_iff.1 hc)]

/-- No run at the beginning of a text is longer than what is taken. -/
theorem length_le_takeWhile {w cs : List Char} (hw : IsRun w) (h : w <+: cs) :
    w.length ≤ (cs.takeWhile Unicode.isWord).length := by
  obtain ⟨rest, rfl⟩ := h
  rw [List.takeWhile_append_of_pos hw, List.length_append]
  exact Nat.le_add_right _ _

/-! ### Literals -/

theorem stringRest?_append_doubleQuote {body : List Char} (h : StringBody body) (rest : List Char) :
    stringRest? (body ++ '"' :: rest) = some (body ++ ['"'], rest) := by
  induction h with
  | nil => rw [List.nil_append, stringRest?, List.nil_append]
  | @plain c cs hquote hback hline _ ih =>
    rw [List.cons_append, stringRest?.eq_4 _ _ hquote fun _ _ hc => absurd hc hback,
      if_neg (not_or.2 ⟨hline, hback⟩), ih]
    rfl
  | @escape c cs hline _ ih =>
    rw [List.cons_append, List.cons_append, stringRest?, if_neg hline, ih]
    rfl

theorem exists_stringBody {cs : List Char} {r : List Char × List Char}
    (h : stringRest? cs = some r) : ∃ body, StringBody body ∧ r.1 = body ++ ['"'] := by
  fun_induction stringRest? cs generalizing r with
  | case1 => exact absurd h (Option.some_ne_none r).symm
  | case2 cs =>
    obtain rfl := Option.some.inj h
    exact ⟨[], .nil, rfl⟩
  | case3 => exact absurd h (Option.some_ne_none r).symm
  | case4 c cs hc ih =>
    obtain ⟨r', hr', rfl⟩ := Option.map_eq_some_iff.1 h
    obtain ⟨body, hbody, heq⟩ := ih hr'
    exact ⟨'\\' :: c :: body, .escape hc hbody, by rw [heq]; rfl⟩
  | case5 => exact absurd h (Option.some_ne_none r).symm
  | case6 c cs hquote _ hc ih =>
    obtain ⟨r', hr', rfl⟩ := Option.map_eq_some_iff.1 h
    obtain ⟨body, hbody, heq⟩ := ih hr'
    rw [not_or] at hc
    exact ⟨c :: body, .plain hquote hc.2 hc.1 hbody, by rw [heq]; rfl⟩

/-- What follows the first quote of a character literal. -/
theorem charRest?_of_spells {text rest : List Char} (h : Spells (.leaf .char) ('\'' :: text)) :
    charRest? (text ++ rest) = some (text, rest) := by
  cases h with
  | @character c hquote hback hline =>
    rw [List.cons_append, List.cons_append, List.nil_append, charRest?.eq_2, if_neg]
    · rintro (hc | hc | hc)
      · exact hquote hc
      · exact hback hc
      · exact hline hc
    · exact fun hc => absurd hc hback
  | @escaped c w hline hw =>
    have happ : w ++ ['\''] ++ rest = w ++ '\'' :: rest := by
      rw [List.append_assoc, List.singleton_append]
    rw [List.cons_append, List.cons_append, charRest?, if_neg hline, happ,
      dropWhile_run hw Unicode.isWord_quote, takeWhile_run hw Unicode.isWord_quote]
    rfl

theorem spells_of_charRest? {cs : List Char} {r : List Char × List Char}
    (h : charRest? cs = some r) : Spells (.leaf .char) ('\'' :: r.1) := by
  unfold charRest? at h
  split at h
  · split at h
    · exact absurd h (Option.some_ne_none r).symm
    · next hline =>
      split at h
      · obtain rfl := Option.some.inj h
        exact .escaped hline (isRun_takeWhile _)
      · exact absurd h (Option.some_ne_none r).symm
  · split at h
    · exact absurd h (Option.some_ne_none r).symm
    · next hc =>
      obtain rfl := Option.some.inj h
      rw [not_or, not_or] at hc
      exact .character hc.1 hc.2.1 hc.2.2
  · exact absurd h (Option.some_ne_none r).symm

/-! ### Numbers -/

theorem spells_number {d : Char} (hd : Unicode.isDecimal d = true) (cs : List Char) :
    Spells (.leaf .number) (d :: (numberRest cs).1) := by
  unfold numberRest
  split
  · split
    · next he => exact .decimal hd (isRun_takeWhile _) he (isRun_takeWhile _)
    · exact .number hd (isRun_takeWhile _)
  · exact .number hd (isRun_takeWhile _)

/-- What is taken of a word is taken of a number. -/
theorem takeWhile_isPrefix_numberRest (cs : List Char) :
    cs.takeWhile Unicode.isWord <+: (numberRest cs).1 := by
  unfold numberRest
  split
  · split
    · exact List.prefix_append _ _
    · exact List.prefix_rfl
  · exact List.prefix_rfl

/-- No number at the beginning of a text is longer than what is taken. -/
theorem length_le_numberRest {c : Char} {cs more : List Char} (hpre : more <+: c :: cs)
    (h : Spells (.leaf .number) more) : more.length ≤ (c :: (numberRest cs).1).length := by
  cases h with
  | number _ hw =>
    have hle := (length_le_takeWhile hw (List.cons_prefix_cons.1 hpre).2).trans
      (takeWhile_isPrefix_numberRest cs).length_le
    exact Nat.succ_le_succ hle
  | @decimal _ e w v _ hw he hv =>
    obtain ⟨rest, rfl⟩ := (List.cons_prefix_cons.1 hpre).2
    have happ : w ++ '.' :: e :: v ++ rest = w ++ '.' :: e :: (v ++ rest) := by
      rw [List.append_assoc, List.cons_append, List.cons_append]
    rw [happ, numberRest, dropWhile_run hw Unicode.isWord_point,
      takeWhile_run hw Unicode.isWord_point]
    simp only [if_pos he, List.length_append, List.length_cons]
    have hle := length_le_takeWhile hv (List.prefix_append v rest)
    omega

/-! ### The token that begins a text -/

section Munch

variable {c : Char} {cs : List Char}

theorem munch_doubleQuote :
    munch ('"' :: cs) = (stringRest? cs).map fun r => (.leaf .string, '"' :: r.1, r.2) := by
  rw [munch, if_pos rfl]

theorem munch_openChar (d : Delimiter) :
    munch (d.openChar :: cs) = some (.opening d, [d.openChar], cs) := by
  rw [munch, if_neg d.openChar_ne_doubleQuote, Delimiter.ofOpen?_eq_some_iff.2 rfl]

theorem munch_closeChar (d : Delimiter) :
    munch (d.closeChar :: cs) = some (.closing d, [d.closeChar], cs) := by
  rw [munch, if_neg d.closeChar_ne_doubleQuote, Delimiter.ofOpen?_closeChar,
    Delimiter.ofClose?_eq_some_iff.2 rfl]

theorem ne_doubleQuote_of_isWord (h : Unicode.isWord c = true) : c ≠ '"' := by
  rintro rfl
  rw [Unicode.isWord_doubleQuote] at h
  exact Bool.noConfusion h

theorem munch_of_isDecimal (h : Unicode.isDecimal c = true) :
    munch (c :: cs) = some (.leaf .number, c :: (numberRest cs).1, (numberRest cs).2) := by
  have hw := Unicode.isWord_of_isDecimal h
  rw [munch, if_neg (ne_doubleQuote_of_isWord hw), Delimiter.ofOpen?_of_isWord hw,
    Delimiter.ofClose?_of_isWord hw]
  exact if_pos h

theorem munch_of_isWord (hd : Unicode.isDecimal c = false) (hw : Unicode.isWord c = true) :
    munch (c :: cs) =
      some (.leaf .name, c :: cs.takeWhile Unicode.isWord, cs.dropWhile Unicode.isWord) := by
  rw [munch, if_neg (ne_doubleQuote_of_isWord hw), Delimiter.ofOpen?_of_isWord hw,
    Delimiter.ofClose?_of_isWord hw]
  simp only [hd, hw, if_true, Bool.false_eq_true, if_false]

/-- A character that is in no word and no delimiter. -/
theorem munch_of_not_isWord (hw : Unicode.isWord c = false) (hquote : c ≠ '"')
    (ho : ∀ d : Delimiter, c ≠ d.openChar) (hc : ∀ d : Delimiter, c ≠ d.closeChar) :
    munch (c :: cs) =
      if Unicode.isBlank c then none
      else match (if c = '\'' then charRest? cs else none) with
        | some r => some (.leaf .char, c :: r.1, r.2)
        | none => some (.leaf .punct, [c], cs) := by
  rw [munch, if_neg hquote, Delimiter.ofOpen?_eq_none_iff.2 ho, Delimiter.ofClose?_eq_none_iff.2 hc]
  exact (if_neg (Bool.eq_false_iff.1 (Unicode.isDecimal_eq_false hw))).trans
    (if_neg (Bool.eq_false_iff.1 hw))

/-- The classes of characters that decide which rule applies. -/
theorem char_cases (c : Char) :
    c = '"' ∨ (∃ d : Delimiter, c = d.openChar) ∨ (∃ d : Delimiter, c = d.closeChar) ∨
      Unicode.isDecimal c = true ∨ (Unicode.isDecimal c = false ∧ Unicode.isWord c = true) ∨
      (Unicode.isWord c = false ∧ c ≠ '"' ∧ (∀ d : Delimiter, c ≠ d.openChar) ∧
        ∀ d : Delimiter, c ≠ d.closeChar) := by
  by_cases hquote : c = '"'
  · exact Or.inl hquote
  by_cases ho : ∃ d : Delimiter, c = d.openChar
  · exact Or.inr (Or.inl ho)
  by_cases hc : ∃ d : Delimiter, c = d.closeChar
  · exact Or.inr (Or.inr (Or.inl hc))
  rw [not_exists] at ho hc
  cases hw : Unicode.isWord c with
  | false => exact Or.inr (Or.inr (Or.inr (Or.inr (Or.inr ⟨rfl, hquote, ho, hc⟩))))
  | true =>
    cases hd : Unicode.isDecimal c with
    | false => exact Or.inr (Or.inr (Or.inr (Or.inr (Or.inl ⟨rfl, rfl⟩))))
    | true => exact Or.inr (Or.inr (Or.inr (Or.inl rfl)))

/-- A token of one character is as long as any token of its kind. -/
theorem Spells.length_eq_one {k : LexemeKind} {text : List Char} (h : Spells k text)
    (hk : k = .leaf .punct ∨ (∃ d, k = .opening d) ∨ ∃ d, k = .closing d) : text.length = 1 := by
  rcases hk with rfl | ⟨d, rfl⟩ | ⟨d, rfl⟩ <;> cases h <;> rfl

/-- A character literal at the beginning of a text is what is taken. -/
theorem charRest?_of_isPrefix {more : List Char} (hpre : more <+: c :: cs)
    (h : Spells (.leaf .char) more) :
    c = '\'' ∧ ∃ m tail, more = '\'' :: m ∧ charRest? cs = some (m, tail) := by
  obtain ⟨m, rfl⟩ : ∃ m, more = '\'' :: m := by cases h <;> exact ⟨_, rfl⟩
  obtain ⟨rfl, tail, rfl⟩ := List.cons_prefix_cons.1 hpre
  exact ⟨rfl, m, tail, rfl, charRest?_of_spells h⟩

/-- What a search for the end of a string literal finds. -/
theorem begins_of_stringRest? {r : List Char × List Char} (h : stringRest? cs = some r) :
    Begins ('"' :: cs) (.leaf .string) ('"' :: r.1) := by
  have happ := (stringRest?_append h).1
  obtain ⟨body, hbody, heq⟩ := exists_stringBody h
  refine ⟨⟨r.2, by rw [List.cons_append, happ]⟩, heq ▸ .string hbody, ?_, fun hk => by cases hk⟩
  rintro more ⟨tail, hmore⟩ hspells
  cases hspells with
  | @string body' hbody' =>
    -- a literal ends at the first double quote that no backslash takes
    have hcs : body' ++ '"' :: tail = cs := by simpa using hmore
    rw [← hcs, stringRest?_append_doubleQuote hbody'] at h
    obtain rfl := Option.some.inj h
    exact le_rfl

/-- What is taken for a character literal. -/
theorem begins_of_charRest? {r : List Char × List Char} (h : charRest? cs = some r) :
    Begins ('\'' :: cs) (.leaf .char) ('\'' :: r.1) := by
  have happ := (charRest?_append h).1
  refine ⟨⟨r.2, by rw [List.cons_append, happ]⟩, spells_of_charRest? h, ?_, fun hk => by cases hk⟩
  intro more hpre hspells
  obtain ⟨-, m, tail, rfl, hm⟩ := charRest?_of_isPrefix hpre hspells
  obtain rfl := Option.some.inj (hm.symm.trans h)
  exact le_rfl

/-- A token of one character that is no punctuation. -/
theorem begins_of_length_eq_one {k : LexemeKind} (h : Spells k [c])
    (hk : (∃ d, k = .opening d) ∨ ∃ d, k = .closing d) : Begins (c :: cs) k [c] := by
  refine ⟨⟨cs, rfl⟩, h, fun more _ hmore => (hmore.length_eq_one (Or.inr hk)).le, ?_⟩
  rintro rfl
  simp at hk

/-- **Every branch obeys its rule.** -/
theorem begins_of_munch {k : LexemeKind} {text rest : List Char}
    (h : munch (c :: cs) = some (k, text, rest)) : Begins (c :: cs) k text := by
  have hpre : text <+: c :: cs := ⟨rest, (munch_append h).1⟩
  rcases char_cases c with rfl | ⟨d, rfl⟩ | ⟨d, rfl⟩ | hd | ⟨hd, hw⟩ | ⟨hw, hquote, ho, hc⟩
  · rw [munch_doubleQuote] at h
    obtain ⟨r, hr, hrest⟩ := Option.map_eq_some_iff.1 h
    obtain ⟨rfl, rfl, rfl⟩ := by simpa using hrest
    exact begins_of_stringRest? hr
  · rw [munch_openChar] at h
    obtain ⟨rfl, rfl, rfl⟩ := by simpa using h
    exact begins_of_length_eq_one (.opening d) (Or.inl ⟨d, rfl⟩)
  · rw [munch_closeChar] at h
    obtain ⟨rfl, rfl, rfl⟩ := by simpa using h
    exact begins_of_length_eq_one (.closing d) (Or.inr ⟨d, rfl⟩)
  · rw [munch_of_isDecimal hd] at h
    obtain ⟨rfl, rfl, rfl⟩ := by simpa using h
    exact ⟨hpre, spells_number hd cs, fun more hp hmore => length_le_numberRest hp hmore,
      fun hk => by cases hk⟩
  · rw [munch_of_isWord hd hw] at h
    obtain ⟨rfl, rfl, rfl⟩ := by simpa using h
    refine ⟨hpre, .name hw hd (isRun_takeWhile cs), ?_, fun hk => by cases hk⟩
    -- a longer spelling of a name would be a longer run
    rintro more hp hspells
    cases hspells with
    | name _ _ hrun =>
      exact Nat.succ_le_succ (length_le_takeWhile hrun (List.cons_prefix_cons.1 hp).2)
  · rw [munch_of_not_isWord hw hquote ho hc] at h
    split at h
    · exact absurd h (Option.some_ne_none _).symm
    next hblank =>
    rw [Bool.not_eq_true] at hblank
    split at h
    · next r hr =>
      obtain ⟨rfl, rfl, rfl⟩ := by simpa using h
      split at hr
      · next hsingle =>
        subst hsingle
        exact begins_of_charRest? hr
      · exact absurd hr (Option.some_ne_none r).symm
    · -- punctuation, also where a single quote begins no character literal
      next hr =>
      obtain ⟨rfl, rfl, rfl⟩ := by simpa using h
      refine ⟨hpre, .punct hw hblank ho hc hquote,
        fun more _ hmore => (hmore.length_eq_one (by simp)).le, fun _ more hp hspells => ?_⟩
      obtain ⟨rfl, m, tail, rfl, hm⟩ := charRest?_of_isPrefix hp hspells
      rw [if_pos rfl, hm] at hr
      exact Option.some_ne_none _ hr

end Munch

variable {cs text rest : List Char} {k : LexemeKind}

/-- The first character of a token decides its kind. -/
theorem exists_munch_of_begins (h : Begins cs k text) :
    ∃ text' rest', munch cs = some (k, text', rest') := by
  obtain ⟨rest, rfl⟩ := h.isPrefix
  cases h.spells with
  | @string body hbody =>
    rw [List.cons_append, List.append_assoc, List.singleton_append, munch_doubleQuote,
      stringRest?_append_doubleQuote hbody]
    exact ⟨_, _, rfl⟩
  | character | escaped =>
    have hblank : Unicode.isBlank '\'' = false := by decide
    rw [List.cons_append, munch_of_not_isWord Unicode.isWord_quote (by decide)
      (by rintro (_ | _ | _) <;> decide) (by rintro (_ | _ | _) <;> decide), if_pos rfl,
      charRest?_of_spells h.spells, hblank]
    exact ⟨_, _, rfl⟩
  | number hd | decimal hd =>
    rw [List.cons_append, munch_of_isDecimal hd]
    exact ⟨_, _, rfl⟩
  | name hc hd =>
    rw [List.cons_append, munch_of_isWord hd hc]
    exact ⟨_, _, rfl⟩
  | @punct c hw hb ho hc hquote =>
    have hnone : (if c = '\'' then charRest? rest else none) = none := by
      by_contra hsome
      obtain ⟨r, hr⟩ := Option.ne_none_iff_exists'.1 hsome
      split at hr
      · next hsingle =>
        subst hsingle
        refine h.unquoted rfl ('\'' :: r.1) ⟨r.2, ?_⟩ (spells_of_charRest? hr)
        rw [List.cons_append, (charRest?_append hr).1]
        rfl
      · exact absurd hr (Option.some_ne_none r).symm
    rw [List.singleton_append, munch_of_not_isWord hw hquote ho hc, hb, hnone]
    exact ⟨_, _, rfl⟩
  | opening d =>
    rw [List.singleton_append, munch_openChar]
    exact ⟨_, _, rfl⟩
  | closing d =>
    rw [List.singleton_append, munch_closeChar]
    exact ⟨_, _, rfl⟩

/-- Two longest tokens of one kind are the same. -/
theorem Begins.eq_of_kind {text' : List Char} (h : Begins cs k text) (h' : Begins cs k text') :
    text = text' := by
  have hle := h'.longest _ h.isPrefix h.spells
  have hge := h.longest _ h'.isPrefix h'.spells
  exact (List.prefix_of_prefix_length_le h.isPrefix h'.isPrefix hle).eq_of_length
    (Nat.le_antisymm hle hge)

/-- **What is found is the token that begins the text.** -/
theorem munch_eq_some_iff :
    munch cs = some (k, text, rest) ↔ Begins cs k text ∧ cs = text ++ rest := by
  constructor
  · intro h
    refine ⟨?_, (munch_append h).1.symm⟩
    cases cs with
    | nil => exact absurd h (Option.some_ne_none _).symm
    | cons c cs => exact begins_of_munch h
  · rintro ⟨h, heq⟩
    obtain ⟨text', rest', hmunch⟩ := exists_munch_of_begins h
    cases cs with
    | nil => exact absurd hmunch (Option.some_ne_none _).symm
    | cons c cs =>
      obtain rfl := h.eq_of_kind (begins_of_munch hmunch)
      have hrest : text ++ rest' = text ++ rest := (munch_append hmunch).1.trans heq
      rw [hmunch, List.append_cancel_left hrest]

theorem munch_eq_none_iff : munch cs = none ↔ ∀ k text, ¬Begins cs k text := by
  constructor
  · intro h k text hbegins
    obtain ⟨text', rest', hmunch⟩ := exists_munch_of_begins hbegins
    rw [h] at hmunch
    exact Option.some_ne_none _ hmunch.symm
  · intro h
    by_contra hne
    obtain ⟨⟨k, text, rest⟩, hmunch⟩ := Option.ne_none_iff_exists'.1 hne
    exact h k text (munch_eq_some_iff.1 hmunch).1

theorem Begins.munch_eq (h : Begins cs k text) : munch cs = some (k, text, cs.drop text.length) :=
  munch_eq_some_iff.2 ⟨h, (List.prefix_iff_eq_append.1 h.isPrefix).symm⟩

/-- At most one token begins a text. -/
theorem Begins.unique {k' : LexemeKind} {text' : List Char} (h : Begins cs k text)
    (h' : Begins cs k' text') : k = k' ∧ text = text' := by
  have heq := Prod.mk.inj (Option.some.inj (h.munch_eq.symm.trans h'.munch_eq))
  exact ⟨heq.1, (Prod.mk.inj heq.2).1⟩

theorem Begins.ne_nil (h : Begins cs k text) : text ≠ [] :=
  (munch_append h.munch_eq).2

end TokenTemplate
