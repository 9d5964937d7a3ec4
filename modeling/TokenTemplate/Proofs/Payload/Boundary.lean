import Mathlib.Data.List.TakeWhile
import TokenTemplate.Payload.Token

/-!
# Tokens before a bracket

No number, word or mark runs over a closing bracket: the token at the front of a text is the same whether
a closing bracket follows the text or not, and what is left of the text is the same as well. Only a string
literal can go on, if its last quote comes after the bracket.

This is `TokenTemplate.Payload.token?_append`. A literal that goes on is described from both sides: the
text opens it (`TokenTemplate.Payload.OpensLiteral`), and what follows could end it
(`TokenTemplate.Payload.EndsLiteral`).
-/

namespace TokenTemplate.Payload

/-- What is left of a text, with a closing bracket and more behind it. -/
abbrev followed {α : Type} (tail : List Char) (r : α × List Char) : α × List Char :=
  (r.1, r.2 ++ ')' :: tail)

variable {cs tail : List Char}

/-! ### Numbers -/

theorem digitRun?_cons {p : Char → Bool} {c : Char} (hc : c ≠ '_') (cs : List Char) :
    digitRun? p (c :: cs) =
      if p c then (digitRun? p cs).map fun r => (c :: r.1, r.2) else some ([], c :: cs) := by
  rw [digitRun?]
  · rw [if_neg hc]
  · rintro d cs' rfl
    exact absurd rfl hc

theorem digitRun?_append {p : Char → Bool} (hp : p ')' = false) (cs tail : List Char) :
    digitRun? p (cs ++ ')' :: tail) = (digitRun? p cs).map (followed tail) := by
  fun_induction digitRun? p cs with
  | case1 =>
    rw [List.nil_append, digitRun?_cons (by decide), hp]
    rfl
  | case2 d cs hd ih =>
    rw [List.cons_append, List.cons_append, digitRun?, if_pos hd, ih, Option.map_map, Option.map_map]
    rfl
  | case3 d cs hd =>
    rw [List.cons_append, List.cons_append, digitRun?, if_neg hd]
    rfl
  | case4 cs h =>
    cases cs with
    | nil =>
      rw [List.cons_append, List.nil_append, digitRun?, if_neg (by simp [hp])]
      rfl
    | cons d cs => exact absurd rfl (h d cs rfl)
  | case5 c cs h hc hd ih =>
    rw [List.cons_append, digitRun?_cons hc, if_pos hd, ih, Option.map_map, Option.map_map]
    rfl
  | case6 c cs h hc hd =>
    rw [List.cons_append, digitRun?_cons hc, if_neg hd]
    rfl

theorem isPrefixOf_append {w : List Char} (hw : ')' ∉ w) (cs tail : List Char) :
    w.isPrefixOf (cs ++ ')' :: tail) = w.isPrefixOf cs := by
  induction w generalizing cs with
  | nil => rfl
  | cons c w ih =>
    rw [List.mem_cons, not_or] at hw
    cases cs with
    | nil =>
      rw [List.nil_append, List.isPrefixOf_cons_cons, beq_false_of_ne (Ne.symm hw.1)]
      rfl
    | cons d cs => rw [List.cons_append, List.isPrefixOf_cons_cons, List.isPrefixOf_cons_cons, ih hw.2]

theorem any_isPrefixOf_append {ws : List String} (hws : ∀ w ∈ ws, ')' ∉ w.toList) (cs tail : List Char) :
    ws.any (·.toList.isPrefixOf (cs ++ ')' :: tail)) = ws.any (·.toList.isPrefixOf cs) := by
  rw [Bool.eq_iff_iff, List.any_eq_true, List.any_eq_true]
  exact exists_congr fun w => and_congr_right fun hw => by rw [isPrefixOf_append (hws w hw)]

theorem endsNumber_append (cs tail : List Char) : endsNumber (cs ++ ')' :: tail) = endsNumber cs := by
  unfold endsNumber
  rw [any_isPrefixOf_append (by decide)]
  cases cs <;> rfl

theorem basedNumeral?_append (base : Nat) (cs tail : List Char) :
    basedNumeral? base (cs ++ ')' :: tail) = (basedNumeral? base cs).map (followed tail) := by
  have hdigit : (Text.digitValue? base ')').isSome = false := rfl
  unfold basedNumeral?
  rw [digitRun?_append (p := fun c => (Text.digitValue? base c).isSome) hdigit]
  cases digitRun? (fun c => (Text.digitValue? base c).isSome) cs with
  | none => rfl
  | some r =>
    obtain ⟨ds, rest⟩ := r
    change (if ds.isEmpty || !endsNumber (rest ++ ')' :: tail) then none else _) =
      Option.map _ (if ds.isEmpty || !endsNumber rest then none else _)
    rw [endsNumber_append]
    split_ifs
    · rfl
    · cases Text.numberOf? base ds <;> rfl

theorem head?_append (cs tail : List Char) :
    ((cs ++ ')' :: tail).head?).any Char.isDigit = (cs.head?).any Char.isDigit := by
  cases cs <;> rfl

/-- The sign that digits may have, and the digits. -/
def signOf (cs : List Char) : List Char × List Char :=
  match cs with
  | '-' :: ds => (['-'], ds)
  | '+' :: ds => (['+'], ds)
  | ds => ([], ds)

theorem signOf_append (cs tail : List Char) :
    signOf (cs ++ ')' :: tail) = followed tail (signOf cs) := by
  unfold signOf
  cases cs with
  | nil => rfl
  | cons c cs =>
    rw [List.cons_append]
    split <;> simp_all [followed]

theorem exponentPart?_cons (mark : Char) (more : List Char) :
    exponentPart? (mark :: more) =
      if mark = 'e' ∨ mark = 'E' then
        if ((signOf more).2.head?).any Char.isDigit then
          (digitRun? Char.isDigit (signOf more).2).map fun r => ('e' :: (signOf more).1 ++ r.1, r.2)
        else if (signOf more).1.isEmpty then some ([], mark :: more)
        else none
      else some ([], mark :: more) :=
  rfl

theorem exponentPart?_append (cs tail : List Char) :
    exponentPart? (cs ++ ')' :: tail) = (exponentPart? cs).map (followed tail) := by
  cases cs with
  | nil => rfl
  | cons mark more =>
    rw [List.cons_append, exponentPart?_cons, exponentPart?_cons, signOf_append]
    simp only [head?_append, digitRun?_append (p := Char.isDigit) rfl]
    by_cases hmark : mark = 'e' ∨ mark = 'E'
    · rw [if_pos hmark, if_pos hmark]
      by_cases hdigit : ((signOf more).2.head?).any Char.isDigit = true
      · rw [if_pos hdigit, if_pos hdigit, Option.map_map, Option.map_map]
        rfl
      rw [if_neg hdigit, if_neg hdigit]
      by_cases hsign : (signOf more).1.isEmpty = true
      · rw [if_pos hsign, if_pos hsign]
        rfl
      · rw [if_neg hsign, if_neg hsign]
        rfl
    · rw [if_neg hmark, if_neg hmark]
      rfl

/-- The fraction of a decimal numeral with its point, and what follows it. -/
def fractionOf? (cs : List Char) : Option (List Char × List Char) :=
  match cs with
  | '.' :: more =>
    if (more.head?).any Char.isDigit then (digitRun? Char.isDigit more).map fun r => ('.' :: r.1, r.2)
    else some (['.'], more)
  | _ => some ([], cs)

theorem fractionOf?_append (cs tail : List Char) :
    fractionOf? (cs ++ ')' :: tail) = (fractionOf? cs).map (followed tail) := by
  unfold fractionOf?
  cases cs with
  | nil => rfl
  | cons c cs =>
    by_cases hc : c = '.'
    · subst hc
      simp only [List.cons_append, head?_append, digitRun?_append (p := Char.isDigit) rfl]
      split_ifs
      · rw [Option.map_map, Option.map_map]
        rfl
      · rfl
    · rw [List.cons_append]
      split <;> simp_all [followed]

/-- A decimal numeral in its parts, if it may end where it does. -/
def decimalOf? (whole fraction exponent rest : List Char) : Option (Constant × List Char) :=
  if !endsNumber rest then none
  else if fraction.isEmpty && exponent.isEmpty then
    if (if whole.head? == some '0' then whole.any (· != '0') else 4300 < whole.length) then none
    else some (.int (Number.natOfDigits whole), rest)
  else (Number.ofDecimal? false (whole ++ fraction ++ exponent)).bind fun x => some (.float x, rest)

theorem decimalOf?_append (whole fraction exponent rest tail : List Char) :
    decimalOf? whole fraction exponent (rest ++ ')' :: tail) =
      (decimalOf? whole fraction exponent rest).map (followed tail) := by
  rw [decimalOf?, decimalOf?, endsNumber_append]
  by_cases hend : (!endsNumber rest) = true
  · rw [if_pos hend, if_pos hend]
    rfl
  rw [if_neg hend, if_neg hend]
  by_cases hwhole : (fraction.isEmpty && exponent.isEmpty) = true
  · rw [if_pos hwhole, if_pos hwhole]
    split_ifs <;> rfl
  · rw [if_neg hwhole, if_neg hwhole]
    cases Number.ofDecimal? false (whole ++ fraction ++ exponent) <;> rfl

theorem decimalTail?_eq (whole cs : List Char) :
    decimalTail? whole cs =
      (fractionOf? cs).bind fun f => (exponentPart? f.2).bind fun e => decimalOf? whole f.1 e.1 e.2 := by
  unfold decimalTail?
  dsimp only
  -- the fraction is read in one of three ways, and the rest in the same way after each
  split
  · rw [fractionOf?]
    split <;> rfl
  · next h =>
    rw [fractionOf?]
    · rfl
    · exact h

theorem decimalTail?_append (whole cs tail : List Char) :
    decimalTail? whole (cs ++ ')' :: tail) = (decimalTail? whole cs).map (followed tail) := by
  rw [decimalTail?_eq, decimalTail?_eq, fractionOf?_append]
  cases fractionOf? cs with
  | none => rfl
  | some f =>
    rw [Option.map_some, Option.bind_some, Option.bind_some, exponentPart?_append]
    cases exponentPart? f.2 with
    | none => rfl
    | some e => exact decimalOf?_append whole f.1 e.1 e.2 tail

/-- **A number does not run over a closing bracket.** -/
theorem numeral?_append (c : Char) (cs tail : List Char) :
    numeral? (c :: cs ++ ')' :: tail) = (numeral? (c :: cs)).map (followed tail) := by
  have hrun (ds : List Char) :
      ((digitRun? Char.isDigit (ds ++ ')' :: tail)).bind fun r => decimalTail? r.1 r.2) =
        ((digitRun? Char.isDigit ds).bind fun r => decimalTail? r.1 r.2).map (followed tail) := by
    rw [digitRun?_append (p := Char.isDigit) rfl]
    cases digitRun? Char.isDigit ds with
    | none => rfl
    | some r => exact decimalTail?_append r.1 r.2 tail
  by_cases hpoint : c = '.'
  · subst hpoint
    exact decimalTail?_append [] ('.' :: cs) tail
  by_cases hzero : c = '0'
  · subst hzero
    cases cs with
    | nil => exact hrun ['0']
    | cons mark cs =>
      simp only [List.cons_append, numeral?, basedNumeral?_append]
      have hcs := hrun ('0' :: mark :: cs)
      simp only [List.cons_append] at hcs
      rw [hcs]
      split_ifs <;> rfl
  · have heq (ds : List Char) :
        numeral? (c :: ds) = (digitRun? Char.isDigit (c :: ds)).bind fun r => decimalTail? r.1 r.2 := by
      unfold numeral?
      split
      · next h => exact absurd (List.cons.inj h).1 hzero
      · next h => exact absurd (List.cons.inj h).1 hpoint
      · rfl
    rw [List.cons_append, heq, heq]
    exact hrun (c :: cs)

/-! ### Marks -/

/-- **A mark does not run over a closing bracket.** -/
theorem markToken?_append (c : Char) (cs tail : List Char) :
    markToken? (c :: cs ++ ')' :: tail) = (markToken? (c :: cs)).map (followed tail) := by
  have hfind : ∀ ms : List String, (∀ m ∈ ms, ')' ∉ m.toList) →
      ms.find? (·.toList.isPrefixOf (c :: cs ++ ')' :: tail)) = ms.find? (·.toList.isPrefixOf (c :: cs)) := by
    intro ms hms
    induction ms with
    | nil => rfl
    | cons m ms ih =>
      rw [List.forall_mem_cons] at hms
      rw [List.find?_cons, List.find?_cons, isPrefixOf_append hms.1, ih hms.2]
  unfold markToken?
  rw [hfind longMarks (by decide)]
  cases hmark : longMarks.find? (·.toList.isPrefixOf (c :: cs)) with
  | some m =>
    have hlength : m.length ≤ (c :: cs).length := by
      have hprefix := List.find?_some hmark
      rw [List.isPrefixOf_iff_prefix] at hprefix
      exact String.length_toList ▸ hprefix.length_le
    simp only [List.drop_append_of_le_length hlength]
    rfl
  | none =>
    simp only [List.cons_append]
    split_ifs <;> rfl

/-! ### String literals -/

variable {q : Char} {body rest : List Char}

/-- A text can end a literal with some quote that has begun before it; a backslash before it takes
the first character away. -/
def EndsLiteral (q : Char) (tail : List Char) : Prop :=
  ∃ n ≤ 1, (shortBody? q (tail.drop n)).isSome ∨ (longBody? q (tail.drop n)).isSome

theorem shortBody?_cons {c : Char} (hc : c ≠ '\\') (cs : List Char) :
    shortBody? q (c :: cs) =
      if c = q then some ([], cs)
      else if c = '\n' ∨ c = '\\' then none
      else (shortBody? q cs).map fun r => (c :: r.1, r.2) := by
  rw [shortBody?]
  rintro d ds rfl
  exact absurd rfl hc

theorem longBody?_cons {a b c : Char} (ha : a ≠ '\\') (cs : List Char) :
    longBody? q (a :: b :: c :: cs) =
      if a = q ∧ b = q ∧ c = q then some ([], cs)
      else if a = '\\' then none
      else (longBody? q (b :: c :: cs)).map fun r => (a :: r.1, r.2) := by
  rw [longBody?]
  exact ha

/-- A literal that ends goes on after one more part of its inside. -/
theorem exists_or_none {o : Option (List Char × List Char)} (part : List Char)
    (h : (∃ last, o = some (body, last) ∧ rest = last ++ tail) ∨ o = none ∧ EndsLiteral q tail) :
    (∃ last, o.map (fun r => (part ++ r.1, r.2)) = some (part ++ body, last) ∧ rest = last ++ tail) ∨
      o.map (fun r => (part ++ r.1, r.2)) = none ∧ EndsLiteral q tail := by
  rcases h with ⟨last, rfl, rfl⟩ | ⟨rfl, hends⟩
  · exact .inl ⟨last, rfl, rfl⟩
  · exact .inr ⟨rfl, hends⟩

theorem shortBody?_append (hq : q ≠ '\\') (h : shortBody? q (cs ++ tail) = some (body, rest)) :
    (∃ last, shortBody? q cs = some (body, last) ∧ rest = last ++ tail) ∨
      shortBody? q cs = none ∧ EndsLiteral q tail := by
  fun_induction shortBody? q cs generalizing body rest with
  | case1 => exact .inr ⟨rfl, 0, by omega, .inl (by rw [List.nil_append] at h; simp [h])⟩
  | case2 c cs ih =>
    rw [List.cons_append, List.cons_append, shortBody?] at h
    obtain ⟨⟨inside, last⟩, hcs, heq⟩ := Option.map_eq_some_iff.1 h
    obtain ⟨rfl, rfl⟩ := Prod.mk.inj heq
    exact exists_or_none ['\\', c] (ih hcs)
  | case3 cs hpair =>
    rw [List.cons_append, shortBody?_cons hq, if_pos rfl] at h
    obtain ⟨rfl, rfl⟩ := Prod.mk.inj (Option.some.inj h)
    exact .inl ⟨cs, rfl, rfl⟩
  | case4 c cs hpair hc hb =>
    -- the text ends the line or ends with a backslash, which takes the next character
    refine .inr ⟨rfl, ?_⟩
    rcases hb with rfl | rfl
    · rw [List.cons_append, shortBody?_cons (by decide), if_neg hc, if_pos (.inl rfl)] at h
      exact absurd h nofun
    · cases cs with
      | cons d ds => exact absurd rfl (hpair d ds rfl)
      | nil =>
        rw [List.cons_append, List.nil_append] at h
        cases tail with
        | nil =>
          rw [shortBody?, if_neg hc, if_pos (.inr rfl)] at h
          · exact absurd h nofun
          · exact fun _ _ _ => nofun
        | cons d tail =>
          rw [shortBody?] at h
          obtain ⟨r, hr, -⟩ := Option.map_eq_some_iff.1 h
          exact ⟨1, le_rfl, .inl (by rw [List.drop_one, List.tail_cons, hr]; rfl)⟩
  | case5 c cs hpair hc hb ih =>
    rw [List.cons_append, shortBody?_cons (not_or.1 hb).2, if_neg hc, if_neg hb] at h
    obtain ⟨⟨inside, last⟩, hcs, heq⟩ := Option.map_eq_some_iff.1 h
    obtain ⟨rfl, rfl⟩ := Prod.mk.inj heq
    exact exists_or_none [c] (ih hcs)

/-- A long literal that begins less than three characters before a bracket goes on behind it. -/
theorem EndsLiteral.of_longBody? (hq : q ≠ ')') (hcs : cs.length < 3)
    (h : (longBody? q (cs ++ ')' :: tail)).isSome) : EndsLiteral q (')' :: tail) := by
  induction cs with
  | nil => exact ⟨0, by omega, .inr h⟩
  | cons a cs ih =>
    by_cases ha : a = '\\'
    · subst ha
      cases cs with
      | nil =>
        rw [List.cons_append, List.nil_append, longBody?, Option.isSome_map] at h
        exact ⟨1, le_rfl, .inr h⟩
      | cons b cs =>
        obtain rfl : cs = [] := List.length_eq_zero_iff.1 (by simp at hcs; omega)
        rw [List.cons_append, List.cons_append, longBody?, Option.isSome_map] at h
        exact ⟨0, by omega, .inr h⟩
    · refine ih (by simp at hcs; omega) ?_
      match cs, hcs with
      | [], _ =>
        cases tail with
        | nil =>
          rw [List.cons_append, List.nil_append, longBody?] at h
          · exact absurd h nofun
          · exact nofun
          · exact fun _ _ heq => ha (List.cons.inj heq).1
          · exact nofun
        | cons d tail =>
          rw [List.cons_append, List.nil_append, longBody?_cons ha, if_neg (fun h => hq h.2.1.symm),
            if_neg ha, Option.isSome_map] at h
          exact h
      | [b], _ =>
        rw [List.cons_append, List.cons_append, List.nil_append, longBody?_cons ha,
          if_neg (fun h => hq h.2.2.symm), if_neg ha, Option.isSome_map] at h
        exact h

theorem longBody?_append (hq : q ≠ ')') (h : longBody? q (cs ++ ')' :: tail) = some (body, rest)) :
    (∃ last, longBody? q cs = some (body, last) ∧ rest = last ++ ')' :: tail) ∨
      longBody? q cs = none ∧ EndsLiteral q (')' :: tail) := by
  fun_induction longBody? q cs generalizing body rest with
  | case1 => exact .inr ⟨rfl, .of_longBody? hq (by simp) (Option.isSome_of_eq_some h)⟩
  | case2 c cs ih =>
    rw [List.cons_append, List.cons_append, longBody?] at h
    obtain ⟨⟨inside, last⟩, hcs, heq⟩ := Option.map_eq_some_iff.1 h
    obtain ⟨rfl, rfl⟩ := Prod.mk.inj heq
    exact exists_or_none ['\\', c] (ih hcs)
  | case3 a b c cs hslash hquotes =>
    simp only [List.cons_append, longBody?_cons hslash, if_pos hquotes] at h
    obtain ⟨rfl, rfl⟩ := Prod.mk.inj (Option.some.inj h)
    exact .inl ⟨cs, rfl, rfl⟩
  | case4 b c cs hslash => exact absurd rfl hslash
  | case5 a b c cs hslash hquotes ha ih =>
    simp only [List.cons_append, longBody?_cons hslash, if_neg hquotes, if_neg ha] at h
    obtain ⟨⟨inside, last⟩, hcs, heq⟩ := Option.map_eq_some_iff.1 h
    obtain ⟨rfl, rfl⟩ := Prod.mk.inj heq
    exact exists_or_none [a] (ih hcs)
  | case6 cs _ _ hshort =>
    refine .inr ⟨rfl, .of_longBody? hq ?_ (Option.isSome_of_eq_some h)⟩
    match cs, hshort with
    | [], _ | [_], _ | [_, _], _ => simp
    | a :: b :: c :: cs, hshort => exact (hshort a b c cs rfl).elim

/-- Whether a literal has three quotes is known before a bracket. -/
theorem body?_append (hq : q ≠ ')') (hslash : q ≠ '\\')
    (h : body? q (cs ++ ')' :: tail) = some (body, rest)) :
    (∃ last, body? q cs = some (body, last) ∧ rest = last ++ ')' :: tail) ∨
      body? q cs = none ∧ EndsLiteral q (')' :: tail) := by
  have hshort {ds more : List Char} (hds : body? q ds = shortBody? q ds)
      (hmore : body? q (ds ++ more) = shortBody? q (ds ++ more))
      (h : body? q (ds ++ more) = some (body, rest)) :
      (∃ last, body? q ds = some (body, last) ∧ rest = last ++ more) ∨
        body? q ds = none ∧ EndsLiteral q more := by
    rw [hds]
    exact shortBody?_append hslash (hmore ▸ h)
  match cs with
  | [] =>
    refine hshort rfl ?_ h
    cases tail with
    | nil => rfl
    | cons d tail => exact if_neg fun h => hq h.1.symm
  | [a] => exact hshort rfl (if_neg fun h => hq h.2.symm) h
  | a :: b :: cs =>
    by_cases hquotes : a = q ∧ b = q
    · have heq (ds : List Char) : body? q (a :: b :: ds) = longBody? q ds := if_pos hquotes
      simp only [List.cons_append, heq] at h ⊢
      exact longBody?_append hq h
    · exact hshort (if_neg hquotes) (if_neg hquotes) h

/-! ### Tokens -/

/-- A word does not run over a closing bracket. -/
theorem takeWhile_append (cs tail : List Char) :
    (cs ++ ')' :: tail).takeWhile isWordLike = cs.takeWhile isWordLike := by
  induction cs with
  | nil => exact List.takeWhile_cons_of_neg (by decide)
  | cons c cs ih => rw [List.cons_append, List.takeWhile_cons, List.takeWhile_cons, ih]

theorem dropWhile_append (cs tail : List Char) :
    (cs ++ ')' :: tail).dropWhile isWordLike = cs.dropWhile isWordLike ++ ')' :: tail := by
  induction cs with
  | nil => exact List.dropWhile_cons_of_neg (by decide)
  | cons c cs ih =>
    rw [List.cons_append, List.dropWhile_cons, List.dropWhile_cons, ih]
    split <;> rfl

/-- A string literal begins that does not end. -/
def OpensLiteral (cs : List Char) : Prop :=
  ∃ w q more, cs = w ++ q :: more ∧ w ∈ [[], ['r'], ['R'], ['u'], ['U']] ∧ (q = '"' ∨ q = '\'') ∧
    body? q more = none

variable {t : Token}

theorem stringLiteral?_eq (raw : Bool) (q : Char) (cs : List Char) :
    stringLiteral? raw q cs = (body? q cs).bind fun r =>
      (if raw then some r.1 else Text.unescape r.1).bind fun value => some (String.ofList value, r.2) := by
  cases raw <;> rfl

/-- A string literal does not run over a closing bracket, unless it is not ended before. -/
theorem stringLiteral?_append {raw : Bool} {s : String} (hq : q = '"' ∨ q = '\'')
    (h : stringLiteral? raw q (cs ++ ')' :: tail) = some (s, rest)) :
    (∃ last, stringLiteral? raw q cs = some (s, last) ∧ rest = last ++ ')' :: tail) ∨
      body? q cs = none ∧ EndsLiteral q (')' :: tail) := by
  have hbracket : q ≠ ')' := by rcases hq with rfl | rfl <;> decide
  have hslash : q ≠ '\\' := by rcases hq with rfl | rfl <;> decide
  rw [stringLiteral?_eq] at h ⊢
  obtain ⟨⟨body, last⟩, hbody, h⟩ := Option.bind_eq_some_iff.1 h
  obtain ⟨value, hvalue, heq⟩ := Option.bind_eq_some_iff.1 h
  obtain ⟨rfl, rfl⟩ := Prod.mk.inj (Option.some.inj heq)
  rcases body?_append hbracket hslash hbody with ⟨left, hleft, rfl⟩ | hopen
  · refine .inl ⟨left, ?_, rfl⟩
    rw [hleft, Option.bind_some, hvalue]
    rfl
  · exact .inr hopen

/-- **A token does not run over a closing bracket**, unless it is a string literal that is not ended
before. -/
theorem token?_append (h : token? (cs ++ ')' :: tail) = some (t, rest)) (hcs : cs ≠ []) :
    (∃ last, token? cs = some (t, last) ∧ rest = last ++ ')' :: tail) ∨
      OpensLiteral cs ∧ ∃ q, (q = '"' ∨ q = '\'') ∧ EndsLiteral q (')' :: tail) := by
  cases cs with
  | nil => exact absurd rfl hcs
  | cons c cs =>
    rw [List.cons_append, token?] at h
    rw [token?]
    by_cases hquote : c = '"' ∨ c = '\''
    · rw [if_pos hquote] at h ⊢
      obtain ⟨⟨s, left⟩, hs, heq⟩ := Option.map_eq_some_iff.1 h
      obtain ⟨rfl, rfl⟩ := Prod.mk.inj heq
      rcases stringLiteral?_append hquote hs with ⟨last, hlast, rfl⟩ | ⟨hopen, hends⟩
      · exact .inl ⟨last, by rw [hlast]; rfl, rfl⟩
      · exact .inr ⟨⟨[], c, cs, rfl, by decide, hquote, hopen⟩, c, hquote, hends⟩
    rw [if_neg hquote, head?_append] at h
    rw [if_neg hquote]
    by_cases hnumber : (c.isDigit || (c == '.' && (cs.head?).any Char.isDigit)) = true
    · rw [if_pos hnumber] at h ⊢
      rw [← List.cons_append, numeral?_append] at h
      obtain ⟨r, hr, heq⟩ := Option.map_eq_some_iff.1 h
      obtain ⟨⟨number, left⟩, hnumber, rfl⟩ := Option.map_eq_some_iff.1 hr
      obtain ⟨rfl, rfl⟩ := Prod.mk.inj heq
      exact .inl ⟨left, by rw [hnumber]; rfl, rfl⟩
    rw [if_neg hnumber] at h ⊢
    by_cases hword : isWordLike c = true
    · rw [if_pos hword] at h ⊢
      rw [← List.cons_append, takeWhile_append, dropWhile_append] at h
      -- `w` are the letters, which can begin a literal if a quote follows
      have hparts := List.takeWhile_append_dropWhile (p := isWordLike) (l := c :: cs)
      generalize (c :: cs).takeWhile isWordLike = w at h hparts ⊢
      generalize (c :: cs).dropWhile isWordLike = left at h hparts ⊢
      rw [← hparts]
      cases left with
      | nil =>
        simp only [List.nil_append] at h ⊢
        rw [if_neg (fun hquote => absurd hquote.1 (by decide))] at h
        obtain ⟨hname, heq⟩ := Option.ite_none_right_eq_some.1 h
        obtain ⟨rfl, rfl⟩ := Prod.mk.inj (Option.some.inj heq)
        exact .inl ⟨[], if_pos hname, rfl⟩
      | cons q more =>
        simp only [List.cons_append] at h ⊢
        by_cases hliteral : (q = '"' ∨ q = '\'') ∧ (w = ['r'] ∨ w = ['R'] ∨ w = ['u'] ∨ w = ['U'])
        · rw [if_pos hliteral] at h ⊢
          obtain ⟨⟨s, left⟩, hs, heq⟩ := Option.map_eq_some_iff.1 h
          obtain ⟨rfl, rfl⟩ := Prod.mk.inj heq
          rcases stringLiteral?_append hliteral.1 hs with ⟨last, hlast, rfl⟩ | ⟨hopen, hends⟩
          · exact .inl ⟨last, by rw [hlast]; rfl, rfl⟩
          · have hw : w ∈ [[], ['r'], ['R'], ['u'], ['U']] := List.mem_cons_of_mem _ (by simpa using hliteral.2)
            exact .inr ⟨⟨w, q, more, rfl, hw, hliteral.1, hopen⟩, q, hliteral.1, hends⟩
        · rw [if_neg hliteral] at h ⊢
          obtain ⟨hname, heq⟩ := Option.ite_none_right_eq_some.1 h
          obtain ⟨rfl, rfl⟩ := Prod.mk.inj (Option.some.inj heq)
          exact .inl ⟨q :: more, if_pos hname, rfl⟩
    · rw [if_neg hword] at h ⊢
      rw [← List.cons_append, markToken?_append] at h
      obtain ⟨⟨mark, left⟩, hmark, heq⟩ := Option.map_eq_some_iff.1 h
      obtain ⟨rfl, rfl⟩ := Prod.mk.inj heq
      exact .inl ⟨left, hmark, rfl⟩

end TokenTemplate.Payload
