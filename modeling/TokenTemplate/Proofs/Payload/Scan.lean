import TokenTemplate.Proofs.Payload.Boundary

/-!
# Reading inside brackets

What a payload is made of by itself is told by `TokenTemplate.Payload.Scans`, which reads a text one piece
after another as it is read inside brackets, where line breaks count as blanks, and keeps only the
brackets that the text has opened itself. So it gets stuck where the text closes a bracket that it
has not opened (`TokenTemplate.Payload.Escapes`), or where a comment or a string literal begins that does
not end with the text (`TokenTemplate.Payload.RunsOn`).

The main result is `TokenTemplate.Payload.rowFrom?_append`: where a text is followed by the bracket that closes the
one before it, reading both is reading the text by itself and then the bracket, unless the text gets
stuck.
-/

namespace TokenTemplate.Payload

/-! ### Brackets -/

/-- The brackets to close after a token: none if the token closes another one than the innermost. -/
def shift? (closers : List String) (t : Token) : Option (List String) :=
  match closerOf? t with
  | some closer => some (closer :: closers)
  | none =>
    if isCloser t then
      match closers with
      | closer :: closers => if t = .mark closer then some closers else none
      | [] => none
    else some closers

/-- The brackets to close after some tokens. -/
def track? (closers : List String) (ts : List Token) : Option (List String) :=
  ts.foldlM shift? closers

variable {closers : List String} {ts us : List Token} {t : Token}

theorem shift?_opener {closer : String} (h : closerOf? t = some closer) :
    shift? closers t = some (closer :: closers) := by
  unfold shift?
  rw [h]

theorem shift?_closer {closer : String} (h : closerOf? t = none) (hcloser : isCloser t = true)
    (ht : t = .mark closer) : shift? (closer :: closers) t = some closers := by
  unfold shift?
  rw [h]
  simp only [if_pos hcloser, if_pos ht]

theorem shift?_other (h : closerOf? t = none) (hcloser : ¬ isCloser t = true) :
    shift? closers t = some closers := by
  unfold shift?
  rw [h]
  simp only [if_neg hcloser]

/-- **A token opens a bracket, closes the innermost one or leaves the brackets alone.** -/
theorem shift?_cases {after : List String} (h : shift? closers t = some after) :
    (∃ closer, closerOf? t = some closer ∧ after = closer :: closers) ∨
      closerOf? t = none ∧ (isCloser t = true ∧ (∃ closer, t = .mark closer ∧ closers = closer :: after) ∨
        ¬ isCloser t = true ∧ after = closers) := by
  unfold shift? at h
  cases hopener : closerOf? t with
  | some closer =>
    rw [hopener] at h
    exact .inl ⟨closer, rfl, (Option.some.inj h).symm⟩
  | none =>
    rw [hopener] at h
    dsimp only at h
    split at h
    · next hcloser =>
      cases closers with
      | nil => exact absurd h nofun
      | cons closer closers =>
        obtain ⟨ht, heq⟩ := Option.ite_none_right_eq_some.1 h
        obtain rfl := Option.some.inj heq
        exact .inr ⟨rfl, .inl ⟨hcloser, closer, ht, rfl⟩⟩
    · next hcloser => exact .inr ⟨rfl, .inr ⟨hcloser, (Option.some.inj h).symm⟩⟩

/-- Brackets that are open further out make no difference. -/
theorem shift?_append {after : List String} (h : shift? closers t = some after) (outer : List String) :
    shift? (closers ++ outer) t = some (after ++ outer) := by
  rcases shift?_cases h with ⟨closer, hopener, rfl⟩ | ⟨hopener, ⟨hcloser, closer, ht, rfl⟩ | ⟨hcloser, rfl⟩⟩
  · exact shift?_opener hopener
  · exact shift?_closer hopener hcloser ht
  · exact shift?_other hopener hcloser

/-- A bracket that is open further out is closed only if no other one is open. -/
theorem shift?_of_append {outer after : List String} (h : shift? (closers ++ outer) t = some after)
    (hopen : closers ≠ [] ∨ isCloser t = false) :
    ∃ inner, shift? closers t = some inner ∧ after = inner ++ outer := by
  rcases shift?_cases h with ⟨closer, hopener, rfl⟩ | ⟨hopener, ⟨hcloser, closer, ht, heq⟩ | ⟨hcloser, rfl⟩⟩
  · exact ⟨closer :: closers, shift?_opener hopener, rfl⟩
  · cases closers with
    | nil =>
      rcases hopen with hnil | hother
      · exact absurd rfl hnil
      · exact absurd (hcloser.symm.trans hother) nofun
    | cons c closers =>
      obtain ⟨rfl, rfl⟩ := List.cons.inj heq
      exact ⟨closers, shift?_closer hopener hcloser ht, rfl⟩
  · exact ⟨closers, shift?_other hopener hcloser, rfl⟩

@[simp] theorem track?_nil (closers : List String) : track? closers [] = some closers :=
  rfl

@[simp] theorem track?_cons (closers : List String) (t : Token) (ts : List Token) :
    track? closers (t :: ts) = (shift? closers t).bind (track? · ts) :=
  rfl

theorem track?_append (closers : List String) (ts us : List Token) :
    track? closers (ts ++ us) = (track? closers ts).bind (track? · us) :=
  List.foldlM_append

theorem track?_append_outer {after : List String} (h : track? closers ts = some after)
    (outer : List String) : track? (closers ++ outer) ts = some (after ++ outer) := by
  induction ts generalizing closers with
  | nil =>
    obtain rfl := Option.some.inj h
    rfl
  | cons t ts ih =>
    obtain ⟨middle, hshift, htrack⟩ := Option.bind_eq_some_iff.1 h
    rw [track?_cons, shift?_append hshift, Option.bind_some]
    exact ih htrack

/-! ### Pieces -/

/-- Whether a character stands for nothing inside brackets. -/
def isGap (c : Char) : Bool :=
  c == ' ' || c == '\t' || c == '\x0c' || c == '\n'

/-- **The next piece of a text inside brackets**, with the token that it is, if it is one: a blank, a
line break, a comment up to its line break, a joined line, or a token. -/
def piece? (closers : List String) : List Char → Option (List Token × List String × List Char)
  | [] => none
  | c :: cs =>
    if isGap c then some ([], closers, cs)
    else if c = '#' then some ([], closers, cs.dropWhile (· != '\n'))
    else if c = '\\' then (if cs.head? = some '\n' then some ([], closers, cs.tail) else none)
    else (token? (c :: cs)).bind fun r => (shift? closers r.1).map fun after => ([r.1], after, r.2)

/-- **A text is read piece after piece** up to some rest. -/
inductive Scans : List String → List Char → List Token → List String → List Char → Prop
  /-- No piece is read. -/
  | refl (closers : List String) (cs : List Char) : Scans closers cs [] closers cs
  /-- A piece is read, and then others. -/
  | step {closers middle after : List String} {cs rest last : List Char} {ts us : List Token} :
    piece? closers cs = some (ts, middle, rest) → Scans middle rest us after last →
      Scans closers cs (ts ++ us) after last

/-- What is read of a text by at most `fuel` pieces. -/
def scan : (fuel : Nat) → List String → List Char → List Token × List String × List Char
  | 0, closers, cs => ([], closers, cs)
  | fuel + 1, closers, cs =>
    match piece? closers cs with
    | none => ([], closers, cs)
    | some (ts, after, rest) =>
      let r := scan fuel after rest
      (ts ++ r.1, r.2)

theorem scans_scan (fuel : Nat) (closers : List String) (cs : List Char) :
    Scans closers cs (scan fuel closers cs).1 (scan fuel closers cs).2.1 (scan fuel closers cs).2.2 := by
  induction fuel generalizing closers cs with
  | zero => exact .refl closers cs
  | succ fuel ih =>
    rw [scan]
    split
    · exact .refl closers cs
    · next h => exact .step h (ih _ _)

theorem Scans.of_scan (fuel : Nat) {cs rest : List Char} {after : List String}
    (h : scan fuel closers cs = (ts, after, rest)) : Scans closers cs ts after rest := by
  have hscan := scans_scan fuel closers cs
  rwa [h] at hscan

/-- **A piece is nothing or a token**, and brackets are opened and closed by tokens only. -/
theorem piece?_cases {cs rest : List Char} {after : List String}
    (h : piece? closers cs = some (ts, after, rest)) :
    ts = [] ∧ after = closers ∨ ∃ t, ts = [t] ∧ shift? closers t = some after := by
  cases cs with
  | nil => exact absurd h nofun
  | cons c cs =>
    have hnothing {last : List Char} (h : some ([], closers, last) = some (ts, after, rest)) :
        ts = [] ∧ after = closers := by
      obtain ⟨hts, hafter⟩ := Prod.mk.inj (Option.some.inj h)
      exact ⟨hts.symm, (Prod.mk.inj hafter).1.symm⟩
    rw [piece?] at h
    split_ifs at h
    · exact .inl (hnothing h)
    · exact .inl (hnothing h)
    · exact .inl (hnothing h)
    · obtain ⟨⟨t, last⟩, -, h⟩ := Option.bind_eq_some_iff.1 h
      obtain ⟨middle, hshift, h⟩ := Option.map_eq_some_iff.1 h
      obtain ⟨rfl, hafter⟩ := Prod.mk.inj h
      exact .inr ⟨t, rfl, (Prod.mk.inj hafter).1 ▸ hshift⟩

theorem piece?_track {cs rest : List Char} {after : List String}
    (h : piece? closers cs = some (ts, after, rest)) : track? closers ts = some after := by
  rcases piece?_cases h with ⟨rfl, rfl⟩ | ⟨t, rfl, hshift⟩
  · rfl
  · rw [track?_cons, hshift]
    rfl

/-- **The brackets that are open after reading** are those that the tokens leave open. -/
theorem Scans.track {cs rest : List Char} {after : List String}
    (h : Scans closers cs ts after rest) : track? closers ts = some after := by
  induction h with
  | refl => rfl
  | step hpiece _ ih =>
    rw [track?_append, piece?_track hpiece]
    exact ih

/-! ### Where reading gets stuck -/

/-- A character that closes a bracket. -/
def closes (c : Char) : Bool :=
  c == ')' || c == ']' || c == '\x7d'

/-- **A text closes a bracket that it has not opened**, those of `closers` being open before. -/
def EscapesFrom (closers : List String) (cs : List Char) : Prop :=
  ∃ ts c rest, Scans closers cs ts [] (c :: rest) ∧ closes c = true

/-- A comment begins that no line break ends. -/
def OpensComment (cs : List Char) : Prop :=
  ∃ more, cs = '#' :: more ∧ '\n' ∉ more

/-- A closing bracket is one character. -/
theorem closes_of_markToken? {c : Char} {cs rest : List Char}
    (h : markToken? (c :: cs) = some (t, rest)) (ht : isCloser t = true) : closes c = true := by
  rw [markToken?] at h
  split at h
  · next m hm =>
    have hlong : ∀ m ∈ longMarks, isCloser (.mark m) = false := by decide
    obtain ⟨rfl, -⟩ := Prod.mk.inj (Option.some.inj h)
    exact absurd (ht.symm.trans (hlong m (List.mem_of_find?_eq_some hm))) nofun
  · have hshort : shortMarks.all (fun c => !isCloser (.mark (String.singleton c)) || closes c) := by
      decide
    obtain ⟨hc, heq⟩ := Option.ite_none_right_eq_some.1 h
    obtain ⟨rfl, -⟩ := Prod.mk.inj (Option.some.inj heq)
    have hcloses := List.all_eq_true.1 hshort c (List.contains_iff_mem.1 hc)
    rwa [ht, Bool.not_true, Bool.false_or] at hcloses

theorem closes_of_token? {c : Char} {cs rest : List Char} (h : token? (c :: cs) = some (t, rest))
    (ht : isCloser t = true) : closes c = true := by
  -- only marks close a bracket
  have hother {α : Type} {o : Option (α × List Char)} {token : α → Token} {last : List Char}
      (htoken : ∀ x, isCloser (token x) = false)
      (h : o.map (fun r => (token r.1, r.2)) = some (t, last)) : closes c = true := by
    obtain ⟨r, -, heq⟩ := Option.map_eq_some_iff.1 h
    obtain ⟨rfl, -⟩ := Prod.mk.inj heq
    exact absurd (ht.symm.trans (htoken _)) nofun
  have hword {w : List Char} {last : List Char}
      (h : (if isName w then some (Token.word (String.ofList w), last) else none) = some (t, rest)) :
      closes c = true := by
    obtain ⟨-, heq⟩ := Option.ite_none_right_eq_some.1 h
    obtain ⟨rfl, -⟩ := Prod.mk.inj (Option.some.inj heq)
    exact absurd ht nofun
  rw [token?] at h
  split at h
  · exact hother (fun _ => rfl) h
  split at h
  · exact hother (fun _ => rfl) h
  split at h
  · dsimp only at h
    split at h
    · split at h
      · exact hother (fun _ => rfl) h
      · exact hword h
    · exact hword h
  · exact closes_of_markToken? h ht

/-- **A row is read piece after piece**, where a bracket is open. -/
theorem rowFrom?_cons {fuel : Nat} {c : Char} {cs : List Char} {last : Option (List Char)}
    (hopen : closers = [] → c ≠ '\n') (h : rowFrom? (fuel + 1) closers (c :: cs) = some (us, last)) :
    ∃ ts after rest vs, piece? closers (c :: cs) = some (ts, after, rest) ∧ us = ts ++ vs ∧
      rowFrom? fuel after rest = some (vs, last) := by
  -- white space is a piece of no tokens
  have hgap (hgap : isGap c = true) (h : rowFrom? fuel closers cs = some (us, last)) :
      ∃ ts after rest vs, piece? closers (c :: cs) = some (ts, after, rest) ∧ us = ts ++ vs ∧
        rowFrom? fuel after rest = some (vs, last) :=
    ⟨[], closers, cs, us, by rw [piece?, if_pos hgap], rfl, h⟩
  rw [rowFrom?.eq_def] at h
  dsimp only at h
  by_cases hblank : c = ' ' ∨ c = '\t' ∨ c = '\x0c'
  · rw [if_pos hblank] at h
    exact hgap (by rcases hblank with rfl | rfl | rfl <;> rfl) h
  rw [if_neg hblank] at h
  by_cases hline : c = '\n'
  · rw [if_pos hline] at h
    split at h
    · next hempty => exact absurd hline (hopen (List.isEmpty_iff.1 hempty))
    · exact hgap (hline ▸ rfl) h
  rw [if_neg hline] at h
  have hnot : ¬ isGap c = true := by
    simpa [isGap, and_assoc, hline] using hblank
  by_cases hcomment : c = '#'
  · rw [if_pos hcomment] at h
    exact ⟨[], closers, _, us, by rw [piece?, if_neg hnot, if_pos hcomment], rfl, h⟩
  rw [if_neg hcomment] at h
  by_cases hslash : c = '\\'
  · rw [if_pos hslash] at h
    split at h
    · next cs =>
      refine ⟨[], closers, cs, us, ?_, rfl, h⟩
      rw [piece?, if_neg hnot, if_neg hcomment, if_pos hslash]
      rfl
    · exact absurd h nofun
  rw [if_neg hslash] at h
  -- what is left is a token, and the brackets are those after it
  obtain ⟨⟨t, rest⟩, htoken, h⟩ := Option.bind_eq_some_iff.1 h
  have hpiece {after : List String} (hshift : shift? closers t = some after) :
      piece? closers (c :: cs) = some ([t], after, rest) := by
    rw [piece?, if_neg hnot, if_neg hcomment, if_neg hslash, htoken, Option.bind_some, hshift]
    rfl
  have hrow {o : Option (List String)} (ho : ∀ after, o = some after → shift? closers t = some after)
      (h : (o.bind fun after => (rowFrom? fuel after rest).bind fun r => some (t :: r.1, r.2)) =
        some (us, last)) :
      ∃ ts after rest vs, piece? closers (c :: cs) = some (ts, after, rest) ∧ us = ts ++ vs ∧
        rowFrom? fuel after rest = some (vs, last) := by
    obtain ⟨after, hafter, h⟩ := Option.bind_eq_some_iff.1 h
    obtain ⟨⟨vs, last'⟩, hvs, heq⟩ := Option.bind_eq_some_iff.1 h
    obtain ⟨rfl, rfl⟩ := Prod.mk.inj (Option.some.inj heq)
    exact ⟨[t], after, rest, vs, hpiece (ho after hafter), rfl, hvs⟩
  cases hopener : closerOf? t with
  | some closer =>
    simp only [hopener] at h
    split at h
    · exact hrow (fun after hafter => (shift?_opener hopener).trans hafter) h
    · exact absurd h nofun
  | none =>
    simp only [hopener] at h
    split at h
    · next hcloser =>
      cases closers with
      | nil => exact absurd h nofun
      | cons closer closers =>
        dsimp only at h
        split at h
        · next heq => exact hrow (fun after hafter => (shift?_closer hopener hcloser heq).trans hafter) h
        · exact absurd h nofun
    · next hcloser => exact hrow (fun after hafter => (shift?_other hopener hcloser).trans hafter) h

/-! ### A text before its bracket -/

/-- **Ways to read a row of tokens that begins with a text** and the bracket that closes the one before it.
The brackets of `closers` have been opened by the text so far. -/
inductive Split (closers : List String) (cs tail : List Char) (us : List Token)
    (last : Option (List Char)) : Prop
  /-- The text closes a bracket that it has not opened. -/
  | escapes (h : EscapesFrom closers cs)
  /-- The text ends in a comment, and reading goes on in the next line. -/
  | comment {ts vs : List Token} {after : List String} {rest : List Char} {fuel : Nat}
    (hscan : Scans closers cs ts after rest) (hopen : OpensComment rest) (hus : us = ts ++ vs)
    (hvs : rowFrom? fuel (after ++ [")"]) (tail.dropWhile (· != '\n')) = some (vs, last))
  /-- The text ends inside a string literal, which what follows can end. -/
  | literal {ts : List Token} {after : List String} {rest : List Char} {q : Char}
    (hscan : Scans closers cs ts after rest) (hopen : OpensLiteral rest) (hq : q = '"' ∨ q = '\'')
    (hends : EndsLiteral q (')' :: tail))
  /-- The text is read to its end, and then the bracket, which closes the innermost one. -/
  | ends {ts vs : List Token} {after : List String} {fuel : Nat} (hscan : Scans closers cs ts after [])
    (hus : us = ts ++ .mark ")" :: vs) (hvs : rowFrom? fuel (after ++ [")"]).tail tail = some (vs, last))

variable {cs tail rest : List Char} {last : Option (List Char)} {after : List String}

theorem Split.step {before : List String} {ds : List Char} {vs : List Token}
    (h : Split closers cs tail us last) (hpiece : piece? before ds = some (vs, closers, cs)) :
    Split before ds tail (vs ++ us) last := by
  cases h with
  | escapes h =>
    obtain ⟨ts, c, rest, hscan, hc⟩ := h
    exact .escapes ⟨vs ++ ts, c, rest, .step hpiece hscan, hc⟩
  | comment hscan hopen hus hvs =>
    exact .comment (.step hpiece hscan) hopen (by rw [hus, List.append_assoc]) hvs
  | literal hscan hopen hq hends => exact .literal (.step hpiece hscan) hopen hq hends
  | ends hscan hus hvs => exact .ends (.step hpiece hscan) (by rw [hus, List.append_assoc]) hvs

theorem dropWhile_ne_append {c : Char} (h : c ∈ cs) (ds : List Char) :
    (cs ++ ds).dropWhile (· != c) = cs.dropWhile (· != c) ++ ds := by
  induction cs with
  | nil => exact absurd h List.not_mem_nil
  | cons d cs ih =>
    rw [List.cons_append, List.dropWhile_cons, List.dropWhile_cons]
    split
    · next hne => exact ih ((List.mem_cons.1 h).resolve_left fun heq => by simp [heq] at hne)
    · rfl

/-- **A piece does not run over a closing bracket**, unless it is a comment or a string literal that is not
ended before. -/
theorem piece?_append (hcs : cs ≠ [])
    (h : piece? (closers ++ [")"]) (cs ++ ')' :: tail) = some (ts, after, rest)) :
    (∃ middle left, piece? closers cs = some (ts, middle, left) ∧ after = middle ++ [")"] ∧
      rest = left ++ ')' :: tail) ∨
    EscapesFrom closers cs ∨
    (OpensComment cs ∧ ts = [] ∧ after = closers ++ [")"] ∧ rest = tail.dropWhile (· != '\n')) ∨
    OpensLiteral cs ∧ ∃ q, (q = '"' ∨ q = '\'') ∧ EndsLiteral q (')' :: tail) := by
  cases cs with
  | nil => exact absurd rfl hcs
  | cons c cs =>
    rw [List.cons_append, piece?] at h
    rw [piece?]
    by_cases hgap : isGap c = true
    · rw [if_pos hgap] at h ⊢
      obtain ⟨rfl, rfl, rfl⟩ : [] = ts ∧ closers ++ [")"] = after ∧ cs ++ ')' :: tail = rest := by
        simpa using h
      exact .inl ⟨closers, cs, rfl, rfl, rfl⟩
    -- a comment that is not ended before the bracket goes on behind it
    rw [if_neg hgap] at h ⊢
    by_cases hcomment : c = '#'
    · rw [if_pos hcomment] at h ⊢
      obtain ⟨rfl, rfl, rfl⟩ : [] = ts ∧ closers ++ [")"] = after ∧
          (cs ++ ')' :: tail).dropWhile (· != '\n') = rest := by simpa using h
      by_cases hline : '\n' ∈ cs
      · exact .inl ⟨closers, _, rfl, rfl, dropWhile_ne_append hline _⟩
      · refine .inr (.inr (.inl ⟨⟨cs, by rw [hcomment], hline⟩, rfl, rfl, ?_⟩))
        have hall : ∀ d ∈ cs ++ [')'], (d != '\n') = true := by
          intro d hd
          rcases List.mem_append.1 hd with hd | hd
          · exact bne_iff_ne.2 fun heq => hline (heq ▸ hd)
          · obtain rfl := List.mem_singleton.1 hd
            rfl
        have hskip : (cs ++ [')'] ++ tail).dropWhile (· != '\n') = tail.dropWhile (· != '\n') :=
          List.dropWhile_append_of_pos hall
        rwa [List.append_assoc] at hskip
    rw [if_neg hcomment] at h ⊢
    by_cases hslash : c = '\\'
    · rw [if_pos hslash] at h ⊢
      cases cs with
      | nil => exact absurd h (by simp)
      | cons d cs =>
        obtain ⟨hd, heq⟩ := Option.ite_none_right_eq_some.1 h
        obtain ⟨rfl, rfl, rfl⟩ : [] = ts ∧ closers ++ [")"] = after ∧ cs ++ ')' :: tail = rest := by
          simpa using heq
        exact .inl ⟨closers, cs, if_pos hd, rfl, rfl⟩
    rw [if_neg hslash] at h ⊢
    obtain ⟨⟨t, left⟩, htoken, h⟩ := Option.bind_eq_some_iff.1 h
    obtain ⟨middle, hshift, heq⟩ := Option.map_eq_some_iff.1 h
    obtain ⟨rfl, rfl, rfl⟩ : [t] = ts ∧ middle = after ∧ left = rest := by simpa using heq
    -- a token of the whole text is one of the first part, unless a literal is still open
    rcases token?_append htoken hcs with ⟨last, hlast, rfl⟩ | hopen
    · by_cases hclose : closers ≠ [] ∨ isCloser t = false
      · obtain ⟨inner, hinner, rfl⟩ := shift?_of_append hshift hclose
        refine .inl ⟨inner, last, ?_, rfl, rfl⟩
        rw [hlast, Option.bind_some, hinner]
        rfl
      -- no bracket of the first part is open, so the token closes the one before it
      · obtain ⟨hnil, hcloser⟩ := not_or.1 hclose
        obtain rfl := not_not.1 hnil
        exact .inr (.inl ⟨[], c, cs, .refl _ _, closes_of_token? hlast (by simpa using hcloser)⟩)
    · exact .inr (.inr (.inr hopen))

/-- **Reading a text before the bracket that closes the one before it.** -/
theorem rowFrom?_append {fuel : Nat}
    (h : rowFrom? fuel (closers ++ [")"]) (cs ++ ')' :: tail) = some (us, last)) :
    Split closers cs tail us last := by
  induction fuel generalizing closers cs us with
  | zero => cases cs <;> exact absurd h nofun
  | succ fuel ih =>
    have hopen (hnil : closers ++ [")"] = []) : False := by simp at hnil
    cases cs with
    | nil =>
      obtain ⟨ts, after, rest, vs, hpiece, rfl, hvs⟩ := rowFrom?_cons (fun h => (hopen h).elim) h
      have hbracket : piece? (closers ++ [")"]) (')' :: tail) =
          (shift? (closers ++ [")"]) (.mark ")")).map fun after => ([.mark ")"], after, tail) := rfl
      obtain ⟨middle, hshift, heq⟩ := Option.map_eq_some_iff.1 (hbracket.symm.trans hpiece)
      obtain ⟨rfl, rfl, rfl⟩ : [.mark ")"] = ts ∧ middle = after ∧ tail = rest := by simpa using heq
      refine .ends (.refl _ _) rfl (?_ : rowFrom? fuel _ _ = _)
      rcases shift?_cases hshift with ⟨_, hopener, -⟩ | ⟨-, ⟨-, _, -, heq⟩ | ⟨hother, -⟩⟩
      · exact absurd hopener nofun
      · rw [heq]
        exact hvs
      · exact absurd rfl hother
    | cons c cs =>
      obtain ⟨ts, after, rest, vs, hpiece, rfl, hvs⟩ := rowFrom?_cons (fun h => (hopen h).elim) h
      rcases piece?_append (List.cons_ne_nil c cs) hpiece with
        ⟨middle, left, hlocal, rfl, rfl⟩ | hescapes | ⟨hcomment, rfl, rfl, rfl⟩ | ⟨hliteral, q, hq, hends⟩
      · exact (ih hvs).step hlocal
      · exact .escapes hescapes
      · exact .comment (.refl _ _) hcomment rfl hvs
      · exact .literal (.refl _ _) hliteral hq hends

end TokenTemplate.Payload
