import TokenTemplate.Proofs.Token.Filling
import TokenTemplate.Template.Interpolation

/-!
# Doubling every sigil

A text is escaped by writing every sigil twice, `TokenTemplate.doubled`. This is compatible with all
that a text goes through when it is read, as long as there are no quotes in it: a sigil is no part
of any other token, so tokens stay what they are and only move to the right,
`TokenTemplate.doubledOffset`, and the token of a sigil becomes two that touch.

So the token tree of an escaped text is known in advance. It is the tree of the text with the tokens
moved and the sigils doubled, `TokenTemplate.Tree.allDoubled`, and this is the statement
`TokenTemplate.Tree.ofSource_doubled`. Gaps between tokens hold no sigils, and are the same in both
texts (`TokenTemplate.slice_doubled`).
-/

namespace TokenTemplate

/-! ### Doubled texts -/

/-- A text with every sigil written twice. -/
def doubled (cs : List Char) : List Char :=
  cs.flatMap fun c => if c = sigil then [sigil, sigil] else [c]

/-- A text without quotes. -/
def Unquoted (cs : List Char) : Prop :=
  '"' ∉ cs ∧ '\'' ∉ cs

section Doubled

variable {c : Char} {cs ds : List Char}

theorem doubled_append (cs ds : List Char) : doubled (cs ++ ds) = doubled cs ++ doubled ds :=
  List.flatMap_append

theorem doubled_cons_sigil (cs : List Char) :
    doubled (sigil :: cs) = sigil :: sigil :: doubled cs := by
  rw [doubled, List.flatMap_cons, if_pos rfl]
  rfl

theorem doubled_cons (hc : c ≠ sigil) (cs : List Char) : doubled (c :: cs) = c :: doubled cs := by
  rw [doubled, List.flatMap_cons, if_neg hc]
  rfl

theorem doubled_eq_self (h : sigil ∉ cs) : doubled cs = cs := by
  induction cs with
  | nil => rfl
  | cons c cs ih =>
    rw [List.mem_cons, not_or] at h
    rw [doubled_cons (Ne.symm h.1), ih h.2]

/-- What a doubled text begins with, the text begins with. -/
theorem exists_cons_of_doubled (hc : c ≠ sigil) (h : doubled cs = c :: ds) :
    ∃ rest, cs = c :: rest ∧ ds = doubled rest := by
  cases cs with
  | nil => exact absurd h (by simp [doubled])
  | cons c' rest =>
    by_cases hc' : c' = sigil
    · rw [hc', doubled_cons_sigil] at h
      exact absurd (List.cons.inj h).1.symm hc
    · rw [doubled_cons hc'] at h
      obtain ⟨rfl, rfl⟩ := List.cons.inj h
      exact ⟨rest, rfl, rfl⟩

theorem Unquoted.of_cons (h : Unquoted (c :: cs)) : c ≠ '"' ∧ c ≠ '\'' ∧ Unquoted cs := by
  obtain ⟨hdouble, hsingle⟩ := h
  rw [List.mem_cons, not_or] at hdouble hsingle
  exact ⟨Ne.symm hdouble.1, Ne.symm hsingle.1, hdouble.2, hsingle.2⟩

theorem Unquoted.of_isPrefix {n : Nat} (h : Unquoted cs) (hpre : ds <+: cs.drop n) : Unquoted ds :=
  ⟨fun hmem => h.1 (List.mem_of_mem_drop (hpre.subset hmem)),
    fun hmem => h.2 (List.mem_of_mem_drop (hpre.subset hmem))⟩

theorem Unquoted.drop (h : Unquoted cs) (n : Nat) : Unquoted (cs.drop n) :=
  ⟨fun hmem => h.1 (List.mem_of_mem_drop hmem), fun hmem => h.2 (List.mem_of_mem_drop hmem)⟩

end Doubled

/-! ### Tokens of a doubled text -/

section Munch

variable {c : Char} {cs : List Char}

theorem isWord_sigil : Unicode.isWord sigil = false := by decide

theorem ne_sigil_of_isWord (h : Unicode.isWord c = true) : c ≠ sigil := by
  rintro rfl
  rw [isWord_sigil] at h
  exact Bool.noConfusion h

theorem openChar_ne_sigil (d : Delimiter) : d.openChar ≠ sigil := by
  cases d <;> decide

theorem closeChar_ne_sigil (d : Delimiter) : d.closeChar ≠ sigil := by
  cases d <;> decide

theorem sigil_notMem_of_isRun {w : List Char} (hw : IsRun w) : sigil ∉ w :=
  fun hmem => ne_sigil_of_isWord (hw sigil hmem) rfl

/-- **A sigil is no part of another token**, except between quotes. -/
theorem sigil_notMem_of_spells {k : LexemeKind} {text : List Char} (h : Spells k text)
    (hquote : Unquoted text) (hne : text ≠ [sigil]) : sigil ∉ text := by
  cases h with
  | string => exact absurd List.mem_cons_self hquote.1
  | character => exact absurd List.mem_cons_self hquote.2
  | escaped => exact absurd List.mem_cons_self hquote.2
  | number hd hw =>
    have hhead := ne_sigil_of_isWord (Unicode.isWord_of_isDecimal hd)
    exact List.not_mem_cons_of_ne_of_not_mem hhead.symm (sigil_notMem_of_isRun hw)
  | decimal hd hw he hv =>
    have hhead := ne_sigil_of_isWord (Unicode.isWord_of_isDecimal hd)
    have hdigit := ne_sigil_of_isWord (Unicode.isWord_of_isDecimal he)
    have hpoint : sigil ≠ '.' := by decide
    simp [hhead.symm, hdigit.symm, hpoint, sigil_notMem_of_isRun hw, sigil_notMem_of_isRun hv]
  | name hc _ hw =>
    exact List.not_mem_cons_of_ne_of_not_mem (ne_sigil_of_isWord hc).symm (sigil_notMem_of_isRun hw)
  | punct => exact fun hmem => hne (by rw [List.mem_singleton.1 hmem])
  | opening d => exact fun hmem => openChar_ne_sigil d (List.mem_singleton.1 hmem).symm
  | closing d => exact fun hmem => closeChar_ne_sigil d (List.mem_singleton.1 hmem).symm

theorem takeWhile_doubled (cs : List Char) :
    (doubled cs).takeWhile Unicode.isWord = cs.takeWhile Unicode.isWord := by
  induction cs with
  | nil => rfl
  | cons c cs ih =>
    by_cases hc : c = sigil
    · rw [hc, doubled_cons_sigil, List.takeWhile_cons, List.takeWhile_cons, isWord_sigil]
      rfl
    · rw [doubled_cons hc, List.takeWhile_cons, List.takeWhile_cons, ih]

theorem dropWhile_doubled (cs : List Char) :
    (doubled cs).dropWhile Unicode.isWord = doubled (cs.dropWhile Unicode.isWord) := by
  induction cs with
  | nil => rfl
  | cons c cs ih =>
    by_cases hc : c = sigil
    · rw [hc, doubled_cons_sigil, List.dropWhile_cons, List.dropWhile_cons, isWord_sigil]
      exact (doubled_cons_sigil cs).symm
    · rw [doubled_cons hc, List.dropWhile_cons, List.dropWhile_cons, ih]
      split
      · rfl
      · exact (doubled_cons hc cs).symm

/-- A number takes in a point only if a digit follows it. -/
theorem numberRest_of_point {d : Char} {rest : List Char}
    (h : cs.dropWhile Unicode.isWord = '.' :: d :: rest) (hd : Unicode.isDecimal d = true) :
    numberRest cs = (cs.takeWhile Unicode.isWord ++ '.' :: d :: rest.takeWhile Unicode.isWord,
      rest.dropWhile Unicode.isWord) := by
  rw [numberRest, h]
  exact if_pos hd

theorem numberRest_of_no_point
    (h : ∀ d rest, cs.dropWhile Unicode.isWord = '.' :: d :: rest → Unicode.isDecimal d = false) :
    numberRest cs = (cs.takeWhile Unicode.isWord, cs.dropWhile Unicode.isWord) := by
  unfold numberRest
  split
  · next d rest heq =>
    rw [h d rest heq, heq]
    rfl
  · rfl

/-- A number ends at the same place, since neither a sigil nor its double is a digit. -/
theorem numberRest_doubled (cs : List Char) :
    numberRest (doubled cs) = ((numberRest cs).1, doubled (numberRest cs).2) := by
  have hpoint : '.' ≠ sigil := by decide
  by_cases h : ∃ d rest, cs.dropWhile Unicode.isWord = '.' :: d :: rest ∧ Unicode.isDecimal d = true
  · obtain ⟨d, rest, hdrop, hd⟩ := h
    have hne := ne_sigil_of_isWord (Unicode.isWord_of_isDecimal hd)
    have hdrop' : (doubled cs).dropWhile Unicode.isWord = '.' :: d :: doubled rest := by
      rw [dropWhile_doubled, hdrop, doubled_cons hpoint, doubled_cons hne]
    rw [numberRest_of_point hdrop hd, numberRest_of_point hdrop' hd, takeWhile_doubled,
      takeWhile_doubled, dropWhile_doubled]
  · have hno (d : Char) (rest : List Char)
        (hdrop : cs.dropWhile Unicode.isWord = '.' :: d :: rest) : Unicode.isDecimal d = false :=
      Bool.eq_false_iff.2 fun hd => h ⟨d, rest, hdrop, hd⟩
    rw [numberRest_of_no_point hno, numberRest_of_no_point, takeWhile_doubled, dropWhile_doubled]
    -- a digit after a point in the doubled text is one in the text itself
    intro d rest hdrop
    rw [dropWhile_doubled] at hdrop
    refine Bool.eq_false_iff.2 fun hd => ?_
    have hne := ne_sigil_of_isWord (Unicode.isWord_of_isDecimal hd)
    obtain ⟨more, hcs, hmore⟩ := exists_cons_of_doubled hpoint hdrop
    obtain ⟨more', rfl, -⟩ := exists_cons_of_doubled hne hmore.symm
    exact h ⟨d, more', hcs, hd⟩

/-- **The token that begins a doubled text** is the token that begins the text, unless it is a
sigil. -/
theorem munch_doubled {k : LexemeKind} {text rest : List Char} (hquote : Unquoted (c :: cs))
    (hne : c ≠ sigil) (h : munch (c :: cs) = some (k, text, rest)) :
    munch (doubled (c :: cs)) = some (k, text, doubled rest) := by
  rw [doubled_cons hne]
  obtain ⟨hdouble, hsingle, -⟩ := hquote.of_cons
  rcases char_cases c with rfl | ⟨d, rfl⟩ | ⟨d, rfl⟩ | hd | ⟨hd, hw⟩ | ⟨hw, -, ho, hc⟩
  · exact absurd rfl hdouble
  · rw [munch_openChar] at h ⊢
    obtain ⟨rfl, rfl, rfl⟩ := by simpa using h
    rfl
  · rw [munch_closeChar] at h ⊢
    obtain ⟨rfl, rfl, rfl⟩ := by simpa using h
    rfl
  · rw [munch_of_isDecimal hd] at h ⊢
    obtain ⟨rfl, rfl, rfl⟩ := by simpa using h
    rw [numberRest_doubled]
  · rw [munch_of_isWord hd hw] at h ⊢
    obtain ⟨rfl, rfl, rfl⟩ := by simpa using h
    rw [takeWhile_doubled, dropWhile_doubled]
  · rw [munch_of_not_isWord hw hdouble ho hc, if_neg hsingle] at h ⊢
    split at h
    · exact absurd h (Option.some_ne_none _).symm
    · next hblank =>
      obtain ⟨rfl, rfl, rfl⟩ := by simpa using h
      rw [if_neg hblank]

/-- A sigil is a token by itself. -/
theorem munch_sigil (cs : List Char) : munch (sigil :: cs) = some (.leaf .punct, [sigil], cs) := by
  rw [munch_of_not_isWord isWord_sigil (by decide) (fun d => (openChar_ne_sigil d).symm)
    fun d => (closeChar_ne_sigil d).symm]
  rfl

end Munch

/-! ### Where tokens move to -/

/-- **Where an offset of a text moves to** in the doubled text. -/
def doubledOffset (source : List Char) (n : Nat) : Nat :=
  (doubled (source.take n)).length

section Offset

variable {source : List Char} {a b : Nat} {c : Char}

theorem doubledOffset_length (source : List Char) :
    doubledOffset source source.length = (doubled source).length := by
  rw [doubledOffset, List.take_length]

theorem doubled_eq_append (source : List Char) (n : Nat) :
    doubled source = doubled (source.take n) ++ doubled (source.drop n) := by
  rw [← doubled_append, List.take_append_drop]

theorem take_doubled (source : List Char) (n : Nat) :
    (doubled source).take (doubledOffset source n) = doubled (source.take n) := by
  rw [doubled_eq_append source n, doubledOffset, List.take_left]

theorem drop_doubled (source : List Char) (n : Nat) :
    (doubled source).drop (doubledOffset source n) = doubled (source.drop n) := by
  rw [doubled_eq_append source n, doubledOffset, List.drop_left]

theorem doubled_take_slice (h : a ≤ b) :
    doubled (source.take b) = doubled (source.take a) ++ doubled (slice source a b) := by
  have hsplit : slice source 0 a ++ slice source a b = slice source 0 b :=
    slice_append (Nat.zero_le a) h
  rw [← doubled_append]
  exact congrArg doubled hsplit.symm

/-- Offsets move further apart by the sigils between them. -/
theorem doubledOffset_eq_add (h : a ≤ b) :
    doubledOffset source b = doubledOffset source a + (doubled (slice source a b)).length := by
  rw [doubledOffset, doubledOffset, doubled_take_slice h, List.length_append]

theorem doubledOffset_mono (h : a ≤ b) : doubledOffset source a ≤ doubledOffset source b := by
  rw [doubledOffset_eq_add h]
  exact Nat.le_add_right _ _

/-- **The piece between two offsets** is doubled. -/
theorem slice_doubled (h : a ≤ b) :
    slice (doubled source) (doubledOffset source a) (doubledOffset source b) =
      doubled (slice source a b) := by
  rw [slice, take_doubled, doubled_take_slice h, doubledOffset, List.drop_left]

theorem doubledOffset_succ (hc : source[a]? = some c) (hne : c ≠ sigil) :
    doubledOffset source (a + 1) = doubledOffset source a + 1 := by
  rw [doubledOffset_eq_add (Nat.le_succ a), slice_succ hc, doubled_cons hne]
  rfl

theorem doubledOffset_succ_sigil (hc : source[a]? = some sigil) :
    doubledOffset source (a + 1) = doubledOffset source a + 2 := by
  rw [doubledOffset_eq_add (Nat.le_succ a), slice_succ hc, doubled_cons_sigil]
  rfl

/-- The character at an offset stays the same. -/
theorem getElem?_doubled (hc : source[a]? = some c) :
    (doubled source)[doubledOffset source a]? = some c := by
  have hhead : ((doubled source).drop (doubledOffset source a))[0]? =
      (doubled source)[doubledOffset source a + 0]? := List.getElem?_drop
  rw [drop_doubled, drop_eq_cons hc] at hhead
  refine hhead.symm.trans ?_
  by_cases hne : c = sigil
  · rw [hne, doubled_cons_sigil]
    rfl
  · rw [doubled_cons hne]
    rfl

/-- After a sigil there is another one. -/
theorem getElem?_doubled_succ (hc : source[a]? = some sigil) :
    (doubled source)[doubledOffset source a + 1]? = some sigil := by
  have hnext : ((doubled source).drop (doubledOffset source a))[1]? =
      (doubled source)[doubledOffset source a + 1]? := List.getElem?_drop
  rw [drop_doubled, drop_eq_cons hc, doubled_cons_sigil] at hnext
  exact hnext.symm

theorem sigil_notMem_of_isGapRun {cs : List Char} (h : IsGapRun cs) : sigil ∉ cs := by
  intro hmem
  exact absurd (h sigil hmem) (by decide)

/-- **Gaps are the same in both texts.** -/
theorem slice_doubled_of_isGapRun (h : a ≤ b) (hgap : IsGapRun (slice source a b)) :
    slice (doubled source) (doubledOffset source a) (doubledOffset source b) =
      slice source a b := by
  rw [slice_doubled h, doubled_eq_self (sigil_notMem_of_isGapRun hgap)]

/-- A text without a sigil is as long as before. -/
theorem doubledOffset_add_length {text : List Char} (h : text <+: source.drop a)
    (hsigil : sigil ∉ text) :
    doubledOffset source (a + text.length) = doubledOffset source a + text.length := by
  rw [doubledOffset_eq_add (Nat.le_add_right a _), slice_of_isPrefix h, doubled_eq_self hsigil]

/-- A text without a sigil is found again where it has moved to. -/
theorem isPrefix_doubled {text : List Char} (h : text <+: source.drop a) (hsigil : sigil ∉ text) :
    text <+: (doubled source).drop (doubledOffset source a) := by
  obtain ⟨rest, hrest⟩ := h
  rw [drop_doubled, ← hrest, doubled_append, doubled_eq_self hsigil]
  exact List.prefix_append _ _

end Offset

/-! ### The reading of a doubled text -/

/-- What becomes of a token: two sigils of a sigil, and a token that has moved of any other one. -/
def Mark.doubled (source : List Char) (m : Mark) : List Mark :=
  let start := doubledOffset source m.start
  if m.text = [sigil] then
    [⟨.leaf .punct, [sigil], start, start + 1⟩, ⟨.leaf .punct, [sigil], start + 1, start + 2⟩]
  else [⟨m.kind, m.text, start, doubledOffset source m.stop⟩]

section Reading

variable {source : List Char} {i : Nat} {marks : List Mark}

theorem Begins.doubled {c : Char} {cs : List Char} {k : LexemeKind} {text : List Char}
    (hquote : Unquoted (c :: cs)) (hne : c ≠ sigil) (h : Begins (c :: cs) k text) :
    Begins (doubled (c :: cs)) k text :=
  (munch_eq_some_iff.1 (munch_doubled hquote hne h.munch_eq)).1

theorem begins_sigil (cs : List Char) : Begins (sigil :: cs) (.leaf .punct) [sigil] :=
  (munch_eq_some_iff.1 (munch_sigil cs)).1

/-- A token that begins with another character has no sigil in it. -/
theorem Begins.sigil_notMem {c : Char} {cs : List Char} {k : LexemeKind} {text : List Char}
    (hquote : Unquoted (c :: cs)) (hne : c ≠ sigil) (h : Begins (c :: cs) k text) :
    text ≠ [sigil] ∧ sigil ∉ text := by
  have hpre := h.isPrefix
  have htext : text ≠ [sigil] := by
    rintro rfl
    exact hne (List.cons_prefix_cons.1 hpre).1.symm
  exact ⟨htext, sigil_notMem_of_spells h.spells
    ⟨fun hmem => hquote.1 (hpre.subset hmem), fun hmem => hquote.2 (hpre.subset hmem)⟩ htext⟩

/-- **The reading of a doubled text.** -/
theorem Reads.doubled {stop : Option Nat} (hquote : Unquoted source) (h : Reads source i marks stop)
    (hstop : stop = none) :
    Reads (doubled source) (doubledOffset source i) (marks.flatMap (Mark.doubled source)) none := by
  induction h with
  | done =>
    rw [doubledOffset_length]
    exact .done
  | @gap i c marks stop hc hgap _ ih =>
    have hne : c ≠ sigil := by
      rintro rfl
      exact absurd hgap (by decide)
    refine .gap (getElem?_doubled hc) hgap ?_
    rw [← doubledOffset_succ hc hne]
    exact ih hstop
  | @token i c k text marks stop hc hgap hbegins _ ih =>
    have hrest := ih hstop
    have hdrop := drop_doubled source i
    rw [drop_eq_cons hc] at hbegins hdrop
    rw [List.flatMap_cons, Mark.doubled]
    by_cases hsigil : c = sigil
    · -- the token of a sigil becomes two
      subst hsigil
      obtain ⟨rfl, rfl⟩ := hbegins.unique (begins_sigil _)
      rw [doubled_cons_sigil] at hdrop
      have hsecond : (TokenTemplate.doubled source).drop (doubledOffset source i + 1) =
          sigil :: TokenTemplate.doubled (source.drop (i + 1)) := by
        rw [← List.drop_drop, hdrop]
        rfl
      rw [if_pos rfl]
      refine .token (getElem?_doubled hc) hgap (hdrop ▸ begins_sigil _) ?_
      refine .token (getElem?_doubled_succ hc) hgap (hsecond ▸ begins_sigil _) ?_
      rw [List.length_singleton, doubledOffset_succ_sigil hc] at hrest
      exact hrest
    · have hquote' : Unquoted (c :: source.drop (i + 1)) := by
        rw [← drop_eq_cons hc]
        exact hquote.drop i
      obtain ⟨hne, hnot⟩ := hbegins.sigil_notMem hquote' hsigil
      have hmoved := doubledOffset_add_length (drop_eq_cons hc ▸ hbegins.isPrefix) hnot
      rw [if_neg hne, hmoved]
      rw [hmoved] at hrest
      exact .token (getElem?_doubled hc) hgap (hdrop ▸ hbegins.doubled hquote' hsigil) hrest
  | stray => exact absurd hstop (Option.some_ne_none _)

end Reading

/-! ### The tree of a doubled text -/

/-- The token of a sigil at an offset. -/
def Tree.sigilAt (source : List Char) (n : Nat) : Tree :=
  .leaf ⟨.punct, String.singleton sigil, .between source n (n + 1)⟩

namespace Tree

theorem toList_sigil : (String.singleton sigil).toList = [sigil] := rfl

theorem marks_sigilAt (source : List Char) (n : Nat) :
    marks (sigilAt source n) = [⟨.leaf .punct, [sigil], n, n + 1⟩] := by
  rw [sigilAt, marks, toList_sigil]
  rfl

mutual

/-- What becomes of a token, with all tokens inside it. -/
def doubled (source : List Char) : Tree → List Tree
  | leaf l =>
    let start := doubledOffset source l.span.startPos
    if l.text.toList = [sigil] then
      [sigilAt (TokenTemplate.doubled source) start,
        sigilAt (TokenTemplate.doubled source) (start + 1)]
    else
      [leaf ⟨l.kind, l.text, .between (TokenTemplate.doubled source) start
        (doubledOffset source l.span.stopPos)⟩]
  | group d children s =>
    [group d (allDoubled source children) (.between (TokenTemplate.doubled source)
      (doubledOffset source s.startPos) (doubledOffset source s.stopPos))]

/-- What becomes of a row of tokens. -/
def allDoubled (source : List Char) : List Tree → List Tree
  | [] => []
  | t :: ts => doubled source t ++ allDoubled source ts

end

theorem anyTooDeep?_append {room : Int} (ts us : List Tree) :
    anyTooDeep? room (ts ++ us) = (anyTooDeep? room ts).or (anyTooDeep? room us) := by
  induction ts with
  | nil => rfl
  | cons t ts ih => rw [List.cons_append, anyTooDeep?, anyTooDeep?, ih, Option.or_assoc]

mutual

/-- Doubling leaves groups as deep as they are. -/
theorem anyTooDeep?_doubled {room : Int} (source : List Char) : (t : Tree) →
    tooDeep? room t = none → anyTooDeep? room (doubled source t) = none
  | leaf l, _ => by
    rw [doubled]
    split <;> rfl
  | group d children s, h => by
    rw [tooDeep?] at h
    split at h
    · exact absurd h (Option.some_ne_none s)
    · next hroom =>
      rw [doubled, anyTooDeep?, tooDeep?, if_neg hroom, anyTooDeep?_allDoubled source children h]
      rfl

theorem anyTooDeep?_allDoubled {room : Int} (source : List Char) : (ts : List Tree) →
    anyTooDeep? room ts = none → anyTooDeep? room (allDoubled source ts) = none
  | [], _ => rfl
  | t :: ts, h => by
    rw [anyTooDeep?, Option.or_eq_none_iff] at h
    rw [allDoubled, anyTooDeep?_append, anyTooDeep?_doubled source t h.1,
      anyTooDeep?_allDoubled source ts h.2]
    rfl

end

end Tree

section Fills

variable {source : List Char} {i j : Nat} {ts : List Tree}

/-- A sigil before a filling. -/
theorem Fills.sigilAt {n : Nat} (hi : i ≤ n) (hgap : IsGapRun (slice source i n))
    (hc : source[n]? = some sigil) (h : Fills source (n + 1) ts j) :
    Fills source i (Tree.sigilAt source n :: ts) j := by
  refine .leaf (b := n + 1) hi hgap ?_ ?_ ?_ rfl h
  · rw [Tree.toList_sigil]
    exact (begins_sigil []).spells
  · rw [Tree.toList_sigil, drop_eq_cons hc]
    exact List.prefix_append [sigil] _
  · rw [Tree.toList_sigil, List.length_singleton]

/-- **The doubled tree fills the doubled text.** -/
theorem Fills.doubled (hquote : Unquoted source) (h : Fills source i ts j) :
    Fills (doubled source) (doubledOffset source i) (Tree.allDoubled source ts)
      (doubledOffset source j) := by
  have hmove {a b : Nat} (hab : a ≤ b) (hgap : IsGapRun (slice source a b)) :
      IsGapRun (slice (TokenTemplate.doubled source) (doubledOffset source a)
        (doubledOffset source b)) := by
    rwa [slice_doubled_of_isGapRun hab hgap]
  induction h with
  | nil hij hj hgap =>
    refine .nil (doubledOffset_mono hij) ?_ (hmove hij hgap)
    rw [← doubledOffset_length]
    exact doubledOffset_mono hj
  | @leaf i j a b l ts hi hgap hspells hpre hb hspan h ih =>
    have hstart : l.span.startPos = a := congrArg Span.startPos hspan
    have hstop : l.span.stopPos = b := congrArg Span.stopPos hspan
    rw [Tree.allDoubled, Tree.doubled]
    simp only [hstart, hstop]
    by_cases hsigil : l.text.toList = [sigil]
    · rw [hsigil] at hpre hb
      obtain rfl : b = a + 1 := hb
      have hc := getElem?_of_singleton_isPrefix hpre
      rw [doubledOffset_succ_sigil hc] at ih
      rw [if_pos hsigil]
      exact .sigilAt (doubledOffset_mono hi) (hmove hi hgap) (getElem?_doubled hc)
        (.sigilAt le_rfl isGapRun_slice_self (getElem?_doubled_succ hc) ih)
    · have hnot : sigil ∉ l.text.toList :=
        sigil_notMem_of_spells hspells (hquote.of_isPrefix hpre) hsigil
      have hb' : doubledOffset source b = doubledOffset source a + l.text.toList.length := by
        rw [hb, doubledOffset_add_length hpre hnot]
      rw [if_neg hsigil]
      exact .leaf (doubledOffset_mono hi) (hmove hi hgap) hspells (isPrefix_doubled hpre hnot) hb'
        rfl ih
  | @group i j a b d children ts span hi hgap hopen hclose hspan hchildren h ihc ih =>
    have hstart : span.startPos = a := congrArg Span.startPos hspan
    have hstop : span.stopPos = b + 1 := congrArg Span.stopPos hspan
    have hsuccclose := doubledOffset_succ hclose (closeChar_ne_sigil d)
    rw [doubledOffset_succ hopen (openChar_ne_sigil d)] at ihc
    rw [hsuccclose] at ih
    rw [Tree.allDoubled, Tree.doubled, List.singleton_append]
    simp only [hstart, hstop, hsuccclose]
    exact .group (doubledOffset_mono hi) (hmove hi hgap) (getElem?_doubled hopen)
      (getElem?_doubled hclose) rfl ihc ih

/-- **The doubled tree reads as the doubled row.** -/
theorem Fills.allMarks_doubled (h : Fills source i ts j) :
    Tree.allMarks (Tree.allDoubled source ts) =
      (Tree.allMarks ts).flatMap (Mark.doubled source) := by
  induction h with
  | nil => rfl
  | @leaf i j a b l ts hi hgap hspells hpre hb hspan h ih =>
    rw [Tree.allDoubled, Tree.allMarks_append, Tree.allMarks, List.flatMap_append, ih, Tree.doubled,
      Tree.marks, List.flatMap_singleton, Mark.doubled]
    simp only
    split
    · rw [Tree.allMarks, Tree.allMarks, Tree.marks_sigilAt, Tree.marks_sigilAt]
      rfl
    · rfl
  | @group i j a b d children ts span hi hgap hopen hclose hspan hchildren h ihc ih =>
    have hstart : span.startPos = a := congrArg Span.startPos hspan
    have hstop : span.stopPos = b + 1 := congrArg Span.stopPos hspan
    have hsuccopen := doubledOffset_succ hopen (openChar_ne_sigil d)
    have hsuccclose := doubledOffset_succ hclose (closeChar_ne_sigil d)
    -- delimiters are no sigils, so their marks have only moved
    have hopenmark : Mark.doubled source ⟨.opening d, [d.openChar], a, a + 1⟩ =
        [⟨.opening d, [d.openChar], doubledOffset source a, doubledOffset source a + 1⟩] := by
      rw [Mark.doubled, ← hsuccopen]
      exact if_neg fun heq => openChar_ne_sigil d (List.cons.inj heq).1
    have hclosemark : Mark.doubled source ⟨.closing d, [d.closeChar], b, b + 1⟩ =
        [⟨.closing d, [d.closeChar], doubledOffset source b, doubledOffset source b + 1⟩] := by
      rw [Mark.doubled, ← hsuccclose]
      exact if_neg fun heq => closeChar_ne_sigil d (List.cons.inj heq).1
    rw [Tree.allDoubled, Tree.allMarks_append, Tree.allMarks, List.flatMap_append, ih, Tree.doubled,
      Tree.allMarks, Tree.allMarks, Tree.marks, Tree.marks]
    simp only [hstart, hstop, hsuccclose, Nat.add_sub_cancel, Span.between, List.append_nil,
      List.flatMap_cons, List.flatMap_append, List.flatMap_nil, hopenmark, hclosemark, ihc,
      List.singleton_append]

/-- **The tree of a doubled text.** -/
theorem Tree.ofSource_doubled {settings : Settings} (hquote : Unquoted source)
    (h : Tree.ofSource settings source = .ok ts) :
    Tree.ofSource settings (TokenTemplate.doubled source) = .ok (Tree.allDoubled source ts) := by
  obtain ⟨hfills, hreads, hdepth⟩ := fills_of_ofSource h
  have hfills' := hfills.doubled hquote
  have hreads' := hreads.doubled hquote rfl
  rw [doubledOffset_length] at hfills'
  rw [← hfills.allMarks_doubled] at hreads'
  exact ofSource_of_fills hfills' hreads' (anyTooDeep?_allDoubled source ts hdepth)

end Fills

end TokenTemplate
