import TokenTemplate.SyntaxError
import TokenTemplate.Unicode.Alphanumeric
import TokenTemplate.Unicode.Digit

/-!
# Lexemes

The flat row of tokens that a source is cut into, before groups are formed. At each place at most one
token begins, and `TokenTemplate.munch` finds it: a string literal, a character literal, a number, a
word, a delimiter, or a single other character. Two rules look further ahead than their own token
reaches: a single quote is punctuation unless a character literal begins there, and a number takes in a
point only if a digit follows it.

`TokenTemplate.scan` repeats this to the end of the source, or to the first place where no token
begins. What it skips, `TokenTemplate.isGap`, is five characters and nothing else: other white space is
no part of a template.

What a token takes is a piece of the source, `TokenTemplate.munch_append`, and never the empty one.
-/

namespace TokenTemplate

/-- A character that may stand between tokens. -/
def isGap (c : Char) : Bool :=
  c == ' ' || c == '\t' || c == '\x0c' || c == '\r' || c == '\n'

/-! ### The text of one token -/

/-- What a row of tokens distinguishes. -/
inductive LexemeKind
  /-- A token without parts. -/
  | leaf (k : LeafKind)
  /-- The first delimiter of a group. -/
  | opening (d : Delimiter)
  /-- The second delimiter of a group. -/
  | closing (d : Delimiter)
  deriving DecidableEq, Repr, Inhabited

/-- The rest of a string literal after its first quote, up to and with the second one: on one line,
where a backslash takes the next character with it. -/
def stringRest? : List Char → Option (List Char × List Char)
  | [] => none
  | '"' :: cs => some (['"'], cs)
  | '\\' :: c :: cs =>
    if c = '\n' then none else (stringRest? cs).map fun r => ('\\' :: c :: r.1, r.2)
  | c :: cs =>
    if c = '\n' ∨ c = '\\' then none else (stringRest? cs).map fun r => (c :: r.1, r.2)

/-- The rest of a character literal after its first quote: one character, or a backslash, any
character and the word that follows. -/
def charRest? : List Char → Option (List Char × List Char)
  | '\\' :: c :: cs =>
    if c = '\n' then none
    else match cs.dropWhile Unicode.isWord with
      | '\'' :: rest => some ('\\' :: c :: (cs.takeWhile Unicode.isWord ++ ['\'']), rest)
      | _ => none
  | c :: '\'' :: cs => if c = '\'' ∨ c = '\\' ∨ c = '\n' then none else some ([c, '\''], cs)
  | _ => none

/-- What follows the first character of a number: the rest of its word, and after a point that a
digit follows another word. -/
def numberRest (cs : List Char) : List Char × List Char :=
  match cs.dropWhile Unicode.isWord with
  | '.' :: d :: rest =>
    if Unicode.isDecimal d then
      (cs.takeWhile Unicode.isWord ++ '.' :: d :: rest.takeWhile Unicode.isWord,
        rest.dropWhile Unicode.isWord)
    else (cs.takeWhile Unicode.isWord, '.' :: d :: rest)
  | rest => (cs.takeWhile Unicode.isWord, rest)

/-- **The token that begins a text**: its kind, its characters, and the rest of the text; `none` if no
token begins there. -/
def munch : List Char → Option (LexemeKind × List Char × List Char)
  | [] => none
  | c :: cs =>
    if c = '"' then (stringRest? cs).map fun r => (.leaf .string, c :: r.1, r.2)
    else match Delimiter.ofOpen? c, Delimiter.ofClose? c with
    | some d, _ => some (.opening d, [c], cs)
    | none, some d => some (.closing d, [c], cs)
    | none, none =>
      if Unicode.isDecimal c then
        some (.leaf .number, c :: (numberRest cs).1, (numberRest cs).2)
      else if Unicode.isWord c then
        some (.leaf .name, c :: cs.takeWhile Unicode.isWord, cs.dropWhile Unicode.isWord)
      else if Unicode.isBlank c then none
      else match (if c = '\'' then charRest? cs else none) with
        | some r => some (.leaf .char, c :: r.1, r.2)
        | none => some (.leaf .punct, [c], cs)

/-! ### What a token takes -/

theorem stringRest?_append {cs : List Char} {r : List Char × List Char}
    (h : stringRest? cs = some r) : r.1 ++ r.2 = cs ∧ r.1 ≠ [] := by
  fun_induction stringRest? cs generalizing r with
  | case1 => simp at h
  | case2 cs => simp_all [← Option.some.inj h]
  | case3 => simp at h
  | case4 c cs hc ih =>
    obtain ⟨r', hr', rfl⟩ := Option.map_eq_some_iff.1 h
    simp [(ih hr').1]
  | case5 => simp at h
  | case6 c cs _ _ _ ih =>
    obtain ⟨r', hr', rfl⟩ := Option.map_eq_some_iff.1 h
    simp [(ih hr').1]

theorem charRest?_append {cs : List Char} {r : List Char × List Char}
    (h : charRest? cs = some r) : r.1 ++ r.2 = cs ∧ r.1 ≠ [] := by
  unfold charRest? at h
  split at h
  · split at h
    · simp at h
    · split at h
      · next rest hrest =>
        obtain rfl := Option.some.inj h
        simp [← hrest]
      · simp at h
  · split at h
    · simp at h
    · obtain rfl := Option.some.inj h
      simp
  · simp at h

theorem numberRest_append (cs : List Char) : (numberRest cs).1 ++ (numberRest cs).2 = cs := by
  unfold numberRest
  split
  · next d rest h =>
    split
    · have := List.takeWhile_append_dropWhile (p := Unicode.isWord) (l := cs)
      rw [h] at this
      rw [List.append_assoc, List.cons_append, List.cons_append, List.takeWhile_append_dropWhile, this]
    · rw [← h, List.takeWhile_append_dropWhile]
  · rw [List.takeWhile_append_dropWhile]

/-- **A token is a piece of the text**, and never the empty one. -/
theorem munch_append {cs : List Char} {r : LexemeKind × List Char × List Char}
    (h : munch cs = some r) : r.2.1 ++ r.2.2 = cs ∧ r.2.1 ≠ [] := by
  cases cs with
  | nil => simp [munch] at h
  | cons c cs =>
    simp only [munch] at h
    split at h
    · obtain ⟨r', hr', rfl⟩ := Option.map_eq_some_iff.1 h
      simp [(stringRest?_append hr').1]
    · split at h
      · obtain rfl := Option.some.inj h; simp
      · obtain rfl := Option.some.inj h; simp
      · split at h
        · obtain rfl := Option.some.inj h; simp [numberRest_append]
        · split at h
          · obtain rfl := Option.some.inj h; simp
          · split at h
            · simp at h
            · split at h
              · next r' hr' =>
                obtain rfl := Option.some.inj h
                split at hr'
                · simp [(charRest?_append hr').1]
                · simp at hr'
              · obtain rfl := Option.some.inj h; simp

theorem munch_length_lt {cs : List Char} {r : LexemeKind × List Char × List Char}
    (h : munch cs = some r) : r.2.2.length < cs.length := by
  obtain ⟨happ, hne⟩ := munch_append h
  have : 0 < r.2.1.length := List.length_pos_iff.2 hne
  rw [← happ, List.length_append]
  omega

/-! ### The row of tokens -/

/-- A token with the place where it stands. -/
structure Lexeme where
  /-- What it is. -/
  kind : LexemeKind
  /-- Its characters. -/
  text : String
  /-- Where it stands. -/
  span : Span
  deriving DecidableEq, Repr, Inhabited

/-- The place after a text. -/
def Position.advanceAll (p : Position) (cs : List Char) : Position :=
  cs.foldl Position.advance p

/-- The span of a text that begins at a place. -/
def Span.ofText (start : Position) (pos : Nat) (cs : List Char) : Span :=
  ⟨start, start.advanceAll cs, pos, pos + cs.length⟩

/-- The place and the character where no token begins. -/
structure Stray where
  /-- The character. -/
  char : Char
  /-- Where it stands. -/
  position : Position
  /-- Its offset. -/
  pos : Nat
  deriving DecidableEq, Repr

/-- **The tokens of a text** that begins at a place, up to the first place where none begins. -/
def scanFrom (here : Position) (pos : Nat) (cs : List Char) : List Lexeme × Option Stray :=
  match cs with
  | [] => ([], none)
  | c :: cs' =>
    if isGap c then scanFrom (here.advance c) (pos + 1) cs'
    else match _h : munch (c :: cs') with
      | none => ([], some ⟨c, here, pos⟩)
      | some (kind, text, rest) =>
        let (row, stray) := scanFrom (here.advanceAll text) (pos + text.length) rest
        (⟨kind, String.ofList text, Span.ofText here pos text⟩ :: row, stray)
termination_by cs.length
decreasing_by
  · simp
  · exact munch_length_lt _h

/-- The tokens of a source. -/
def scan (source : List Char) : List Lexeme × Option Stray :=
  scanFrom Position.origin 0 source

end TokenTemplate
