import TokenTemplate.Proofs.Output.Layout
import TokenTemplate.Proofs.Routine.Encoder
import TokenTemplate.Proofs.Token.Filling

/-!
# A source in its own layout

What it means to write the tokens of a source as they stand, said of the source alone
(`TokenTemplate.verbatim`): each token is led by what the gap before it comes to
(`TokenTemplate.Word.lead`), and where it begins a line it is indented by the groups in curly
brackets around it.

The items that come to this are `TokenTemplate.itemsFrom`: a mark for each gap, and marks for the
levels inside curly brackets. The layout of these items is the tokens in their own layout
(`TokenTemplate.format_itemsFrom`).
-/

namespace TokenTemplate

/-! ### The words of a tree -/

/-- A token of a row, with the number of groups in curly brackets around it. -/
structure Word extends Mark where
  /-- How many such groups it stands in; the brackets of a group do not stand in it. -/
  braces : Nat

namespace Tree

/-- The number of groups in curly brackets around the inside of a group. -/
def bracesInside (d : Delimiter) (braces : Nat) : Nat :=
  if d = .brace then braces + 1 else braces

mutual

/-- The words of a token: itself, or its delimiters around the words of its children. -/
def words (braces : Nat) : Tree → List Word
  | leaf l => [⟨⟨.leaf l.kind, l.text.toList, l.span.startPos, l.span.stopPos⟩, braces⟩]
  | group d children s =>
    ⟨⟨.opening d, [d.openChar], s.startPos, s.startPos + 1⟩, braces⟩ ::
      (allWords (bracesInside d braces) children ++
        [⟨⟨.closing d, [d.closeChar], s.stopPos - 1, s.stopPos⟩, braces⟩])

/-- The words of a row of tokens. -/
def allWords (braces : Nat) : List Tree → List Word
  | [] => []
  | t :: ts => words braces t ++ allWords braces ts

end

mutual

/-- The words of a token are its marks. -/
theorem words_toMark (braces : Nat) : (t : Tree) → (words braces t).map Word.toMark = marks t
  | leaf l => rfl
  | group d children s => by
    rw [words, marks, List.map_cons, List.map_append, allWords_toMark]
    rfl

theorem allWords_toMark (braces : Nat) : (ts : List Tree) →
    (allWords braces ts).map Word.toMark = allMarks ts
  | [] => rfl
  | t :: ts => by
    rw [allWords, allMarks, List.map_append, words_toMark braces t, allWords_toMark braces ts]

end

end Tree

/-! ### What stands before a word -/

/-- **What stands before a word**: the indentation before the first one, and else what is written
for the gap after the word before, which ends at `last`. -/
def Word.lead (settings : Settings) (source : List Char) (last : Option Nat) (w : Word) : String :=
  let indentation := Layout.copies settings.indentation w.braces
  match last with
  | none => indentation
  | some p =>
    let gap := slice source p w.start
    if gap = [] then ""
    else match gap.count '\n' with
      | 0 => " "
      | 1 => settings.newline ++ indentation
      | _ => settings.newline ++ settings.newline ++ indentation

/-- Some words in the layout of their source. -/
def verbatimFrom (settings : Settings) (source : List Char) : Option Nat → List Word → String
  | _, [] => ""
  | last, w :: ws =>
    w.lead settings source last ++ String.ofList w.text ++
      verbatimFrom settings source (some w.stop) ws

/-- **The tokens of a source in its own layout.** -/
def verbatim (settings : Settings) (source : List Char) (ts : List Tree) : String :=
  verbatimFrom settings source none (Tree.allWords 0 ts)

/-! ### The items of some words -/

/-- The mark for the gap before a word. -/
def Word.gap? (source : List Char) (last : Option Nat) (w : Word) : Option Whitespace :=
  last.bind fun p => Whitespace.ofGap? (slice source p w.start)

/-- The items of a word without the gap before it. -/
def Word.items (w : Word) : List Item :=
  match w.kind with
  | .leaf _ => [.text (String.ofList w.text)]
  | .opening d => d.openingItems
  | .closing d => d.closingItems

/-- The items of some words. -/
def itemsFrom (source : List Char) : Option Nat → List Word → List Item
  | _, [] => []
  | last, w :: ws =>
    (w.gap? source last).toList.map .space ++ w.items ++ itemsFrom source (some w.stop) ws

/-- Where the last of some words ends. -/
def lastOf (last : Option Nat) (ws : List Word) : Option Nat :=
  ws.foldl (fun _ w => some w.stop) last

section Append

variable (settings : Settings) (source : List Char) (last : Option Nat) (ws vs : List Word)

theorem lastOf_append : lastOf last (ws ++ vs) = lastOf (lastOf last ws) vs :=
  List.foldl_append

theorem verbatimFrom_append :
    verbatimFrom settings source last (ws ++ vs) =
      verbatimFrom settings source last ws ++ verbatimFrom settings source (lastOf last ws) vs := by
  induction ws generalizing last with
  | nil => exact String.empty_append.symm
  | cons w ws ih =>
    rw [List.cons_append, verbatimFrom, ih, verbatimFrom, ← String.append_assoc]
    rfl

theorem itemsFrom_append :
    itemsFrom source last (ws ++ vs) =
      itemsFrom source last ws ++ itemsFrom source (lastOf last ws) vs := by
  induction ws generalizing last with
  | nil => rfl
  | cons w ws ih =>
    rw [List.cons_append, itemsFrom, ih, itemsFrom, ← List.append_assoc]
    rfl

theorem itemsFrom_singleton (w : Word) :
    itemsFrom source last [w] = (w.gap? source last).toList.map .space ++ w.items :=
  List.append_nil _

/-- A token ends where its last word ends. -/
theorem lastOf_words (braces : Nat) (t : Tree) :
    lastOf last (t.words braces) = some t.span.stopPos := by
  cases t with
  | leaf l => rfl
  | group d children s =>
    rw [Tree.words, ← List.cons_append, lastOf_append]
    rfl

theorem lastOf_ne_none {last : Option Nat} (h : last ≠ none) : lastOf last ws ≠ none := by
  induction ws generalizing last with
  | nil => exact h
  | cons w ws ih => exact ih (Option.some_ne_none _)

end Append

/-- After the last word there is a gap up to the end of what the words fill. -/
theorem Fills.gap_after {source : List Char} {i j : Nat} {ts : List Tree} {last : Option Nat}
    (braces : Nat) (h : Fills source i ts j) (hlast : ∀ p ∈ last, p = i) :
    ∀ p ∈ lastOf last (Tree.allWords braces ts), p ≤ j ∧ IsGapRun (slice source p j) := by
  induction h generalizing last with
  | nil hij _ hgap =>
    intro p hp
    obtain rfl := hlast p hp
    exact ⟨hij, hgap⟩
  | @leaf i j a b l ts _ _ _ _ _ hspan _ ih =>
    rw [Tree.allWords, lastOf_append, lastOf_words, Tree.span, hspan]
    exact ih fun p hp => (Option.some.inj hp).symm
  | @group i j a b d children ts span _ _ _ _ hspan _ _ _ ih =>
    rw [Tree.allWords, lastOf_append, lastOf_words, Tree.span, hspan]
    exact ih fun p hp => (Option.some.inj hp).symm

/-! ### The layout of these items -/

namespace Layout

/-- **What a layout shows**: a text, at some level, and whether a word has been written to it. -/
structure Shows (settings : Settings) (l : Layout) (last : Option Nat) (level : Nat)
    (text : String) : Prop where
  /-- Without a word nothing has been written. -/
  fresh : last = none → l.Fresh
  /-- Otherwise the last item was a text. -/
  begun : last ≠ none → l.Begun
  /-- The level of indentation. -/
  level_eq : l.level = level
  /-- The text. -/
  rendered_eq : rendered settings l = text

variable {settings : Settings} {l : Layout} {last : Option Nat} {level : Nat} {text : String}

theorem rendered_of_fresh (h : l.Fresh) : rendered settings l = "" := by
  rw [rendered_of_finished h.current_eq, h.done_eq]
  exact String.intercalate_nil

theorem lead_ofGap? (settings : Settings) (gap : List Char) (extra : List Whitespace)
    (hextra : ∀ w ∈ extra, w = .unindent) (level : Nat) :
    lead settings ((Whitespace.ofGap? gap).toList ++ extra) level =
      if gap = [] then ""
      else match gap.count '\n' with
        | 0 => " "
        | 1 => settings.newline ++ copies settings.indentation level
        | _ => settings.newline ++ settings.newline ++ copies settings.indentation level := by
  have hnot {w : Whitespace} (hw : w ≠ .unindent) : w ∉ extra := fun hmem => hw (hextra w hmem)
  have hline : Whitespace.line ∉ extra := hnot (by decide)
  have hpush : Whitespace.push ∉ extra := hnot (by decide)
  have hspace : Whitespace.space ∉ extra := hnot (by decide)
  rw [Whitespace.ofGap?, lead]
  split
  · simp [hline, hpush, hspace]
  · rcases gap.count '\n' with _ | _ | n <;> simp [hline, hpush, hspace]

theorem levelAfterMarks_ofGap? (gap : List Char) (extra : List Whitespace) (level : Nat) :
    levelAfterMarks level ((Whitespace.ofGap? gap).toList ++ extra) =
      levelAfterMarks level extra := by
  rw [Whitespace.ofGap?]
  split
  · rfl
  · split <;> rfl

/-- **A word is shown** after what stands before it. -/
theorem Shows.word (h : Shows settings l last level text) (source : List Char) (w : Word)
    (extra : List Whitespace) (hextra : ∀ m ∈ extra, m = .unindent)
    (hlast : last = none → extra = []) (hlevel : levelAfterMarks level extra = w.braces) :
    Shows settings
      (((w.gap? source last).toList.map Item.space ++ extra.map Item.space ++
        [Item.text (String.ofList w.text)]).foldl (step settings.indentation) l)
      (some w.stop) w.braces (text ++ w.lead settings source last ++ String.ofList w.text) := by
  obtain ⟨hfresh, hbegun, rfl, rfl⟩ := h
  rw [← List.map_append]
  -- before the first word there are no marks, since nothing is written for the gap there
  refine ⟨fun hnone => (by cases hnone), fun _ => begun_lead _ _ _ _, ?_, ?_⟩
  · rw [level_lead]
    cases last with
    | none =>
      rw [hlast rfl] at hlevel ⊢
      exact hlevel
    | some p =>
      rw [Word.gap?, Option.bind_some, levelAfterMarks_ofGap?]
      exact hlevel
  · cases last with
    | none =>
      rw [hlast rfl] at hlevel ⊢
      have hlead : w.lead settings source none = copies settings.indentation w.braces := rfl
      rw [Word.gap?, Option.bind_none, rendered_of_fresh (hfresh rfl), String.empty_append, hlead,
        ← hlevel]
      exact rendered_text_of_fresh (hfresh rfl) _
    | some p =>
      rw [rendered_lead (hbegun (Option.some_ne_none p)), Word.gap?, Option.bind_some,
        levelAfterMarks_ofGap?, lead_ofGap? settings _ extra hextra, hlevel]
      rfl

/-- A word that is not led by a change of the level. -/
theorem Shows.word_alone (h : Shows settings l last level text) (source : List Char) (w : Word)
    (hlevel : level = w.braces) :
    Shows settings
      (((w.gap? source last).toList.map Item.space ++ [Item.text (String.ofList w.text)]).foldl
        (step settings.indentation) l)
      (some w.stop) w.braces (text ++ w.lead settings source last ++ String.ofList w.text) := by
  have hword := h.word source w [] (List.forall_mem_nil _) (fun _ => rfl) hlevel
  rwa [List.map_nil, List.append_nil] at hword

/-- A change of the level after a word. -/
theorem Shows.indent (h : Shows settings l last level text) (hlast : last ≠ none) :
    Shows settings (step settings.indentation l (.space .indent)) last (level + 1) text := by
  obtain ⟨hne, hblank, hempty⟩ := h.begun hlast
  refine ⟨fun hnone => absurd hnone hlast, fun _ => ⟨hne, hblank, hempty⟩, ?_, ?_⟩
  · exact congrArg (· + 1) h.level_eq
  · rw [← h.rendered_eq, rendered_of_current hne]
    exact rendered_of_current hne

/-- The word of an opening delimiter. -/
theorem Shows.opening (h : Shows settings l last level text) (source : List Char) (d : Delimiter)
    (start : Nat) :
    let w : Word := ⟨⟨.opening d, [d.openChar], start, start + 1⟩, level⟩
    Shows settings ((itemsFrom source last [w]).foldl (step settings.indentation) l)
      (some (start + 1)) (Tree.bracesInside d level)
      (text ++ verbatimFrom settings source last [w]) := by
  intro w
  have hword := h.word_alone source w rfl
  have htext : verbatimFrom settings source last [w] =
      w.lead settings source last ++ String.ofList w.text := String.append_empty
  rw [htext, ← String.append_assoc, itemsFrom_singleton]
  cases d with
  | brace =>
    have hitems : w.items = [.text (String.ofList w.text)] ++ [.space .indent] := rfl
    rw [hitems, ← List.append_assoc, List.foldl_append]
    exact hword.indent (Option.some_ne_none _)
  | parenthesis => exact hword
  | bracket => exact hword

/-- The word of a closing delimiter. -/
theorem Shows.closing {d : Delimiter} (h : Shows settings l last (Tree.bracesInside d level) text)
    (source : List Char) (hlast : last ≠ none) (stop : Nat) :
    let w : Word := ⟨⟨.closing d, [d.closeChar], stop - 1, stop⟩, level⟩
    Shows settings ((itemsFrom source last [w]).foldl (step settings.indentation) l) (some stop)
      level (text ++ verbatimFrom settings source last [w]) := by
  intro w
  have htext : verbatimFrom settings source last [w] =
      w.lead settings source last ++ String.ofList w.text := String.append_empty
  rw [htext, ← String.append_assoc, itemsFrom_singleton]
  cases d with
  | brace =>
    -- the level falls between the gap and the bracket, so the bracket is indented as its group is
    have hitems : w.items = [Whitespace.unindent].map .space ++ [.text (String.ofList w.text)] :=
      rfl
    rw [hitems, ← List.append_assoc]
    exact h.word source w [.unindent] (by simp) (fun hnone => absurd hnone hlast) rfl
  | parenthesis | bracket =>
    have hword := h.word_alone source w rfl
    exact hword

mutual

/-- **The words of a token are shown** as they stand. -/
theorem Shows.words {l : Layout} {last : Option Nat} {level : Nat} {text : String}
    (source : List Char) : (t : Tree) → Shows settings l last level text →
    Shows settings ((itemsFrom source last (t.words level)).foldl (step settings.indentation) l)
      (lastOf last (t.words level)) level
      (text ++ verbatimFrom settings source last (t.words level))
  | .leaf leaf, h => by
    rw [Tree.words, itemsFrom_singleton, verbatimFrom, verbatimFrom, String.append_empty,
      ← String.append_assoc]
    exact h.word_alone source _ rfl
  | .group d children s, h => by
    have hlast := lastOf_ne_none (Tree.allWords (Tree.bracesInside d level) children)
      (Option.some_ne_none (s.startPos + 1))
    have hopening := h.opening source d s.startPos
    have hinside := (Shows.allWords source children hopening).closing source hlast s.stopPos
    rw [Tree.words, ← List.singleton_append, itemsFrom_append, itemsFrom_append, lastOf_append,
      lastOf_append, verbatimFrom_append, verbatimFrom_append, List.foldl_append, List.foldl_append,
      ← String.append_assoc, ← String.append_assoc]
    exact hinside

theorem Shows.allWords {l : Layout} {last : Option Nat} {level : Nat} {text : String}
    (source : List Char) : (ts : List Tree) → Shows settings l last level text →
    Shows settings
      ((itemsFrom source last (Tree.allWords level ts)).foldl (step settings.indentation) l)
      (lastOf last (Tree.allWords level ts)) level
      (text ++ verbatimFrom settings source last (Tree.allWords level ts))
  | [], h => by
    rw [Tree.allWords, verbatimFrom, String.append_empty]
    exact h
  | t :: ts, h => by
    rw [Tree.allWords, itemsFrom_append, lastOf_append, verbatimFrom_append, List.foldl_append,
      ← String.append_assoc]
    exact Shows.allWords source ts (Shows.words source t h)

end

end Layout

/-- **The layout of the items of a tree** is the tokens in the layout of their source. -/
theorem format_itemsFrom (settings : Settings) (source : List Char) (ts : List Tree) :
    settings.format (itemsFrom source none (Tree.allWords 0 ts)) = verbatim settings source ts := by
  have hfresh : Layout.Shows settings {} none 0 "" :=
    ⟨fun _ => ⟨rfl, rfl⟩, fun hnone => absurd rfl hnone, rfl, Layout.rendered_of_fresh ⟨rfl, rfl⟩⟩
  have hshows := (Layout.Shows.allWords source ts hfresh).rendered_eq
  rw [String.empty_append] at hshows
  exact hshows

end TokenTemplate
