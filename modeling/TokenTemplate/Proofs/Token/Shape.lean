import TokenTemplate.Proofs.Routine.Encoder
import TokenTemplate.Proofs.Token.Filling

/-!
# Trees apart from where they stand

Two texts may have the same tokens in different places. What they share is the shape of their trees,
`TokenTemplate.Tree.shape`: kinds, texts and groups, without any span. Folding a row of lexemes into
a tree looks at nothing else (`TokenTemplate.assemble_of_tokens_eq`), and neither does the bound on
the depth, so texts with the same row of tokens have trees of one shape
(`TokenTemplate.Tree.exists_ofSource_of_tokens_eq`).

What a shape leaves out are the gaps between consecutive tokens, `TokenTemplate.Tree.gaps`. Spacing
is decided by what each of them comes to, and the row of these is the layout of a tree,
`TokenTemplate.Tree.layout`.
-/

namespace TokenTemplate

/-! ### Shapes -/

namespace Tree

mutual

/-- **The shape of a token**: what it is, and what stands inside, but not where it stands. -/
def shape : Tree → Tree
  | leaf l => leaf ⟨l.kind, l.text, default⟩
  | group d children _ => group d (allShapes children) default

/-- The shapes of a row of tokens. -/
def allShapes : List Tree → List Tree
  | [] => []
  | t :: ts => shape t :: allShapes ts

end

theorem allShapes_eq_map (ts : List Tree) : allShapes ts = ts.map shape := by
  induction ts with
  | nil => rfl
  | cons t ts ih => rw [allShapes, List.map_cons, ih]

theorem allShapes_reverse_congr {ts us : List Tree} (h : allShapes ts = allShapes us) :
    allShapes ts.reverse = allShapes us.reverse := by
  rw [allShapes_eq_map, allShapes_eq_map] at h ⊢
  rw [List.map_reverse, List.map_reverse, h]

mutual

/-- The bound on the depth concerns the shape. -/
theorem tooDeep?_shape (room : Int) : (t : Tree) →
    (tooDeep? room (shape t)).isSome = (tooDeep? room t).isSome
  | leaf l => rfl
  | group d children s => by
    rw [shape, tooDeep?, tooDeep?]
    split
    · rfl
    · exact anyTooDeep?_allShapes (room - 1) children

theorem anyTooDeep?_allShapes (room : Int) : (ts : List Tree) →
    (anyTooDeep? room (allShapes ts)).isSome = (anyTooDeep? room ts).isSome
  | [] => rfl
  | t :: ts => by
    rw [allShapes, anyTooDeep?, anyTooDeep?, Option.isSome_or, Option.isSome_or,
      tooDeep?_shape room t, anyTooDeep?_allShapes room ts]

end

theorem anyTooDeep?_eq_none_congr {room : Int} {ts us : List Tree}
    (h : allShapes ts = allShapes us) (hdepth : anyTooDeep? room ts = none) :
    anyTooDeep? room us = none := by
  rw [← Option.not_isSome_iff_eq_none, Bool.not_eq_true] at hdepth ⊢
  rw [← anyTooDeep?_allShapes, ← h, anyTooDeep?_allShapes, hdepth]

end Tree

/-! ### Rows of tokens -/

/-- What a mark is, without its place. -/
def Mark.token (m : Mark) : LexemeKind × List Char :=
  (m.kind, m.text)

/-! ### The tree of a row of tokens -/

/-- An open group without its place. -/
def OpenGroup.shape (g : OpenGroup) : OpenGroup :=
  ⟨g.delimiter, default, Tree.allShapes g.before⟩

section Fold

variable (source source' : List Char) {marks marks' : List Mark}
  {groups groups' folded : List OpenGroup} {level level' last : List Tree}

/-- **The fold concerns shapes**: rows of the same tokens are folded into trees of one shape. -/
theorem assemble_of_tokens_eq (h : marks.map Mark.token = marks'.map Mark.token)
    (hgroups : groups.map OpenGroup.shape = groups'.map OpenGroup.shape)
    (hlevel : Tree.allShapes level = Tree.allShapes level')
    (hok : assemble groups level (marks.map (Mark.lexeme source)) = .ok (folded, last)) :
    ∃ folded' last', assemble groups' level' (marks'.map (Mark.lexeme source')) =
        .ok (folded', last') ∧
      folded.map OpenGroup.shape = folded'.map OpenGroup.shape ∧
      Tree.allShapes last = Tree.allShapes last' := by
  induction marks generalizing marks' groups groups' level level' with
  | nil =>
    obtain rfl : marks' = [] := List.map_eq_nil_iff.1 h.symm
    obtain ⟨rfl, rfl⟩ := Prod.mk.inj (Except.ok.inj hok)
    exact ⟨_, _, rfl, hgroups, hlevel⟩
  | cons m marks ih =>
    obtain ⟨m', marks', rfl⟩ : ∃ m' rest, marks' = m' :: rest := by
      cases marks' with
      | nil => exact absurd h (by simp)
      | cons m' rest => exact ⟨m', rest, rfl⟩
    rw [List.map_cons, List.map_cons, List.cons.injEq] at h
    obtain ⟨hm, hrest⟩ := h
    obtain ⟨kind, text, a, b⟩ := m
    obtain ⟨kind', text', a', b'⟩ := m'
    -- the marks differ in their texts' places only
    obtain ⟨rfl, rfl⟩ := Prod.mk.inj hm
    rw [List.map_cons, assemble] at hok
    rw [List.map_cons, assemble]
    cases kind with
    | leaf k =>
      refine ih hrest hgroups ?_ hok
      rw [Tree.allShapes, Tree.allShapes, hlevel]
      rfl
    | opening d =>
      refine ih hrest ?_ rfl hok
      rw [List.map_cons, List.map_cons, hgroups, OpenGroup.shape, OpenGroup.shape, hlevel]
    | closing d =>
      cases groups with
      | nil => exact absurd hok (by simp [Mark.lexeme])
      | cons g groups =>
        obtain ⟨g', groups', rfl⟩ : ∃ g' rest, groups' = g' :: rest := by
          cases groups' with
          | nil => exact absurd hgroups (by simp)
          | cons g' rest => exact ⟨g', rest, rfl⟩
        rw [List.map_cons, List.map_cons, List.cons.injEq] at hgroups
        obtain ⟨hg, hgroups⟩ := hgroups
        -- both folds close a group of one delimiter, or both fail
        obtain ⟨hd, -, hbefore⟩ := OpenGroup.mk.inj hg
        simp only [Mark.lexeme] at hok ⊢
        split at hok
        · next heq =>
          rw [hd] at heq
          rw [if_pos heq]
          refine ih hrest hgroups ?_ hok
          rw [Tree.allShapes, Tree.allShapes, Tree.shape, Tree.shape, hbefore,
            Tree.allShapes_reverse_congr hlevel]
        · exact absurd hok (by simp)

/-- **Texts with the same row of tokens have trees of one shape.** -/
theorem Tree.exists_ofSource_of_tokens_eq {source source' : List Char} {settings : Settings}
    {ts : List Tree} (h : Tree.ofSource settings source = .ok ts)
    (hreads : Reads source' 0 marks' none)
    (htokens : (Tree.allMarks ts).map Mark.token = marks'.map Mark.token) :
    ∃ ts', Tree.ofSource settings source' = .ok ts' ∧ Tree.allMarks ts' = marks' ∧
      Tree.allShapes ts' = Tree.allShapes ts := by
  obtain ⟨hfills, -, hdepth⟩ := Tree.fills_of_ofSource h
  have hfold := assemble_allMarks hfills [] [] []
  rw [List.append_nil, List.append_nil, assemble] at hfold
  obtain ⟨folded, last, hok, hfolded, hlast⟩ :=
    assemble_of_tokens_eq source source' htokens rfl rfl hfold
  obtain rfl : folded = [] := List.map_eq_nil_iff.1 hfolded.symm
  have hshapes := Tree.allShapes_reverse_congr hlast
  rw [List.reverse_reverse] at hshapes
  have hsource : Tree.ofSource settings source' = _ := ofSource_of_closed hreads hok
  rw [Tree.anyTooDeep?_eq_none_congr hshapes hdepth, Option.elim_none] at hsource
  obtain ⟨-, hreads', -⟩ := Tree.fills_of_ofSource hsource
  exact ⟨last.reverse, hsource, (hreads'.unique hreads).1, hshapes.symm⟩

end Fold

/-! ### Gaps and layouts -/

/-- The gaps before some marks, each by its offsets; the first one only if a mark before it ends at
`last`. -/
def gapsFrom : Option Nat → List Mark → List (Nat × Nat)
  | _, [] => []
  | last, m :: ms => (last.map fun p => (p, m.start)).toList ++ gapsFrom (some m.stop) ms

/-- What some gaps of a source come to. -/
def layoutOf (source : List Char) (gaps : List (Nat × Nat)) : List (Option Whitespace) :=
  gaps.map fun g => Whitespace.ofGap? (slice source g.1 g.2)

theorem layoutOf_append (source : List Char) (gaps gaps' : List (Nat × Nat)) :
    layoutOf source (gaps ++ gaps') = layoutOf source gaps ++ layoutOf source gaps' :=
  List.map_append

namespace Tree

/-- **The gaps between consecutive tokens**, delimiters among them, each by its offsets. -/
def gaps (ts : List Tree) : List (Nat × Nat) :=
  gapsFrom none (allMarks ts)

/-- **The layout of a tree**: for each gap between consecutive tokens whether they touch, or the
next one follows on the line, on the next line, or further down. -/
def layout (source : List Char) (ts : List Tree) : List (Option Whitespace) :=
  layoutOf source (gaps ts)

end Tree

end TokenTemplate
