import TokenTemplate.Proofs.Grammar.Construct

/-!
# Where the interpolation blocks of a template are

An interpolation block is a sigil, an underscore and a group in round brackets, at any level of a
tree; white space inside of it is text. Its sigil must not be the second half of an escaped one. So
the blocks are found by a walk from left to right that remembers what stands before the next token,
`TokenTemplate.Pending`, and `TokenTemplate.Tree.allBlocks` are the places of their groups.

Reading constructs walks the same way: what a construct leaves over has the blocks that it had
before (`TokenTemplate.Construct.Takes.allBlocks_subset`), and so has what is left after a payload,
which ends at a token that a block has nothing to do with
(`TokenTemplate.Tree.allBlocks_of_isolates`).
-/

namespace TokenTemplate

/-! ### The walk -/

/-- What stands before the next token, as far as blocks are concerned. -/
inductive Pending
  /-- Nothing that could begin a block. -/
  | nothing
  /-- A sigil that is no part of an escaped one. -/
  | sigil (t : Tree)
  /-- A sigil and an underscore. -/
  | mark

namespace Pending

/-- What stands before the token after a token. -/
def after : Pending → Tree → Pending
  | .sigil s, t =>
    if t.isPunct TokenTemplate.sigil then if s.touches t then .nothing else .sigil t
    else if t.isWord "_" then .mark
    else .nothing
  | _, t => if t.isPunct TokenTemplate.sigil then .sigil t else .nothing

/-- Whether a group in round brackets is a block here. -/
def isMark : Pending → Bool
  | .mark => true
  | _ => false

theorem nothing_after (t : Tree) :
    nothing.after t = if t.isPunct TokenTemplate.sigil then .sigil t else .nothing := rfl

theorem sigil_after (s t : Tree) :
    (sigil s).after t =
      if t.isPunct TokenTemplate.sigil then if s.touches t then .nothing else .sigil t
      else if t.isWord "_" then .mark
      else .nothing := rfl

end Pending

namespace Tree

mutual

/-- The blocks inside a token. -/
def blocks : Tree → List Span
  | leaf _ => []
  | group _ children _ => allBlocks .nothing children

/-- **The blocks of a row of tokens**, each by the place of its group. -/
def allBlocks : Pending → List Tree → List Span
  | _, [] => []
  | p, t :: ts =>
    (if p.isMark && t.isGroup .parenthesis then [t.span] else blocks t) ++ allBlocks (p.after t) ts

end

/-! ### Rows that are cut -/

variable {p : Pending} {t : Tree} {ts us : List Tree}

theorem allBlocks_append (p : Pending) (ts us : List Tree) :
    allBlocks p (ts ++ us) = allBlocks p ts ++ allBlocks (ts.foldl Pending.after p) us := by
  induction ts generalizing p with
  | nil => rfl
  | cons t ts ih =>
    rw [List.cons_append, allBlocks, ih, allBlocks, List.foldl_cons, List.append_assoc]

/-- **A token that a block has nothing to do with**, whatever stands before it. -/
def Isolates (t : Tree) : Prop :=
  t.isPunct sigil = false ∧ t.isWord "_" = false ∧ t.isGroup .parenthesis = false

theorem isolates_of_isPunct {c : Char} (h : t.isPunct c = true) (hc : c ≠ sigil) : t.Isolates := by
  refine ⟨isPunct_unique h hc, ?_, ?_⟩
  all_goals
    cases t with
    | leaf l =>
      rw [isPunct, Bool.and_eq_true, beq_iff_eq] at h
      simp [isWord, isGroup, h.1]
    | group => exact absurd h Bool.false_ne_true

theorem isolates_of_isWord {w : String} (h : t.isWord w = true) (hw : w ≠ "_") : t.Isolates := by
  cases t with
  | leaf l =>
    rw [isWord, Bool.and_eq_true, beq_iff_eq, beq_iff_eq] at h
    refine ⟨isPunct_of_name h.1 sigil, ?_, rfl⟩
    simp [isWord, h.2, hw]
  | group => exact absurd h Bool.false_ne_true

theorem isolates_of_brace (h : t.isGroup .brace = true) : t.Isolates := by
  cases t with
  | leaf l => exact absurd h Bool.false_ne_true
  | group d children s =>
    rw [isGroup, beq_iff_eq] at h
    subst h
    exact ⟨rfl, rfl, rfl⟩

theorem Isolates.after_eq (h : t.Isolates) (p : Pending) : p.after t = .nothing := by
  cases p <;> simp [Pending.after, h.1, h.2.1]

/-- From such a token on, the blocks do not depend on what stands before it. -/
theorem allBlocks_of_isolates (h : t.Isolates) (p : Pending) (ts : List Tree) :
    allBlocks p (t :: ts) = blocks t ++ allBlocks .nothing ts := by
  rw [allBlocks, h.after_eq, h.2.2, Bool.and_false]
  rfl

/-- A row that ends at such a token leaves the blocks after it. -/
theorem allBlocks_subset_append (h : ∀ t ∈ us.head?, t.Isolates) :
    allBlocks .nothing us ⊆ allBlocks p (ts ++ us) := by
  rw [allBlocks_append]
  refine List.Subset.trans ?_ (List.subset_append_right _ _)
  cases us with
  | nil => exact List.nil_subset _
  | cons t us =>
    have ht := h t rfl
    rw [allBlocks_of_isolates ht, allBlocks_of_isolates ht]
    exact List.Subset.refl _

/-- A token that is no sigil is passed over. -/
theorem allBlocks_of_not_sigil (h : t.isPunct sigil = false) (ts : List Tree) :
    allBlocks .nothing (t :: ts) = blocks t ++ allBlocks .nothing ts := by
  rw [allBlocks, Pending.nothing_after, h]
  rfl

theorem blocks_of_isPunct {c : Char} (h : t.isPunct c = true) : blocks t = [] := by
  cases t with
  | leaf => rw [blocks]
  | group => exact absurd h Bool.false_ne_true

/-- A sigil is passed over by itself. -/
theorem allBlocks_of_sigil (h : t.isPunct sigil = true) (ts : List Tree) :
    allBlocks .nothing (t :: ts) = allBlocks (.sigil t) ts := by
  rw [allBlocks, Pending.nothing_after, if_pos h, blocks_of_isPunct h]
  rfl

/-- After a sigil a word makes a block of a group in round brackets if it is an underscore. -/
theorem allBlocks_sigil_name {l : Leaf} (h : l.kind = .name) (t : Tree) (ts : List Tree) :
    allBlocks (.sigil t) (.leaf l :: ts) =
      allBlocks (if l.text = "_" then .mark else .nothing) ts := by
  have hword : (leaf l).isWord "_" = decide (l.text = "_") := by
    rw [isWord, h, beq_self_eq_true, Bool.true_and]
    exact Bool.beq_eq_decide_eq _ _
  rw [allBlocks, Pending.sigil_after, isPunct_of_name h, hword]
  simp only [Bool.false_eq_true, if_false, decide_eq_true_eq]
  rfl

/-- An underscore makes no difference if no group in round brackets follows. -/
theorem allBlocks_mark (h : ts.head?.any (isGroup .parenthesis) = false) :
    allBlocks .mark ts = allBlocks .nothing ts := by
  cases ts with
  | nil => rw [allBlocks, allBlocks]
  | cons t ts =>
    rw [List.head?_cons, Option.any_some] at h
    rw [allBlocks, allBlocks, h]
    rfl

/-- Neither does a sigil that stands alone. -/
theorem allBlocks_sigil_of_standsAlone (ht : t.isPunct sigil = true)
    (h : standsAlone t ts = true) : allBlocks (.sigil t) ts = allBlocks .nothing ts := by
  cases ts with
  | nil => rw [allBlocks, allBlocks]
  | cons u ts =>
    obtain ⟨hescape, -, hname, -⟩ := (standsAlone_cons_iff ht).1 h
    have hword : u.isWord "_" = false := by
      cases u with
      | leaf l =>
        rw [isKind] at hname
        rw [isWord, hname, Bool.false_and]
      | group => rfl
    have hafter : (Pending.sigil t).after u = Pending.nothing.after u := by
      rw [Pending.sigil_after, Pending.nothing_after, hword]
      cases hu : u.isPunct sigil with
      | false => rfl
      | true =>
        rw [hu, Bool.true_and] at hescape
        rw [hescape]
        rfl
    rw [allBlocks, allBlocks, hafter]
    rfl

end Tree

/-! ### Constructs -/

namespace Construct

open TokenTemplate.Tree

variable {r : Region} {ts rest : List Tree} {c : Construct}

theorem allBlocks_plain {t : Tree} (h : standsAlone t ts = true) :
    allBlocks .nothing (t :: ts) = blocks t ++ allBlocks .nothing ts := by
  by_cases ht : t.isPunct sigil = true
  · rw [allBlocks_of_sigil ht, allBlocks_sigil_of_standsAlone ht h, blocks_of_isPunct ht,
      List.nil_append]
  · exact allBlocks_of_not_sigil (Bool.eq_false_iff.2 ht) ts

theorem allBlocks_payload {t : Tree} {children : List Tree} {span : Span}
    (ht : t.isPunct sigil = true) :
    allBlocks .nothing (t :: .group .parenthesis children span :: ts) =
      allBlocks .nothing children ++ allBlocks .nothing ts := by
  rw [allBlocks_of_sigil ht, allBlocks, blocks]
  rfl

theorem allBlocks_block {t : Tree} {l : Leaf} {children : List Tree} {span : Span}
    (ht : t.isPunct sigil = true) (hl : l.kind = .name) (htext : l.text = "_") :
    allBlocks .nothing (t :: .leaf l :: .group .parenthesis children span :: ts) =
      span :: allBlocks .nothing ts := by
  rw [allBlocks_of_sigil ht, allBlocks_sigil_name hl, if_pos htext, allBlocks]
  rfl

/-- **What a construct leaves over** has the blocks that it had before. -/
theorem Takes.allBlocks_subset (h : Takes r ts c rest) :
    allBlocks .nothing rest ⊆ allBlocks .nothing ts := by
  cases h with
  | @escape t u _ ht hu htouch =>
    rw [allBlocks_of_sigil ht, allBlocks, Pending.sigil_after, if_pos hu, if_pos htouch]
    exact List.subset_append_right _ _
  | @directive t u stop l w _ ht hu htouch hl hw hstop =>
    have hmark : u.isPunct sigil = false := isPunct_unique hu (by decide)
    have hword : u.isWord "_" = false := by
      cases u with
      | leaf m =>
        rw [isPunct, Bool.and_eq_true, beq_iff_eq] at hu
        rw [isWord, hu.1]
        rfl
      | group => rfl
    rw [allBlocks_of_sigil ht, allBlocks, Pending.sigil_after, hmark, hword,
      if_neg Bool.false_ne_true,
      if_neg Bool.false_ne_true, allBlocks_of_not_sigil (isPunct_of_name hl sigil),
      allBlocks_of_not_sigil (isPunct_unique hstop (by decide))]
    intro s hs
    simp only [List.mem_append]
    exact Or.inr (Or.inr (Or.inr hs))
  | block ht hl htext =>
    rw [allBlocks_block ht hl htext]
    exact List.subset_cons_self _ _
  | @name t l _ ht hl hblock =>
    rw [allBlocks_of_sigil ht, allBlocks_sigil_name hl]
    split
    · next htext =>
      rw [allBlocks_mark (hblock htext)]
      exact List.Subset.refl _
    · exact List.Subset.refl _
  | payload ht =>
    rw [allBlocks_payload ht]
    exact List.subset_append_right _ _
  | plain halone =>
    rw [allBlocks_plain halone]
    exact List.subset_append_right _ _

end Construct

end TokenTemplate
