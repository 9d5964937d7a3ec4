import TokenTemplate.Proofs.Grammar.Comma

/-!
# Bodies that end at a comma, as bodies that are cut off

A body that ends at a comma comes to the same as a body that ends with its tokens, if these are cut
off before the first comma among them (`TokenTemplate.Body.compile_untilComma_iff`). This is said of
every row of tokens, whether or not it is one of a template. A comma inside a group is none of the
row: the group is a token of it, and its inside is compiled as a body that no comma ends.

Where white space is counted from and how deep a body lies do not matter to what is one level further
in, which is why both bodies share the levels (`TokenTemplate.levels_congr`).
-/

namespace TokenTemplate

variable {b b' : Body} {inside : Inside} {room : Nat} {untilComma : Bool} {e : Encoder} {r : Region}

/-! ### Levels -/

/-- A construct is handed over in the same way by bodies with one receiver and the same settings. -/
theorem Body.place_congr (hreceiver : b.receiver = b'.receiver) (hsettings : b.settings = b'.settings)
    (c : Construct) : b.place inside room e r c = b'.place inside room e r c := by
  have hbodies : b.bodies inside = b'.bodies inside := by
    unfold bodies
    rw [hreceiver, hsettings]
  cases c with
  | payload start scope => rw [place, place, hbodies]
  | escape | block | directive | name | group | leaf => rfl

theorem Body.placeAll_congr (hreceiver : b.receiver = b'.receiver)
    (hsettings : b.settings = b'.settings) (ts : List Tree) :
    b.placeAll inside room untilComma e r ts = b'.placeAll inside room untilComma e r ts := by
  induction hn : ts.length using Nat.strongRecOn generalizing e r ts with
  | _ n ih =>
    cases ts with
    | nil => rw [placeAll, placeAll]
    | cons t ts =>
      rcases hcomma : untilComma && t.isPunct ',' with _ | _
      · rcases hsight : Construct.sight r t ts with err | ⟨c, rest⟩
        · rw [placeAll_of_error hcomma hsight, placeAll_of_error hcomma hsight]
        · obtain ⟨rest, htakes, rfl⟩ := Construct.sight_eq_ok_iff.1 hsight
          have hlt : rest.length < n := by
            rw [← hn, List.length_cons]
            exact Nat.lt_succ_of_le htakes.length_le
          rw [placeAll_of_takes hcomma htakes, placeAll_of_takes hcomma htakes,
            place_congr hreceiver hsettings]
          exact congrArg _ (funext fun e₁ => ih _ hlt rest rfl)
      · rw [placeAll_of_comma hcomma, placeAll_of_comma hcomma]

variable (b b') in
/-- **What is one level further in** depends on the receiver and the settings only. -/
theorem levels_congr (hreceiver : b.receiver = b'.receiver) (hsettings : b.settings = b'.settings)
    (room : Nat) : levels b room = levels b' room := by
  induction room with
  | zero =>
    funext untilComma e r
    rw [levels, levels, hsettings]
  | succ room ih =>
    funext untilComma e r
    rw [levels, levels, ih]
    exact Body.placeAll_congr hreceiver hsettings _

/-! ### Cutting off -/

/-- A region that is gone through up to its first comma is gone through as if nothing came after. -/
theorem levels_untilComma_iff {e' : Encoder} {left : Region} :
    levels b room true e r = .ok (e', left) ↔
      (∃ rest, levels b room false e (r.goOn (r.tokens.takeWhile (!·.isPunct ','))) =
        .ok (e', rest)) ∧ left = r.goOn (r.tokens.dropWhile (!·.isPunct ',')) := by
  cases room with
  | zero =>
    refine iff_of_false error_ne_ok ?_
    rintro ⟨⟨rest, h⟩, -⟩
    exact error_ne_ok h
  | succ room =>
    simp only [Body.levels_eq_ok_iff]
    constructor
    · rintro ⟨left', hwrites, rfl⟩
      obtain ⟨rfl, hcut⟩ := hwrites.of_append isPunct_of_mem_takeWhile isPunct_of_head?_dropWhile
        List.takeWhile_append_dropWhile.symm
      exact ⟨⟨_, [], hcut.goOn, rfl⟩, rfl⟩
    · rintro ⟨⟨rest, left', hwrites, -⟩, rfl⟩
      obtain rfl := hwrites.left_eq_nil rfl
      have happend : b.Writes (levels b room) room true _ e
          (r.tokens.takeWhile (!·.isPunct ',') ++ r.tokens.dropWhile (!·.isPunct ',')) e' _ :=
        hwrites.append isPunct_of_mem_takeWhile isPunct_of_head?_dropWhile
      rw [List.takeWhile_append_dropWhile] at happend
      exact ⟨_, happend.goOn, rfl⟩

/-- **Ending at a comma is cutting off before it.** A body that ends at a comma is compiled if and
only if the body that ends with its tokens is compiled when these are cut off before their first
comma. The routine is the same, and what is left begins with that comma, or is nothing if there is
no comma. -/
theorem Body.compile_untilComma_iff (b : Body) (r : Region) (routine : Routine) (left : Region) :
    Body.compile { b with untilComma := true } r = .ok (routine, left) ↔
      (∃ rest, Body.compile { b with untilComma := false }
        (r.goOn (r.tokens.takeWhile (!·.isPunct ','))) = .ok (routine, rest)) ∧
      left = r.goOn (r.tokens.dropWhile (!·.isPunct ',')) := by
  have hlevels : ∀ untilComma room, levels { b with untilComma } room = levels b room :=
    fun untilComma room => levels_congr { b with untilComma } b rfl rfl room
  simp only [compile, compileWith_eq_ok_iff, hlevels, levels_untilComma_iff]
  constructor
  · rintro ⟨e, ⟨⟨rest, h⟩, rfl⟩, hfinish⟩
    exact ⟨⟨rest, e, h, hfinish⟩, rfl⟩
  · rintro ⟨⟨rest, e, h, hfinish⟩, rfl⟩
    exact ⟨e, ⟨⟨rest, h⟩, rfl⟩, hfinish⟩

end TokenTemplate
