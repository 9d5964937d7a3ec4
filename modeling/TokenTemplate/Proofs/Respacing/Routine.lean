import TokenTemplate.Proofs.Respacing.Body

/-!
# Layout is seen through what each gap comes to

Of the white space of a template only what each gap comes to is seen: nothing, a blank, the end of a
line, or an empty line. Changing gaps without changing what they come to leaves the routine as it
is, at all levels and apart from the places in it (`TokenTemplate.Routine.ofSource_respaced`). This
leaves out the two kinds of text that are kept with their own spacing, payloads and interpolation
blocks; and what stands before the first token and after the last one may be changed at will.
-/

namespace TokenTemplate

/-- **A change of a text that keeps the gaps inside some places** as they were. -/
def Respacing.keeping (source source' : List Char) (places : List Span) : Respacing where
  source := source
  source' := source'
  kept p q := ∃ s ∈ places, s.startPos ≤ p ∧ q ≤ s.stopPos

namespace Routine

variable {settings : Settings} {receiver source source' : String} {routine : Routine}
  {ts ts' : List Tree}

/-- A template is compiled as a body of its own that nothing is written around. -/
theorem ofSource_eq_ok_iff :
    ofSource settings receiver source = .ok routine ↔
      ∃ ts rest, Tree.ofSource settings source.toList = .ok ts ∧
        Body.compile { receiver, settings }
          ⟨source.toList, settings, .ofSource source.toList, false, ts⟩ = .ok (routine, rest) := by
  rw [ofSource, bind_eq_ok_iff]
  constructor
  · rintro ⟨r, hr, h⟩
    obtain ⟨ts, hts, hr⟩ := bind_eq_ok_iff.1 (lift_eq_ok_iff.1 hr)
    obtain rfl := Except.ok.inj hr
    obtain ⟨⟨routine', rest⟩, hcompile, h⟩ := bind_eq_ok_iff.1 h
    obtain rfl := Except.ok.inj h
    exact ⟨ts, rest, hts, hcompile⟩
  · rintro ⟨ts, rest, hts, hcompile⟩
    have hr : Region.ofSource settings source.toList =
        .ok ⟨source.toList, settings, .ofSource source.toList, false, ts⟩ :=
      bind_eq_ok_iff.2 ⟨ts, hts, rfl⟩
    exact ⟨_, lift_eq_ok_iff.2 hr, bind_eq_ok_iff.2 ⟨_, hcompile, rfl⟩⟩

/-- **Layout is seen through what each gap comes to.** A template that is compiled, and a text with
the same tokens whose gaps between consecutive tokens come to the same, and are the same inside of
the payloads of the routine and of the interpolation blocks: that text is compiled too, to the same
routine apart from places. -/
theorem ofSource_respaced (h : ofSource settings receiver source = .ok routine)
    (hts : Tree.ofSource settings source.toList = .ok ts)
    (hts' : Tree.ofSource settings source'.toList = .ok ts')
    (hshapes : Tree.allShapes ts' = Tree.allShapes ts)
    (hgaps : List.Forall₂
      (Respacing.keeping source.toList source'.toList
        (routine.payloads ++ Tree.allBlocks .nothing ts)).Agree
      (Tree.gaps ts) (Tree.gaps ts')) :
    ∃ routine', ofSource settings receiver source' = .ok routine' ∧ routine'.bare = routine.bare := by
  obtain ⟨us, rest, hus, hcompile⟩ := ofSource_eq_ok_iff.1 h
  obtain rfl := Except.ok.inj (hus.symm.trans hts)
  obtain ⟨hfills, -, -⟩ := Tree.fills_of_ofSource hts
  obtain ⟨hfills', -, -⟩ := Tree.fills_of_ofSource hts'
  generalize hρ : Respacing.keeping source.toList source'.toList
    (routine.payloads ++ Tree.allBlocks .nothing us) = ρ at hgaps
  have hkeeps : ∀ s ∈ routine.payloads ++ Tree.allBlocks .nothing us, ρ.Keeps s := by
    intro s hs p q hp hq
    rw [← hρ]
    exact ⟨s, hs, hp, hq⟩
  rw [List.forall_mem_append] at hkeeps
  obtain ⟨a, a', k, k', hrow⟩ : ∃ a a' k k', ρ.Row a a' us ts' k k' := by
    subst hρ
    exact Respacing.Row.of_gaps hfills hfills' hshapes hgaps
  have hregions : ρ.Regions a a' ⟨source.toList, settings, .ofSource source.toList, false, us⟩
      ⟨source'.toList, settings, .ofSource source'.toList, false, ts'⟩ k k' := by
    subst hρ
    exact ⟨rfl, rfl, rfl, hrow, hkeeps.2⟩
  -- the whole template is a body without edges
  let b : Body := { receiver, settings }
  let inside : Inside := levels b (settings.maxDepth - 0 + 1).toNat
  have hbodies : ρ.KeepsBodies (b.bodies inside) (b.bodies inside) :=
    Respacing.KeepsInside.keepsBodies (Respacing.keepsInside_levels ρ b _) (levels_extends b _) b
  obtain ⟨routine', rest', -, -, hcompile', hbare, -⟩ :=
    hbodies hregions Respacing.edges_none (.inl rfl) hcompile hkeeps.1
  exact ⟨routine', ofSource_eq_ok_iff.2 ⟨ts', rest', hts', hcompile'⟩, hbare⟩

/-- Blanks before a splice, line breaks and a tab around it, and white space at both ends are
changed; the blanks inside the expression and inside the block are kept. -/
theorem ofSource_respaced_splice_and_block :
    ∃ routine routine',
      ofSource {} "t" "a  #(x  +y)\n#_(p  q)" = .ok routine ∧
        ofSource {} "t" " a #(x  +y) \n\t#_(p  q)\n\n" = .ok routine' ∧
        routine'.bare = routine.bare := by
  obtain ⟨routine, h, hpayloads⟩ : ∃ routine,
      ofSource {} "t" "a  #(x  +y)\n#_(p  q)" = .ok routine ∧
        routine.payloads.map (fun s => (s.startPos, s.stopPos)) = [(5, 10)] :=
    ⟨_, by cbv, by cbv⟩
  obtain ⟨ts, hts, hgaps, hblocks⟩ : ∃ ts,
      Tree.ofSource {} "a  #(x  +y)\n#_(p  q)".toList = .ok ts ∧
        Tree.gaps ts = [(1, 3), (4, 4), (5, 5), (6, 8), (9, 9), (10, 10), (11, 12), (13, 13),
          (14, 14), (15, 15), (16, 18), (19, 19)] ∧
        (Tree.allBlocks .nothing ts).map (fun s => (s.startPos, s.stopPos)) = [(14, 20)] :=
    ⟨_, by cbv, by cbv, by cbv⟩
  obtain ⟨ts', hts', hgaps', hshapes⟩ : ∃ ts',
      Tree.ofSource {} " a #(x  +y) \n\t#_(p  q)\n\n".toList = .ok ts' ∧
        Tree.gaps ts' = [(2, 3), (4, 4), (5, 5), (6, 8), (9, 9), (10, 10), (11, 14), (15, 15),
          (16, 16), (17, 17), (18, 20), (21, 21)] ∧
        Tree.allShapes ts' = Tree.allShapes ts := by
    refine ⟨_, by cbv, by cbv, ?_⟩
    obtain rfl := Except.ok.inj (hts.symm.trans (by cbv))
    rfl
  generalize hρ : Respacing.keeping "a  #(x  +y)\n#_(p  q)".toList
    " a #(x  +y) \n\t#_(p  q)\n\n".toList (routine.payloads ++ Tree.allBlocks .nothing ts) = ρ
  have hsource : ρ.source = "a  #(x  +y)\n#_(p  q)".toList := by rw [← hρ]; rfl
  have hsource' : ρ.source' = " a #(x  +y) \n\t#_(p  q)\n\n".toList := by rw [← hρ]; rfl
  have hsame {p q p' q' : Nat} (hslice : slice ρ.source' p' q' = slice ρ.source p q) :
      ρ.Agree (p, q) (p', q') :=
    ⟨congrArg Whitespace.ofGap? hslice, fun _ => hslice⟩
  have hchanged {p q p' q' : Nat} (hcome : Whitespace.ofGap? (slice ρ.source' p' q') =
      Whitespace.ofGap? (slice ρ.source p q))
      (hout : ∀ place ∈ [(5, 10), (14, 20)], ¬ (place.1 ≤ p ∧ q ≤ place.2)) :
      ρ.Agree (p, q) (p', q') := by
    refine ⟨hcome, fun hkept => ?_⟩
    rw [← hρ] at hkept
    obtain ⟨s, hs, hp, hq⟩ := hkept
    have hplace := List.mem_map_of_mem (f := fun s : Span => (s.startPos, s.stopPos)) hs
    rw [List.map_append, hpayloads, hblocks] at hplace
    exact absurd ⟨hp, hq⟩ (hout _ hplace)
  have hagree : List.Forall₂ ρ.Agree (Tree.gaps ts) (Tree.gaps ts') := by
    rw [hgaps, hgaps']
    refine .cons (hchanged ?_ (by decide)) (.cons (hsame ?_) (.cons (hsame ?_) (.cons (hsame ?_)
      (.cons (hsame ?_) (.cons (hsame ?_) (.cons (hchanged ?_ (by decide)) (.cons (hsame ?_)
      (.cons (hsame ?_) (.cons (hsame ?_) (.cons (hsame ?_) (.cons (hsame ?_) .nil)))))))))))
    all_goals
      rw [hsource, hsource']
      decide
  rw [← hρ] at hagree
  obtain ⟨routine', h', hbare⟩ := ofSource_respaced h hts hts' hshapes hagree
  exact ⟨routine, routine', h, h', hbare⟩

end Routine

end TokenTemplate
