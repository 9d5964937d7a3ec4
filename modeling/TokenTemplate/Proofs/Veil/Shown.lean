import TokenTemplate.Proofs.Veil.Operator

/-!
# The texts of values behind a veil

How values in sight are written out does not depend on the hidden items: neither how they are shown, nor
their texts, nor what gaps are filled with. The methods of texts give texts again.
-/

namespace TokenTemplate.Veil

variable {w : Veil} {s : Store} {v : Value}

theorem mapM_congr {α β : Type} {f g : α → Except Fault β} {l : List α} (h : ∀ a ∈ l, f a = g a) :
    l.mapM f = l.mapM g :=
  (Agrees.mapM (Q := fun _ => True) fun a ha => .of_eq (h a ha)).eq

/-! ### Showing -/

@[simp] theorem kindOf_raise (v : Value) : (w.raise s).kindOf v = s.kindOf v := rfl

theorem shownIn_raise (hs : w.Covers s) (fuel : Nat) (inside : List Nat) (hv : w.Shows s v) :
    (w.raise s).shownIn fuel inside v = s.shownIn fuel inside v := by
  induction fuel generalizing inside v with
  | zero => rfl
  | succ fuel ih =>
    unfold Store.shownIn
    cases v with
    | receiver id => simp only [items_raise hv]
    | object id =>
      have ho := fun o => hs.innocent_of_object? (o := o) hv
      have hrow : ∀ items : List Value, w.ShowsAll s items →
          items.mapM ((w.raise s).shownIn fuel (id :: inside)) =
            items.mapM (s.shownIn fuel (id :: inside)) :=
        fun items h => mapM_congr fun a ha => ih _ (h a ha)
      simp only [object?_raise, kindOf_raise]
      split
      · next h => rw [hrow _ (ho _ h)]
      · next h => rw [hrow _ (ho _ h)]
      · next h =>
        rw [mapM_congr fun p hp => ?_]
        rw [ih _ (ho _ h p hp).1, ih _ (ho _ h p hp).2]
      · next h =>
        split
        · rfl
        · rw [hrow _ (ho _ h)]
      · next h =>
        obtain ⟨hlow, hhigh, hstep⟩ := ho _ h
        rw [hrow _ (by simp [ShowsAll, hlow, hhigh, hstep])]
      · rfl
      · rfl
      · next h =>
        rw [mapM_congr fun p hp => ?_]
        rw [ih _ (ho _ h p hp)]
      · next h =>
        have hentries := hs.shows_entries (ho _ h)
        rw [mapM_congr fun p hp => ?_]
        rw [ih _ (hentries p hp).1, ih _ (hentries p hp).2]
      · rfl
    | single v => cases v <;> rfl
    | _ => rfl

/-- **How a value in sight is shown** does not depend on the hidden items. -/
theorem shown_raise (hs : w.Covers s) (hv : w.Shows s v) : (w.raise s).shown v = s.shown v :=
  shownIn_raise hs _ _ hv

/-- **The text of a value in sight** does not depend on the hidden items. -/
theorem textOf_raise (hs : w.Covers s) (hv : w.Shows s v) : (w.raise s).textOf v = s.textOf v := by
  have hshown := shown_raise hs hv
  cases v with
  | receiver id => rw [Store.textOf, items_raise hv, Store.textOf]
  | _ => first | rfl | exact hshown

theorem keyError_raise (hs : w.Covers s) (hv : w.Shows s v) :
    (w.raise s).keyError v = s.keyError v := by
  rw [Store.keyError, Store.keyError, shown_raise hs hv]

/-! ### Filling gaps -/

theorem inGap_raise (hs : w.Covers s) (l : Text.Gap.Layout) (letter : Char) (hv : w.Shows s v) :
    (w.raise s).inGap l letter v = s.inGap l letter v := by
  unfold Store.inGap
  rw [textOf_raise hs hv, shown_raise hs hv]

/-- What a supply has is in sight. -/
structure ShowsSupply (w : Veil) (s : Store) (u : Supply) : Prop where
  /-- The value whose keys can be looked up. -/
  mapping : w.ShowsIf s u.mapping
  /-- The values that are taken. -/
  values : w.ShowsAll s u.values

theorem ShowsSupply.next {u : Supply} (h : w.ShowsSupply s u) :
    Agrees (fun p => w.Shows s p.1 ∧ w.ShowsSupply s p.2) u.next u.next := by
  have hvalues := h.values
  unfold Supply.next
  split
  · next heq =>
    rw [heq] at hvalues
    obtain ⟨hv, hrest⟩ := List.forall_mem_cons.1 hvalues
    exact .ok ⟨hv, h.mapping, hrest⟩
  · exact .error _

theorem ShowsSupply.nextWhole {u : Supply} (h : w.ShowsSupply s u) :
    Agrees (fun p => w.ShowsSupply s p.2) u.nextWhole u.nextWhole := by
  refine h.next.bind fun p _ hp => ?_
  dsimp only
  split
  · exact .ok hp.2
  · exact .error _

theorem agrees_lookUp (hs : w.Covers s) {u : Supply} (hu : w.ShowsSupply s u)
    (key : Text.GapKey) :
    Agrees (w.ShowsSupply s) ((w.raise s).lookUp u key) (s.lookUp u key) := by
  have hkey : ∀ k, w.Shows s (.ofText k) := fun _ => trivial
  unfold Store.lookUp
  simp only [objectOf?_raise, keyError_raise hs (hkey _)]
  split
  · exact .ok hu
  · exact .error _
  · exact .error _
  · next m hm =>
    have hshows := hu.mapping m hm
    split
    · refine (agrees_lookup? hs hshows (hkey _)).bind fun found _ hfound => ?_
      split
      · next v _ => exact .ok ⟨hu.mapping, fun a ha => List.mem_singleton.1 ha ▸ hfound v rfl⟩
      · exact (Agrees.of_eq rfl).bind fun e _ _ => .error e
    · exact .error _

theorem agrees_fillGap (hs : w.Covers s) {u : Supply} (hu : w.ShowsSupply s u) (g : Text.Gap) :
    Agrees (fun p => w.ShowsSupply s p.2) ((w.raise s).fillGap g u) (s.fillGap g u) := by
  unfold Store.fillGap
  refine (agrees_lookUp hs hu g.key).bind fun u _ hu => ?_
  -- the width and the precision may take values of the supply, so it is in sight at each stage
  extract_lets ended sized sized'
  have hended : ∀ p, w.ShowsSupply s p.2 →
      Agrees (fun p => w.ShowsSupply s p.2) (ended p) (ended p) := by
    rintro ⟨filled, u⟩ hu
    dsimp only [ended]
    split
    · exact .error _
    · exact .ok hu
  have hsized : ∀ p, w.ShowsSupply s p.2.2 →
      Agrees (fun p => w.ShowsSupply s p.2) (sized p) (sized' p) := by
    rintro ⟨flags, width, u⟩ hu
    dsimp -zeta only [sized, sized']
    extract_lets precise precise'
    have hprecise : ∀ p, w.ShowsSupply s p.2 →
        Agrees (fun p => w.ShowsSupply s p.2) (precise p) (precise' p) := by
      rintro ⟨precision, u⟩ hu
      dsimp only [precise, precise']
      split
      · exact .error _
      · refine hu.next.bind fun p _ hp => ?_
        split
        · exact .error _
        · rw [inGap_raise hs _ _ hp.1]
          exact (Agrees.of_eq rfl).bind fun filled _ _ => hended (filled, p.2) hp.2
    split
    · exact hprecise (none, u) hu
    · exact (Agrees.of_eq rfl).bind fun n _ _ => hprecise (some n, u) hu
    · refine hu.nextWhole.bind fun p _ hp => ?_
      dsimp only
      split
      · exact .error _
      · exact hprecise (some p.1.toNat, p.2) hp
  split
  · exact hsized (g.flags, 0, u) hu
  · exact (Agrees.of_eq rfl).bind fun n _ _ => hsized (g.flags, n, u) hu
  · refine hu.nextWhole.bind fun p _ hp => ?_
    dsimp only
    split
    · exact .error _
    · exact hsized (_, p.1.natAbs, p.2) hp

theorem fillPieces_raise (hs : w.Covers s) {u : Supply} (hu : w.ShowsSupply s u)
    (pieces : List Text.Piece) : (w.raise s).fillPieces u pieces = s.fillPieces u pieces := by
  induction pieces generalizing u with
  | nil => rfl
  | cons piece pieces ih =>
    cases piece with
    | char c => rw [Store.fillPieces, Store.fillPieces, ih hu]
    | gap g =>
      rw [Store.fillPieces, Store.fillPieces]
      refine ((agrees_fillGap hs hu g).bind (Q := fun _ => True) fun p _ hp => ?_).eq
      dsimp only
      rw [ih hp]
      exact .of_eq rfl

/-- **What a text is filled with** does not depend on the hidden items. -/
theorem fill_raise (hs : w.Covers s) (t : String) (hv : w.Shows s v) :
    (w.raise s).fill t v = s.fill t v := by
  have hone : w.ShowsAll s [v] := fun a ha => List.mem_singleton.1 ha ▸ hv
  have hnone : w.ShowsIf s none := fun _ h => nomatch h
  have hself : w.ShowsIf s (some v) := fun a ha => Option.some.inj ha ▸ hv
  have hsupply : (w.raise s).supply v = s.supply v := by
    unfold Store.supply
    rw [objectOf?_raise]
  have hshows : w.ShowsSupply s (s.supply v) := by
    unfold Store.supply
    split
    · exact ⟨hself, hone⟩
    · next h => exact ⟨hnone, hs.innocent_of_objectOf? hv h⟩
    · exact ⟨hself, hone⟩
    · exact ⟨hself, hone⟩
    · exact ⟨hself, hone⟩
    · exact ⟨hnone, hone⟩
  rw [Store.fill, Store.fill, hsupply, fillPieces_raise hs hshows]

/-! ### Methods of texts -/

theorem anyText_raise (test : List Char → Bool) (v : Value) :
    (w.raise s).anyText test v = s.anyText test v := by
  unfold Store.anyText
  rw [objectOf?_raise]

theorem shows_keptText (hv : w.Shows s v) (cs kept : List Char) :
    w.ShowsMade s (keptText v cs kept) := by
  rw [keptText]
  split
  · exact hv
  · exact trivial

theorem shows_keptParts (hv : w.Shows s v) (cs : List Char) (parts : List (List Char)) :
    w.ShowsMade s (keptParts v cs parts) := by
  rw [keptParts]
  split
  · exact ⟨fun a ha => List.mem_singleton.1 ha ▸ hv, rfl⟩
  · exact trivial

/-- **What a method of a text gives.** -/
theorem agrees_textMethod (m : TextMethod) (hv : w.Shows s v) (args : List Value) :
    Agrees (w.ShowsMade s) ((w.raise s).textMethod m v args) (s.textMethod m v args) := by
  have hkept := shows_keptText hv
  have hparts := shows_keptParts hv
  -- hidden items are in no text, so both stores give the same
  have heq : (w.raise s).textMethod m v args = s.textMethod m v args := by
    unfold Store.textMethod
    simp only [anyText_raise]
  rw [heq]
  unfold Store.textMethod
  refine (Agrees.of_eq rfl).bind fun cs _ _ => ?_
  split
  · exact .ok trivial
  · exact .ok trivial
  · exact .ok trivial
  · exact .ok trivial
  · exact .ok trivial
  · exact (Agrees.of_eq rfl).bind fun _ _ _ => .ok (hkept _ _)
  · exact (Agrees.of_eq rfl).bind fun _ _ _ => .ok (hkept _ _)
  · exact (Agrees.of_eq rfl).bind fun _ _ _ => .ok (hkept _ _)
  · extract_lets parted
    have hparted : ∀ p, Agrees (w.ShowsMade s) (parted p) (parted p) := by
      rintro ⟨sep, limit⟩
      dsimp only [parted]
      split
      · exact .ok (hparts _ _)
      · refine (Agrees.of_eq rfl).bind fun _ _ _ => ?_
        split
        · exact .error _
        · exact .ok (hparts _ _)
    split
    · exact hparted (.none, none)
    · next a => exact hparted (a, none)
    · exact (Agrees.of_eq rfl).bind fun _ _ _ => hparted _
    · exact .error _
  · refine (Agrees.of_eq rfl).bind fun _ _ _ => (Agrees.of_eq rfl).bind fun _ _ _ => ?_
    split
    · exact .ok (hkept _ _)
    · exact (Agrees.of_eq rfl).bind fun _ _ _ => .ok (hkept _ _)
    · exact .error _
  · exact (Agrees.of_eq rfl).bind fun _ _ _ => (Agrees.of_eq rfl).bind fun _ _ _ => .ok trivial
  · exact (Agrees.of_eq rfl).bind fun _ _ _ => (Agrees.of_eq rfl).bind fun _ _ _ => .ok trivial
  · refine (Agrees.of_eq rfl).bind fun _ _ _ => (Agrees.of_eq rfl).bind fun _ _ _ => ?_
    split
    · exact .ok trivial
    · split <;> exact .ok trivial
  · refine (Agrees.of_eq rfl).bind fun _ _ _ => (Agrees.of_eq rfl).bind fun _ _ _ => ?_
    split <;> exact .ok trivial
  · exact .error _

end TokenTemplate.Veil
