import TokenTemplate.Value.SlotTable

/-!
# What is in a slot table

Whatever is done to a table, the items in it are those that were in it before or were put into it.
So a property of all items, `TokenTemplate.SlotTable.All`, stays as long as the new ones have it.
-/

namespace TokenTemplate.SlotTable

variable {α : Type} {P : α → Prop} {t u : SlotTable α}

/-- All items have a property. -/
def All (P : α → Prop) (t : SlotTable α) : Prop :=
  ∀ x ∈ t.toList, P x

theorem mem_entries_iff {h : Nat} {x : α} : (h, x) ∈ t.entries ↔ Slot.item h x ∈ t.slots.toList := by
  rw [entries, List.mem_filterMap]
  constructor
  · rintro ⟨slot, hslot, heq⟩
    split at heq
    · obtain ⟨rfl, rfl⟩ := Prod.mk.inj (Option.some.inj heq)
      exact hslot
    · exact absurd heq (Option.some_ne_none _).symm
  · exact fun hslot => ⟨_, hslot, rfl⟩

theorem all_iff : t.All P ↔ ∀ h x, Slot.item h x ∈ t.slots.toList → P x := by
  constructor
  · exact fun ht h x hx => ht x (List.mem_map.2 ⟨(h, x), mem_entries_iff.2 hx, rfl⟩)
  · intro ht x hx
    obtain ⟨⟨h, x⟩, hmem, rfl⟩ := List.mem_map.1 hx
    exact ht h x (mem_entries_iff.1 hmem)

theorem All.entries (ht : t.All P) : ∀ e ∈ t.entries, P e.2 :=
  fun e he => ht e.2 (List.mem_map_of_mem he)

theorem all_ofSize (n : Nat) : (ofSize n : SlotTable α).All P := by
  refine all_iff.2 fun h x hx => ?_
  rw [ofSize, Array.toList_replicate] at hx
  exact nomatch List.eq_of_mem_replicate hx

theorem All.place (ht : t.All P) {e : Nat × α} (he : P e.2) : (t.place e).All P := by
  rw [SlotTable.place]
  split
  · refine all_iff.2 fun h x hx => ?_
    rw [Array.toList_setIfInBounds] at hx
    rcases List.mem_or_eq_of_mem_set hx with hx | hx
    · exact all_iff.1 ht h x hx
    · obtain ⟨-, rfl⟩ := Slot.item.inj hx
      exact he
  · exact ht

theorem All.places (ht : t.All P) {es : List (Nat × α)} (hes : ∀ e ∈ es, P e.2) :
    (es.foldl SlotTable.place t).All P := by
  induction es generalizing t with
  | nil => exact ht
  | cons e es ih =>
    exact ih (ht.place (hes e List.mem_cons_self)) fun e he => hes e (List.mem_cons_of_mem _ he)

theorem All.resize (ht : t.All P) (n : Nat) : (t.resize n).All P :=
  (all_ofSize _).places ht.entries

theorem All.insert (ht : t.All P) {x : α} (hx : P x) (hash : Nat) : (t.insert hash x).All P := by
  simp only [SlotTable.insert]
  split
  · exact (ht.place hx).resize _
  · exact ht.place hx

theorem All.filter (ht : t.All P) (p : α → Bool) : (t.filter p).All P := by
  refine all_iff.2 fun h x hx => ?_
  rw [SlotTable.filter, Array.toList_map, List.mem_map] at hx
  obtain ⟨slot, hslot, heq⟩ := hx
  split at heq
  · split at heq
    · obtain ⟨-, rfl⟩ := Slot.item.inj heq
      exact all_iff.1 ht _ _ hslot
    · exact nomatch heq
  · exact all_iff.1 ht h x (heq ▸ hslot)

theorem All.tidy (ht : t.All P) : t.tidy.All P := by
  rw [SlotTable.tidy]
  split
  · exact ht
  · exact ht.resize _

theorem All.reserve (ht : t.All P) (more : Nat) : (t.reserve more).All P := by
  rw [SlotTable.reserve]
  split
  · exact ht.resize _
  · exact ht

theorem All.inserts (ht : t.All P) {es : List (Nat × α)} (hes : ∀ e ∈ es, P e.2) :
    (es.foldl (fun t e => t.insert e.1 e.2) t).All P := by
  induction es generalizing t with
  | nil => exact ht
  | cons e es ih =>
    exact ih (ht.insert (hes e List.mem_cons_self) _) fun e he => hes e (List.mem_cons_of_mem _ he)

theorem All.merge (ht : t.All P) (hu : u.All P) (isNew : α → Bool) : (t.merge u isNew).All P := by
  simp only [SlotTable.merge]
  split
  · split
    · exact hu
    · exact (ht.reserve _).places hu.entries
  · exact (ht.reserve _).inserts fun e he => hu.entries e (List.mem_filter.1 he).1

theorem All.copy (ht : t.All P) : t.copy.All P :=
  (all_ofSize _).merge ht _

end TokenTemplate.SlotTable
