/-!
# Tables of code points

A class of characters is kept as a list of closed ranges of code points, in ascending order.
`TokenTemplate.Ranges.has` is membership. The tables in this folder are those of version 14.0 of the
Unicode character database, and each of them leaves out the ASCII part, which the functions built on
the tables state as a rule of its own.
-/

namespace TokenTemplate

/-- Closed ranges of code points, in ascending order. -/
abbrev Ranges :=
  List (Nat × Nat)

namespace Ranges

/-- **Membership**: some range holds the code point. -/
def has (t : Ranges) (n : Nat) : Bool :=
  t.any fun r => r.1 ≤ n && n ≤ r.2

/-- In ascending order, with a gap between neighbours. -/
def isAscending : Ranges → Bool
  | [] => true
  | [r] => r.1 ≤ r.2
  | r :: s :: t => r.1 ≤ r.2 && r.2 + 1 < s.1 && isAscending (s :: t)

theorem has_iff {t : Ranges} {n : Nat} : t.has n = true ↔ ∃ r ∈ t, r.1 ≤ n ∧ n ≤ r.2 := by
  simp [has]

end Ranges

end TokenTemplate
