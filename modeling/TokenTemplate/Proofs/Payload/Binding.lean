import Mathlib.Data.List.Nodup
import TokenTemplate.Payload.Located

/-!
# Names that a pattern binds

The names of a pattern are those of its captures, of its starred parts, of what is left of a mapping, and those after
`as`: `TokenTemplate.Payload.Pattern.names`. A pattern that has been read binds each of them once, and all its
alternatives bind the same ones, so that it does not matter which of them matches; the wildcard is never among them
(`TokenTemplate.Payload.Pattern.WellNamed`).

A reader keeps the names that have been bound so far, and this is what the rules are about:
`TokenTemplate.Payload.Reader.Binds` says which names are new once something has been read.
-/

namespace TokenTemplate.Payload

/-! ### Names -/

mutual

/-- **The names that a pattern binds.** -/
def Pattern.names : Pattern → List String
  | .capture n => [n]
  | .starred n => n.toList
  | .sequence parts => Pattern.allNames parts
  | .mapping entries rest => Pattern.entryNames entries ++ rest.toList
  | .typed _ _ parts attributes => Pattern.allNames parts ++ Pattern.attributeNames attributes
  | .alternatives ps => (Pattern.allNames ps).eraseDups
  | .named p n => p.names ++ [n]
  | .literal _ | .wildcard | .value _ _ => []

/-- The names that some patterns bind. -/
def Pattern.allNames : List Pattern → List String
  | [] => []
  | p :: ps => p.names ++ Pattern.allNames ps

/-- The names that the entries of a mapping pattern bind. -/
def Pattern.entryNames : List (Key × Pattern) → List String
  | [] => []
  | (_, p) :: rest => p.names ++ Pattern.entryNames rest

/-- The names that the attributes of an instance bind. -/
def Pattern.attributeNames : List (String × Pattern) → List String
  | [] => []
  | (_, p) :: rest => p.names ++ Pattern.attributeNames rest

end

/-- **All alternatives of a pattern bind the same names**, and so it is inside them. -/
inductive Pattern.Lawful : Pattern → Prop
  /-- A literal binds nothing. -/
  | literal {c : Constant} : Lawful (.literal c)
  /-- Anything, under a name. -/
  | capture {n : String} : Lawful (.capture n)
  /-- Anything. -/
  | wildcard : Lawful .wildcard
  /-- A value binds nothing. -/
  | value {root : String} {path : List String} : Lawful (.value root path)
  /-- A sequence. -/
  | sequence {parts : List Pattern} (hparts : ∀ p ∈ parts, Lawful p) : Lawful (.sequence parts)
  /-- The parts that are left. -/
  | starred {n : Option String} : Lawful (.starred n)
  /-- A mapping. -/
  | mapping {entries : List (Key × Pattern)} {rest : Option String} (hentries : ∀ k p, (k, p) ∈ entries → Lawful p) :
      Lawful (.mapping entries rest)
  /-- An instance of a type. -/
  | typed {root : String} {path : List String} {parts : List Pattern} {attributes : List (String × Pattern)}
      (hparts : ∀ p ∈ parts, Lawful p) (hattributes : ∀ n p, (n, p) ∈ attributes → Lawful p) :
      Lawful (.typed root path parts attributes)
  /-- What matches one of some patterns. -/
  | alternatives {ps : List Pattern} (hps : ∀ p ∈ ps, Lawful p)
      (hsame : ∀ p ∈ ps, p.names.Perm (Pattern.alternatives ps).names) : Lawful (.alternatives ps)
  /-- What matches a pattern, under a name. -/
  | named {p : Pattern} {n : String} (hp : Lawful p) : Lawful (.named p n)

/-- **The names of a pattern that has been read.** -/
structure Pattern.WellNamed (p : Pattern) : Prop where
  /-- All alternatives bind the same ones. -/
  lawful : p.Lawful
  /-- No name is bound twice. -/
  nodup : p.names.Nodup
  /-- The wildcard binds nothing. -/
  wildcard : "_" ∉ p.names

section Names

theorem Pattern.entryNames_eq (entries : List (Key × Pattern)) :
    Pattern.entryNames entries = entries.flatMap (·.2.names) := by
  induction entries with
  | nil => rfl
  | cons e entries ih => rw [Pattern.entryNames, ih, List.flatMap_cons]

theorem Pattern.attributeNames_eq (attributes : List (String × Pattern)) :
    Pattern.attributeNames attributes = attributes.flatMap (·.2.names) := by
  induction attributes with
  | nil => rfl
  | cons e attributes ih => rw [Pattern.attributeNames, ih, List.flatMap_cons]

end Names

namespace Reader

variable {α β : Type} {r : Reader α} {f : α → Reader β} {known : List String} {names : α → List String}
  {names' : β → List String} {Good : α → Prop} {Good' : β → Prop}

/-- A reading by two readers is one by the first and then one by the second. -/
theorem exists_of_run_bind {s s'' : ReadState} {y : β} (hrun : (r >>= f).run s = some (y, s'')) :
    ∃ x s', r.run s = some (x, s') ∧ (f x).run s' = some (y, s'') := by
  rw [StateT.run_bind] at hrun
  obtain ⟨⟨x, s'⟩, hx, hy⟩ := Option.bind_eq_some_iff.1 hrun
  exact ⟨x, s', hx, hy⟩

/-! ### Readers that bind nothing -/

/-- A reader binds nothing. -/
def Keeps (r : Reader α) : Prop :=
  ∀ s x s', r.run s = some (x, s') → s'.bound = s.bound

theorem keeps_failure : Keeps (failure : Reader α) :=
  fun _ _ _ hrun => absurd hrun.symm (Option.some_ne_none _)

theorem Keeps.bind (h : r.Keeps) (hf : ∀ x, (f x).Keeps) : Keeps (r >>= f) := by
  intro s y s'' hrun
  obtain ⟨x, s', hx, hy⟩ := exists_of_run_bind hrun
  exact (hf x s' y s'' hy).trans (h s x s' hx)

theorem Keeps.unless {c : Prop} [Decidable c] {g : Unit → Reader α} (h : ¬c → (g ()).Keeps) :
    Keeps (if c then failure >>= g else g ()) := by
  split
  · exact keeps_failure
  · next hc => exact h hc

/-- **What a reader binds**: names that have not been bound before and are not the wildcard. With those that were
`known` they are the names of what has been read. -/
def Binds (r : Reader α) (known : List String) (names : α → List String) (Good : α → Prop) : Prop :=
  ∀ s x s', s.bound.Nodup → r.run s = some (x, s') → s'.bound.Nodup ∧ Good x ∧
    ∃ new, s'.bound = new ++ s.bound ∧ "_" ∉ new ∧ (new ++ known).Perm (names x)

theorem binds_failure : Binds failure known names Good :=
  fun _ _ _ _ hrun => absurd hrun.symm (Option.some_ne_none _)

/-- **One reader, and then another one.** -/
theorem Binds.bind (h : r.Binds known names Good)
    (hf : ∀ x, Good x → (f x).Binds (names x) names' Good') : Binds (r >>= f) known names' Good' := by
  intro s y s'' hs hrun
  obtain ⟨x, s', hx, hy⟩ := exists_of_run_bind hrun
  obtain ⟨hs', hgood, new, hnew, hwildcard, hperm⟩ := h s x s' hs hx
  obtain ⟨hs'', hgood', new', hnew', hwildcard', hperm'⟩ := hf x hgood s' y s'' hs' hy
  refine ⟨hs'', hgood', new' ++ new, by rw [hnew', hnew, List.append_assoc], ?_, ?_⟩
  · exact fun hmem => (List.mem_append.1 hmem).elim hwildcard' hwildcard
  · rw [List.append_assoc]
    exact (hperm.append_left new').trans hperm'

/-- Other names may be known besides. -/
theorem Binds.frame (h : r.Binds [] names Good) (known : List String) :
    r.Binds known (fun x => names x ++ known) Good := by
  intro s x s' hs hrun
  obtain ⟨hs', hgood, new, hnew, hwildcard, hperm⟩ := h s x s' hs hrun
  rw [List.append_nil] at hperm
  exact ⟨hs', hgood, new, hnew, hwildcard, hperm.append_right known⟩

theorem Binds.unless {c : Prop} [Decidable c] {g : Unit → Reader α} (h : ¬c → (g ()).Binds known names Good) :
    Binds (if c then failure >>= g else g ()) known names Good := by
  split
  · exact binds_failure
  · next hc => exact h hc

section Items

variable {item : Reader α}

end Items

end Reader

/-! ### Parts of a pattern -/

namespace PatternGrammar

open Reader

section Parts

variable {parts : List Pattern} (hparts : ∀ p ∈ parts, p.Lawful)
include hparts

end Parts

section Rules

variable {pattern : Reader Pattern} (h : pattern.Binds [] Pattern.names Pattern.Lawful)
include h

end Rules

end PatternGrammar

end TokenTemplate.Payload
